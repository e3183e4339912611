/-!
# Sets of characters as ranges

* `Ranges` : inclusive ranges of code points, ascending and apart from each other;
* `Ranges.contains` : membership, which stops at the first range above the code point;
* `Ranges.union`, `Ranges.compl` : the union of two sets, and all characters outside of one. The
  other set operations are made of these two. Surrogates are no characters, so no complement holds
  them;
* `Ranges.ofLines` : ranges from lines such as `41-5a 5f`, in hexadecimal.
-/

namespace TopDown.Unicode

/-- Inclusive ranges of code points in ascending order, with a gap between each two. -/
abbrev Ranges := List (Nat × Nat)

namespace Ranges

def contains : Ranges → Nat → Bool
  | [], _ => false
  | (lo, hi) :: rs, n => if n < lo then false else if n ≤ hi then true else contains rs n

/-! ## Set operations -/

/-- The range from `lo` to `hi`, joined with those after it that it meets. -/
def joinFrom (lo hi : Nat) : List (Nat × Nat) → Ranges
  | [] => [(lo, hi)]
  | (a, b) :: rs => if a ≤ hi + 1 then joinFrom lo (max hi b) rs else (lo, hi) :: joinFrom a b rs

/-- Ranges that ascend by their first code points, joined where they meet. -/
def join : List (Nat × Nat) → Ranges
  | [] => []
  | (lo, hi) :: rs => joinFrom lo hi rs

def union (a b : Ranges) : Ranges := join (a.merge b fun r s => r.1 ≤ s.1)

/-- The code points from `n` on that are in no range. -/
def gapsFrom (n : Nat) : Ranges → Ranges
  | [] => if n ≤ 0x10FFFF then [(n, 0x10FFFF)] else []
  | (lo, hi) :: rs =>
    if n < lo then (n, lo - 1) :: gapsFrom (hi + 1) rs else gapsFrom (hi + 1) rs

/-- Code points that are no characters. -/
def surrogates : Ranges := [(0xD800, 0xDFFF)]

def compl (a : Ranges) : Ranges := gapsFrom 0 (a.union surrogates)

def inter (a b : Ranges) : Ranges := (a.compl.union b.compl).compl

def diff (a b : Ranges) : Ranges := (a.compl.union b).compl

def symmDiff (a b : Ranges) : Ranges := (a.diff b).union (b.diff a)

/-- The union of a list of sets. -/
def unions (sets : List Ranges) : Ranges := sets.foldr union []

def singleton (n : Nat) : Ranges := [(n, n)]

/-- The characters from `lo` to `hi`. -/
def between (lo hi : Nat) : Ranges := diff [(lo, hi)] surrogates

/-- Whether all characters are below `n`. -/
def isBelow (n : Nat) (a : Ranges) : Bool := a.all fun r => r.2 < n

end Ranges

/-! ## Written ranges -/

/-- The value of a hexadecimal digit in lower case. -/
def lowerHexDigit? (c : Char) : Option Nat :=
  if '0' ≤ c ∧ c ≤ '9' then some (c.toNat - '0'.toNat)
  else if 'a' ≤ c ∧ c ≤ 'f' then some (c.toNat - 'a'.toNat + 10)
  else none

/-- The hexadecimal number at the start of a text, after the digits of `n`, and the rest. -/
def readHex (n : Nat) : List Char → Nat × List Char
  | [] => (n, [])
  | c :: s =>
    match lowerHexDigit? c with
    | some d => readHex (16 * n + d) s
    | none => (n, c :: s)

/-- Every `step`-th code point from `lo` to `hi`, each a range of its own. -/
def everyNth (lo hi step : Nat) : Ranges :=
  (List.range ((hi - lo) / step + 1)).map fun i => (lo + step * i, lo + step * i)

/-- A single code point, a range such as `41-5a`, or one such as `100-12e/2` of which only every
second code point counts. -/
def readRange (s : List Char) : Ranges :=
  match readHex 0 s with
  | (lo, '-' :: rest) =>
    match readHex 0 rest with
    | (hi, '/' :: step) => everyNth lo hi (readHex 0 step).1
    | (hi, _) => [(lo, hi)]
  | (lo, _) => [(lo, lo)]

/-- Ranges from lines of hexadecimal ranges between spaces. -/
def Ranges.ofLines (lines : List String) : Ranges :=
  (lines.flatMap (·.splitOn " ")).flatMap fun r => readRange r.toList

end TopDown.Unicode
