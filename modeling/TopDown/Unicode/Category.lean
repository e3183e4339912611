import TopDown.Unicode.CategoryData
import TopDown.Unicode.Ranges

/-!
# General categories

* `Category` : the general categories of Unicode;
* `categoryRuns` : the code points in runs of one category, as of version 16;
* `recentCategories` : the characters that version 17 added, with their categories;
* `category c` : the category of a character as of version 17;
* `categorySet p` : the characters of some categories as of version 16.
-/

namespace TopDown.Unicode

/-- The general category of a code point. -/
inductive Category where
  | lu | ll | lt | lm | lo
  | mn | mc | me
  | nd | nl | no
  | pc | pd | ps | pe | pi | pf | po
  | sm | sc | sk | so
  | zs | zl | zp
  | cc | cf | cs | co | cn
  deriving DecidableEq

namespace Category

def isLetter : Category → Bool
  | lu | ll | lt | lm | lo => true
  | _ => false

/-- Letters with a case. -/
def isCasedLetter : Category → Bool
  | lu | ll | lt => true
  | _ => false

def isMark : Category → Bool
  | mn | mc | me => true
  | _ => false

def isNumber : Category → Bool
  | nd | nl | no => true
  | _ => false

def isPunctuation : Category → Bool
  | pc | pd | ps | pe | pi | pf | po => true
  | _ => false

/-- Symbols of mathematics, currencies and all else. -/
def isSign : Category → Bool
  | sm | sc | sk | so => true
  | _ => false

def isSeparator : Category → Bool
  | zs | zl | zp => true
  | _ => false

/-- Controls, formats, surrogates, private use and unassigned code points. -/
def isOther : Category → Bool
  | cc | cf | cs | co | cn => true
  | _ => false

/-- All categories with their two letters. -/
def letters : List (String × Category) :=
  [("Lu", lu), ("Ll", ll), ("Lt", lt), ("Lm", lm), ("Lo", lo), ("Mn", mn), ("Mc", mc), ("Me", me),
   ("Nd", nd), ("Nl", nl), ("No", no), ("Pc", pc), ("Pd", pd), ("Ps", ps), ("Pe", pe), ("Pi", pi),
   ("Pf", pf), ("Po", po), ("Sm", sm), ("Sc", sc), ("Sk", sk), ("So", so), ("Zs", zs), ("Zl", zl),
   ("Zp", zp), ("Cc", cc), ("Cf", cf), ("Cs", cs), ("Co", co), ("Cn", cn)]

/-- The category with these two letters. -/
def ofLetters (s : List Char) : Category := (letters.lookup (String.ofList s)).getD .cn

end Category

/-- Code points of one category. -/
structure CategoryRun where
  first : Nat
  last : Nat
  category : Category

/-- The runs of `categoryLines`. -/
def categoryRuns : Array CategoryRun :=
  (((categoryLines.flatMap (·.splitOn " ")).foldl
    (fun (start, runs) (run : String) =>
      let (size, letters) := readHex 0 run.toList
      (start + size, ⟨start, start + size - 1, .ofLetters letters⟩ :: runs))
    (0, [])).2).reverse.toArray

/-- One range of `recentLines`. -/
def readRecent (s : List Char) : CategoryRun :=
  match readHex 0 s with
  | (first, '-' :: rest) =>
    let (last, letters) := readHex 0 rest
    ⟨first, last, .ofLetters letters⟩
  | (first, letters) => ⟨first, first, .ofLetters letters⟩

def recentCategories : List CategoryRun :=
  (recentLines.flatMap (·.splitOn " ")).map fun r => readRecent r.toList

/-- The category of the last run between `lo` and `hi` that starts at `n` or below, given that the
one at `lo` does. -/
def bisect (runs : Array CategoryRun) (n lo hi : Nat) : Category :=
  if lo + 1 < hi then
    let mid := (lo + hi) / 2
    match runs[mid]? with
    | some run => if run.first ≤ n then bisect runs n mid hi else bisect runs n lo mid
    | none => .cn
  else
    match runs[lo]? with
    | some run => run.category
    | none => .cn
termination_by hi - lo
decreasing_by all_goals omega

/-- The general category of a character. -/
def category (c : Char) : Category :=
  match recentCategories.find? fun r => r.first ≤ c.toNat && c.toNat ≤ r.last with
  | some r => r.category
  | none => bisect categoryRuns c.toNat 0 categoryRuns.size

/-- The characters of the categories that `p` holds of. -/
def categorySet (p : Category → Bool) : Ranges :=
  .join ((categoryRuns.toList.filter fun r => p r.category && r.category != .cs).map fun r =>
    (r.first, r.last))

end TopDown.Unicode
