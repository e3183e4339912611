import TopDown.Unicode.BinaryProperty
import TopDown.Unicode.CaseFold

/-!
# Sets of characters in patterns

* `CharSet` : a set of characters, as ranges;
* `CharSet.negateIf` : the complement, if asked for;
* `CharSet.digit`, `CharSet.blank`, `CharSet.word` : the classes that a backslash and a letter name;
* `CharSet.ofClassName?` : the set of an ASCII class such as `alpha`.
-/

namespace TopDown.Pattern

open Unicode

/-- A set of characters. -/
abbrev CharSet := Ranges

namespace CharSet

def ofChar (c : Char) : CharSet := .singleton c.toNat

/-- Whether a character is in the set. -/
def has (s : CharSet) (c : Char) : Bool := Ranges.contains s c.toNat

/-- The character of a set that has no other. -/
def only? : CharSet → Option Char
  | [(lo, hi)] => if lo = hi then some (Char.ofNat lo) else none
  | _ => none

/-- Every character but the line feed. -/
def notNewline : CharSet := Ranges.compl (ofChar '\n')

def all : CharSet := Ranges.compl []

def negateIf (negated : Bool) (s : CharSet) : CharSet := if negated then Ranges.compl s else s

/-! ## Classes that a backslash and a letter name -/

/-- Decimal digits, in all scripts or in ASCII. -/
def digit (unicode : Bool) : CharSet :=
  if unicode then categorySet (· == .nd) else [(0x30, 0x39)]

/-- White space, in all scripts or in ASCII. -/
def blank (unicode : Bool) : CharSet := if unicode then whiteSpace else [(9, 13), (0x20, 0x20)]

/-- Word characters, in all scripts or in ASCII. -/
def word (unicode : Bool) : CharSet :=
  if unicode then wordChars else [(0x30, 0x39), (0x41, 0x5A), (0x5F, 0x5F), (0x61, 0x7A)]

/-! ## ASCII classes -/

def classNames : List (String × CharSet) :=
  [("alnum", [(0x30, 0x39), (0x41, 0x5A), (0x61, 0x7A)]), ("alpha", [(0x41, 0x5A), (0x61, 0x7A)]),
   ("ascii", [(0, 0x7F)]), ("blank", [(9, 9), (0x20, 0x20)]),
   ("cntrl", [(0, 0x1F), (0x7F, 0x7F)]), ("digit", digit false), ("graph", [(0x21, 0x7E)]),
   ("lower", [(0x61, 0x7A)]), ("print", [(0x20, 0x7E)]),
   ("punct", [(0x21, 0x2F), (0x3A, 0x40), (0x5B, 0x60), (0x7B, 0x7E)]), ("space", blank false),
   ("upper", [(0x41, 0x5A)]), ("word", word false),
   ("xdigit", [(0x30, 0x39), (0x41, 0x46), (0x61, 0x66)])]

/-- The characters of an ASCII class. -/
def ofClassName? (name : List Char) : Option CharSet := classNames.lookup (String.ofList name)

end CharSet

end TopDown.Pattern
