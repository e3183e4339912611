import TopDown.Unicode.Category
import TopDown.Unicode.PropertyData

/-!
# Properties of characters

What diagnostics and names go by. Each property is a union of general categories, corrected by a
short list of exceptions.

* `isAlphabetic`, `isAlphanumeric` : letters in the wide sense, with or without numbers;
* `isIdentifierStart`, `isIdentifierContinue` : the closed identifier classes `XID_Start` and
  `XID_Continue`;
* `isGraphemeExtend` : marks that join the character before them;
* `isFiller` : characters that stand for something left out and show as nothing;
* `isPrintable` : characters that may be shown as they are.
-/

namespace TopDown.Unicode

def isAlphabetic (c : Char) : Bool :=
  let k := category c
  k.isLetter || k == .nl || otherAlphabetic.contains c.toNat || recentAlphabetic.contains c.toNat

def isAlphanumeric (c : Char) : Bool := isAlphabetic c || (category c).isNumber

/-- Letters and letter numbers that cannot start an identifier once it is normalised. -/
def notIdentifierStart : Ranges := Ranges.ofLines
  ["37a e33 eb3 2e2f fc5e-fc63 fdfa-fdfb fe70 fe72 fe74 fe76 fe78 fe7a fe7c fe7e ff9e-ff9f"]

/-- Letters that cannot continue an identifier once it is normalised. -/
def notIdentifierContinue : Ranges := Ranges.ofLines
  ["37a 2e2f fc5e-fc63 fdfa-fdfb fe70 fe72 fe74 fe76 fe78 fe7a fe7c fe7e"]

/-- Voicing marks of kana, which stand apart once they are normalised. -/
def voicingMarks : Ranges := Ranges.ofLines ["309b-309c"]

/-- Letters that version 18 added, of which only identifiers know. -/
def newestLetters : Ranges := Ranges.ofLines ["558 208f 209d-209f 3d000-3fc3f"]

def isIdentifierStart (c : Char) : Bool :=
  let k := category c
  ((k.isLetter || k == .nl || otherIdStart.contains c.toNat) &&
      !notIdentifierStart.contains c.toNat && !voicingMarks.contains c.toNat) ||
    newestLetters.contains c.toNat

def isIdentifierContinue (c : Char) : Bool :=
  let k := category c
  ((k.isLetter || k == .nl || k == .mn || k == .mc || k == .nd || k == .pc ||
      otherIdStart.contains c.toNat || otherIdContinue.contains c.toNat) &&
      !notIdentifierContinue.contains c.toNat && !voicingMarks.contains c.toNat) ||
    newestLetters.contains c.toNat

def isGraphemeExtend (c : Char) : Bool :=
  let k := category c
  k == .mn || k == .me || otherGraphemeExtend.contains c.toNat

/-- Fillers of syllables and reserved code points of their kind. -/
def isFiller (c : Char) : Bool := otherDefaultIgnorable.contains c.toNat

/-- Everything but controls, formats, private use, unassigned code points and separators other
than the space. -/
def isPrintable (c : Char) : Bool :=
  let k := category c
  c == ' ' || (!k.isOther && !k.isSeparator)

end TopDown.Unicode
