import TopDown.Text.Blank
import TopDown.Unicode.Property

/-!
# Identifiers of emitted source

* `skipFiller` : a text without its leading blanks and comments. Documentation comments are no
  filler;
* `readIdentifier` : an identifier, plain or raw, and the rest after it;
* `identifier?` : the identifier that fills a text, filler apart. Keywords and a lone underscore are
  none.
-/

namespace TopDown.Emission

open Text

/-- Words that cannot be identifiers. -/
def keywords : List String :=
  ["_", "abstract", "as", "async", "await", "become", "box", "break", "const", "continue", "crate",
   "do", "dyn", "else", "enum", "extern", "false", "final", "fn", "for", "if", "impl", "in", "let",
   "loop", "macro", "match", "mod", "move", "mut", "override", "priv", "pub", "ref", "return",
   "Self", "self", "static", "struct", "super", "trait", "true", "try", "type", "typeof", "unsafe",
   "unsized", "use", "virtual", "where", "while", "yield"]

/-- Words that cannot be identifiers in raw form either. -/
def rawKeywords : List String := ["_", "self", "Self", "super", "crate"]

/-- White space between words; the two direction marks count as such. -/
def isFillerBlank (c : Char) : Bool := isBlank c || c.toNat == 0x200E || c.toNat == 0x200F

/-- The text after the end of a block comment of which `depth` levels are open. -/
def afterBlockComment (depth : Nat) : List Char → Option (List Char)
  | [] => none
  | '/' :: '*' :: s => afterBlockComment (depth + 1) s
  | '*' :: '/' :: s => if depth ≤ 1 then some s else afterBlockComment (depth - 1) s
  | _ :: s => afterBlockComment depth s

/-- The text after a comment at the start of `s`, if there is one. -/
def afterComment? : List Char → Option (List Char)
  | '/' :: '/' :: '!' :: _ => none
  | '/' :: '/' :: '/' :: '/' :: s => some (s.dropWhile (· != '\n'))
  | '/' :: '/' :: '/' :: _ => none
  | '/' :: '/' :: s => some (s.dropWhile (· != '\n'))
  | '/' :: '*' :: '*' :: '/' :: s => some s
  | '/' :: '*' :: '!' :: _ => none
  | '/' :: '*' :: '*' :: '*' :: s => afterBlockComment 1 ('*' :: '*' :: s)
  | '/' :: '*' :: '*' :: _ => none
  | '/' :: '*' :: s => afterBlockComment 1 s
  | _ => none

/-- Drops up to `n` blanks and comments. -/
def skipFillers : Nat → List Char → List Char
  | 0, s => s
  | n + 1, s =>
    match afterComment? s with
    | some rest => skipFillers n rest
    | none =>
      match s with
      | [] => []
      | c :: cs => if isFillerBlank c then skipFillers n cs else c :: cs

def skipFiller (s : List Char) : List Char := skipFillers s.length s

def isStart (c : Char) : Bool :=
  if c.toNat < 128 then c.isAlpha || c == '_' else Unicode.isIdentifierStart c

def isContinue (c : Char) : Bool :=
  if c.toNat < 128 then c.isAlphanum || c == '_' else Unicode.isIdentifierContinue c

/-- A word that could be an identifier, and the rest after it. -/
def readWord : List Char → Option (List Char × List Char)
  | [] => none
  | c :: s => if isStart c then some (c :: s.takeWhile isContinue, s.dropWhile isContinue) else none

/-- An identifier, with its mark if it is raw, and the rest after it. -/
def readIdentifier : List Char → Option (String × List Char)
  | 'r' :: '#' :: s =>
    match readWord s with
    | some (word, rest) =>
      if String.ofList word ∈ rawKeywords then none
      else some ("r#" ++ String.ofList word, rest)
    | none => none
  | s =>
    match readWord s with
    | some (word, rest) =>
      if String.ofList word ∈ keywords then none else some (String.ofList word, rest)
    | none => none

/-- The identifier that a text consists of, blanks and comments around it apart. -/
def identifier? (text : List Char) : Option String :=
  match readIdentifier (skipFiller (dropByteOrderMark text)) with
  | some (name, rest) => if (skipFiller rest).isEmpty then some name else none
  | none => none

end TopDown.Emission
