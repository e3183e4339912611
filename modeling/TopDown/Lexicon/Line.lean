import TopDown.SpecError
import TopDown.Text.Blank
import TopDown.Text.Quoted

/-!
# Lines of a lexicon text

A line is blank, a comment (`#`), a list of separators (`%" ", "\t"`) or a rule
(`NAME := "pattern"`).

* `readName` : a rule name, an upper-case letter and then upper-case letters, digits, underscores;
* `readSeparators` : quoted texts between commas, up to the end of the line;
* `readRule` : a rule and what stands behind its pattern;
* `Line.read` : one line, or the fault that explains best why it is none.
-/

namespace TopDown.Lexicon

open Text

/-- What one line of a lexicon says. -/
inductive Line where
  | skip
  | separators (patterns : List String)
  | rule (name pattern : String)
  deriving DecidableEq

def isNameChar (c : Char) : Bool := c.isUpper || c.isDigit || c == '_'

/-- A rule name and the rest after it. -/
def readName : List Char → Option (List Char × List Char)
  | [] => none
  | c :: s =>
    if c.isUpper then some (c :: s.takeWhile isNameChar, s.dropWhile isNameChar) else none

/-- One or more quoted texts between commas that fill the input, gaps allowed around the commas
and at the end. -/
def readSeparators (s : List Char) : Option (List (List Char)) :=
  match h : Quoted.read '"' s with
  | none => none
  | some (t, rest) =>
    match h' : skipGap rest with
    | [] => some [t]
    | ',' :: more =>
      have : (skipGap more).length < s.length := by
        have h₁ := Quoted.length_read h
        have h₂ := length_skipGap_le rest
        have h₃ := length_skipGap_le more
        rw [h', List.length_cons] at h₂
        omega
      (readSeparators (skipGap more)).map (t :: ·)
    | _ => none
termination_by s.length

/-- The name and the pattern of a rule, and what stands behind the pattern. -/
def readRule (s : List Char) : Option (List Char × List Char × List Char) :=
  match readName s with
  | none => none
  | some (name, afterName) =>
    match skipGap afterName with
    | ':' :: '=' :: afterAssign =>
      match Quoted.read '"' (skipGap afterAssign) with
      | some (pattern, rest) => some (name, pattern, rest)
      | none => none
    | _ => none

/-- The text before and after the first `:=`. -/
def splitAssign : List Char → Option (List Char × List Char)
  | [] => none
  | ':' :: '=' :: s => some ([], s)
  | c :: s => (splitAssign s).map fun (before, after) => (c :: before, after)

/-- The text is one rule name and nothing more. -/
def isName (s : List Char) : Bool :=
  match readName s with
  | some (_, []) => true
  | _ => false

/-- Why a line that should be a rule is none. -/
def diagnose (line : List Char) : LineFault :=
  match splitAssign line with
  | none => .missingAssign
  | some (name, pattern) =>
    if !isName (trim name) then .invalidName
    else match trimStart pattern with
      | '"' :: _ => .unterminatedQuote
      | _ => .missingQuote

/-- Reads one line of a lexicon, outer blanks apart. -/
def Line.read (raw : List Char) : Except LineFault Line :=
  match trim raw with
  | [] => .ok .skip
  | '#' :: _ => .ok .skip
  | '%' :: list =>
    match readSeparators (skipGap list) with
    | some patterns => .ok (.separators (patterns.map String.ofList))
    | none =>
      .error (if leavesQuoteOpen false ('%' :: list) then .unterminatedQuote
        else .malformedSeparators)
  | line =>
    match readRule line with
    | some (name, pattern, rest) =>
      if (trim rest).isEmpty then .ok (.rule (String.ofList name) (String.ofList pattern))
      else .error .trailingText
    | none => .error (diagnose line)

end TopDown.Lexicon
