import TopDown.Lexicon.Basic
import TopDown.Lexicon.Line
import TopDown.Text.Lines

/-!
# Lexicon texts

* `Lexicon.ofLines` : the rules in order with priorities from one, then all separators, which share
  the priority after the last rule's;
* `Lexicon.parse` : the lexicon of a text, or the fault of its first bad line;
* `Lexicon.lint` : the lexicon of the good lines and the faults of all bad ones.
-/

namespace TopDown.Lexicon

open Text

/-- The rule lines among `ls` as names and patterns. -/
def rulesOf (ls : List Line) : List (String × String) :=
  ls.filterMap fun
    | .rule name pattern => some (name, pattern)
    | _ => none

/-- The separator patterns of `ls`, line after line. -/
def separatorsOf (ls : List Line) : List String :=
  ls.flatMap fun
    | .separators patterns => patterns
    | _ => []

def ofLines (ls : List Line) : Lexicon where
  rules :=
    (rulesOf ls).zipIdx.map (fun ((name, pattern), i) => ⟨name, pattern, i + 1, false⟩) ++
      (separatorsOf ls).map fun pattern =>
        ⟨Rule.separatorName, pattern, (rulesOf ls).length + 1, true⟩

/-- One numbered line, its fault placed at that line. -/
def readNumbered (line : Nat × List Char) : Except SpecError Line :=
  match Line.read line.2 with
  | .ok l => .ok l
  | .error fault => .error (.lexicon line.1 (String.ofList line.2) fault)

/-- The lexicon of a text. Reading stops at the first bad line. -/
def parse (text : String) : Except SpecError Lexicon :=
  match (numberedLines text.toList).mapM readNumbered with
  | .ok ls => .ok (ofLines ls)
  | .error e => .error e

/-- The lexicon of the good lines of a text, and one fault for every bad line. -/
def lint (text : String) : Lexicon × List SpecError :=
  let results := (numberedLines text.toList).map readNumbered
  (ofLines (results.filterMap Except.toOption),
    results.filterMap fun
      | .error e => some e
      | .ok _ => none)

end TopDown.Lexicon
