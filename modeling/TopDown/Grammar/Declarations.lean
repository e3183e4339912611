import TopDown.Grammar.Piece
import TopDown.SpecError
import TopDown.Text.Lines

/-!
# Grammar texts

A grammar text has production lines (`NAME -> alternatives`), continuation lines (`| alternatives`),
comments (`#`) and blank lines. Nothing here knows the lexicon; the words of a body get their
meaning in `TopDown.Grammar.Resolve`.

* `Alternative`, `Declaration` : one alternative, and all alternatives of one left-hand side;
* `Line.read` : what one line says;
* `alternativesOf` : the trimmed alternatives of a line;
* `Declarations.parse` : the declarations of a text, or the fault of its first bad line.
-/

namespace TopDown.Grammar

open Text

/-- One alternative and the line it stands on. -/
structure Alternative where
  line : Nat
  text : String
  deriving DecidableEq

/-- All alternatives of one left-hand side, with the line that names it first. -/
structure Declaration where
  lhs : String
  line : Nat
  alternatives : List Alternative
  deriving DecidableEq

/-- The declarations of a grammar text, in order of their first line. -/
abbrev Declarations := List Declaration

/-- What one line of a grammar text says. -/
inductive Line where
  | skip
  | production (lhs : String) (body : List Char)
  | continuation (body : List Char)
  deriving DecidableEq

def isNonterminalChar (c : Char) : Bool := c.isUpper || c == '_'

/-- A nonterminal name and the rest after it: an upper-case letter, then upper-case letters and
underscores, then at most one prime. -/
def readNonterminal : List Char → Option (List Char × List Char)
  | [] => none
  | c :: s =>
    if c.isUpper then
      let name := c :: s.takeWhile isNonterminalChar
      match s.dropWhile isNonterminalChar with
      | '\'' :: rest => some (name ++ ['\''], rest)
      | rest => some (name, rest)
    else none

/-- The left-hand side of a production line and what follows its arrow. -/
def readHead (s : List Char) : Option (List Char × List Char) :=
  match readNonterminal s with
  | none => none
  | some (name, rest) =>
    match skipGap rest with
    | '-' :: '>' :: body => some (name, body)
    | _ => none

/-- Reads one line of a grammar text, outer blanks apart. -/
def Line.read (raw : List Char) : Except LineFault Line :=
  match trim raw with
  | [] => .ok .skip
  | '#' :: _ => .ok .skip
  | line =>
    match readHead line with
    | some (name, body) => .ok (.production (String.ofList name) body)
    | none =>
      match line with
      | '|' :: body => .ok (.continuation body)
      | _ => .error .missingArrow

/-- The alternatives of a line's body, trimmed; none may be empty. -/
def alternativesOf (body : List Char) : Except LineFault (List String) :=
  match splitAlternatives body with
  | none => .error .unterminatedQuote
  | some parts =>
    let parts := parts.map trim
    if parts.any List.isEmpty then .error .emptyAlternative
    else .ok (parts.map String.ofList)

namespace Declarations

/-- The left-hand sides in order. -/
def names (ds : Declarations) : List String := ds.map Declaration.lhs

/-- Declares a left-hand side, unless it is there already. -/
def declare (ds : Declarations) (lhs : String) (line : Nat) : Declarations :=
  if ds.any (·.lhs = lhs) then ds else ds ++ [⟨lhs, line, []⟩]

/-- Adds alternatives to a left-hand side. -/
def extend (ds : Declarations) (lhs : String) (alternatives : List Alternative) : Declarations :=
  ds.map fun d =>
    if d.lhs = lhs then { d with alternatives := d.alternatives ++ alternatives } else d

/-- The declarations read so far, and the left-hand side that a continuation line belongs to. -/
structure Reading where
  declarations : Declarations
  current : Option String

/-- Adds the alternatives of one body, which stands on line `n`. -/
def Reading.add (r : Reading) (n : Nat) (lhs : String) (body : List Char) :
    Except LineFault Reading :=
  match alternativesOf body with
  | .error fault => .error fault
  | .ok texts => .ok ⟨r.declarations.extend lhs (texts.map (⟨n, ·⟩)), some lhs⟩

def Reading.readLine (r : Reading) (n : Nat) (raw : List Char) : Except LineFault Reading :=
  match Line.read raw with
  | .error fault => .error fault
  | .ok .skip => .ok r
  | .ok (.production lhs body) => Reading.add ⟨r.declarations.declare lhs n, some lhs⟩ n lhs body
  | .ok (.continuation body) =>
    match r.current with
    | none => .error .danglingAlternative
    | some lhs => r.add n lhs body

/-- One numbered line, its fault placed at that line. -/
def Reading.readNumbered (r : Reading) (line : Nat × List Char) : Except SpecError Reading :=
  match r.readLine line.1 line.2 with
  | .ok r => .ok r
  | .error fault => .error (.grammar line.1 (String.ofList line.2) fault)

/-- The declarations of a grammar text. Reading stops at the first bad line. -/
def parse (text : String) : Except SpecError Declarations :=
  match (numberedLines text.toList).foldlM Reading.readNumbered ⟨[], none⟩ with
  | .ok r => .ok r.declarations
  | .error e => .error e

end Declarations

end TopDown.Grammar
