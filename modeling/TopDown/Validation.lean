import TopDown.Machine.Basic
import TopDown.Tokenizer

/-!
# Validation: a verdict and a trace

* `TraceStep` : one move, with the height and the top of the stack before it;
* `Validation.recorder` : the recorder that traces a run;
* `validate` : the verdict on an input with its trace;
* `Validation.render` : the trace as a table. Column widths are measured in bytes, padding counts
  characters.
-/

namespace TopDown

/-- One line of a trace. -/
structure TraceStep where
  /-- The number of entries on the stack, the end marker included. -/
  depth : Nat
  top : String
  input : String
  action : String
  deriving DecidableEq

structure Validation where
  accepted : Bool
  trace : List TraceStep
  error : Option ParseError
  deriving DecidableEq

namespace Validation

/-- The label of the stack's top. -/
def topLabel (g : Grammar) : List StackEntry → String
  | [] => ""
  | entry :: _ => entry.label g

/-- A move in words. -/
def describeAction (g : Grammar) (l : Lexeme) : Action → String
  | .shift => "match " ++ l.describe
  | .expand id => "predict " ++ g.describe id
  | .epsilon => "skip " ++ g.emptyName
  | .accept => "accept"

/-- Traces a run; slots carry nothing. -/
def recorder (g : Grammar) : Recorder (Array TraceStep) Unit where
  root _ steps := ((), steps)
  expand _ p _ steps := (.ok (p.body.map fun _ => ()), steps)
  shift _ _ steps := steps
  epsilon _ steps := steps
  step stack l action steps :=
    steps.push ⟨stack.length, topLabel g stack, l.describe ++ " at " ++ toString l.offset,
      describeAction g l action⟩
  reject stack e steps :=
    steps.push ⟨stack.length, topLabel g stack, "offset " ++ toString e.offset,
      "error: " ++ e.message⟩

def padRight (width : Nat) (s : String) : String :=
  s ++ String.ofList (List.replicate (width - s.length) ' ')

def padLeft (width : Nat) (s : String) : String :=
  String.ofList (List.replicate (width - s.length) ' ') ++ s

/-- The width of a column: its widest entry in bytes, or `least`. -/
def columnWidth (least : Nat) (column : List String) : Nat :=
  (column.map String.utf8ByteSize).foldl max least

/-- The trace under a heading, and the verdict. -/
def render (v : Validation) : String :=
  let depthWidth := columnWidth 5 (v.trace.map fun s => toString s.depth)
  let topWidth := columnWidth 3 (v.trace.map TraceStep.top)
  let inputWidth := columnWidth 5 (v.trace.map TraceStep.input)
  let line := fun (depth top input action : String) =>
    padLeft depthWidth depth ++ "  " ++ padRight topWidth top ++ "  " ++
      padRight inputWidth input ++ "  " ++ action ++ "\n"
  line "depth" "top" "input" "action" ++
    String.join (v.trace.map fun s => line (toString s.depth) s.top s.input s.action) ++
    (if v.accepted then "accepted\n" else "rejected\n")

end Validation

/-- The verdict on an input, with a trace of the run. -/
def validate (g : Grammar) (t : Table) (tokenizer : Tokenizer) (input : String) : Validation :=
  match Machine.drive g t (Validation.recorder g) (tokenizer.scan input).lexemes #[] with
  | (.ok (), steps) => ⟨true, steps.toList, none⟩
  | (.error e, steps) => ⟨false, steps.toList, some e⟩

end TopDown
