import TopDown.Machine.Basic

/-!
# Journals of runs

`Journal.recorder` numbers the slots it gives out and notes every event of a run. It can be told to
refuse the expansion with a given number, which rejects the input.
-/

namespace TopDown

/-- One event of a run. Stacks are given bottom first. -/
inductive Event where
  | root (start : Nat)
  | step (stack : List StackEntry) (lookahead : Lexeme) (action : Action)
  | expand (parent : Nat) (slots : List Nat)
  | shift (slot : Nat) (text : String)
  | epsilon (slot : Nat)
  | reject (stack : List StackEntry) (error : ParseError)
  deriving DecidableEq

/-- The events so far, and how many slots and expansions there have been. -/
structure Journal where
  events : Array Event := #[]
  slots : Nat := 0
  expansions : Nat := 0

namespace Journal

def note (j : Journal) (e : Event) : Journal := { j with events := j.events.push e }

/-- The recorder that notes every event. It refuses expansion number `failAfter`, counted from
zero. -/
def recorder (failAfter : Option Nat) : Recorder Journal Nat where
  root start j := (0, { j.note (.root start) with slots := 1 })
  expand parent p l j :=
    if failAfter = some j.expansions then (.error (.tooDeep l.offset j.expansions), j)
    else
      let slots := p.body.zipIdx.map fun (_, i) => j.slots + i
      (.ok slots, { j.note (.expand parent slots) with
        slots := j.slots + p.body.length, expansions := j.expansions + 1 })
  shift slot t j := j.note (.shift slot t.text)
  epsilon slot j := j.note (.epsilon slot)
  step stack l action j := j.note (.step stack.reverse l action)
  reject stack e j := j.note (.reject stack.reverse e)

/-- The verdict on a stream and the events of the run. -/
def run (g : Grammar) (t : Table) (failAfter : Option Nat) (stream : List Pull) :
    Except ParseError Unit × List Event :=
  let (verdict, j) := Machine.drive g t (recorder failAfter) stream {}
  (verdict, j.events.toList)

end Journal

end TopDown
