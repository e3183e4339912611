import TopDown.Command.Run

/-!
# The program

`main` performs the interaction of its arguments on real files and the standard streams.
-/

namespace TopDown.Command

/-- Why the system refused to open a file. -/
def faultOf : IO.Error → FileFault
  | .noFileOrDirectory .. => .missing
  | .noSuchThing .. => .missing
  | .inappropriateType _ code _ => if code = 20 then .notDirectory else .isDirectory
  | .invalidArgument _ code details => if code = 36 then .nameTooLong else .other details
  | e => .other (toString e)

/-- Performs an action on files and keeps the fault if it fails. -/
def attempt {α : Type} (action : IO α) : IO (Except FileFault α) := do
  try return .ok (← action)
  catch e => return .error (faultOf e)

/-- Performs all steps and gives the exit code. -/
def Interaction.perform : Interaction → IO Nat
  | read path next => do (next (← attempt (IO.FS.readFile path))).perform
  | create path next => do (next (← attempt (IO.FS.writeFile path ""))).perform
  | write path text next => do
    IO.FS.writeFile path text
    next.perform
  | print text next => do
    IO.print text
    next.perform
  | report text next => do
    IO.eprint text
    next.perform
  | exit code => return code

end TopDown.Command

def main (args : List String) : IO UInt32 := do
  return (← (TopDown.Command.interaction args).perform).toUInt32
