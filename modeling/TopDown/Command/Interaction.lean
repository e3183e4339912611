import TopDown.Command.Directory

/-!
# Interactions with files and a terminal

What a command does to the world around it is told as a value, so that one command can be run on
real files as well as on a directory that is held in memory.

* `Interaction` : the steps of a command up to its exit code;
* `Interaction.runIn` : the outcome of an interaction in a directory held in memory.
-/

namespace TopDown.Command

/-- The steps of a command. -/
inductive Interaction where
  | read (path : String) (next : Except FileFault String → Interaction)
  /-- Makes a file empty, which need not be there yet. -/
  | create (path : String) (next : Except FileFault Unit → Interaction)
  /-- Fills a file that was created. -/
  | write (path text : String) (next : Interaction)
  | print (text : String) (next : Interaction)
  /-- Prints to the stream of diagnostics. -/
  | report (text : String) (next : Interaction)
  | exit (code : Nat)

/-- How a command ended. -/
structure Outcome where
  code : Nat
  output : String
  diagnostics : String
  directory : Directory
  deriving DecidableEq

namespace Interaction

/-- Performs all steps in a directory, behind what has been printed so far. -/
def runFrom (output diagnostics : String) (d : Directory) : Interaction → Outcome
  | read path next => (next (d.read path)).runFrom output diagnostics d
  | create path next =>
    match d.create path with
    | .ok d' => (next (.ok ())).runFrom output diagnostics d'
    | .error fault => (next (.error fault)).runFrom output diagnostics d
  | write path text next =>
    match Device.ofPlace? (.ofPath path) with
    | none => next.runFrom output diagnostics (d.put path text)
    | some .sink => next.runFrom output diagnostics d
    | some .output => next.runFrom (output ++ text) diagnostics d
    | some .diagnostics => next.runFrom output (diagnostics ++ text) d
  | print text next => next.runFrom (output ++ text) diagnostics d
  | report text next => next.runFrom output (diagnostics ++ text) d
  | exit code => ⟨code, output, diagnostics, d⟩

/-- Performs all steps in a directory. -/
def runIn (d : Directory) (i : Interaction) : Outcome := i.runFrom "" "" d

end Interaction

end TopDown.Command
