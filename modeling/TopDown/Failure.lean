import TopDown.Emission.Name
import TopDown.ParseError
import TopDown.SpecError
import TopDown.Table.Strategy

/-!
# Failures

`Failure` : all that can go wrong between the two texts of a language and a finished parser, with
its kind and its wording.
-/

namespace TopDown

/-- Any failure. -/
inductive Failure where
  | spec (cause : SpecError)
  | lexical (cause : LexError)
  | determinism (cause : DeterminismError)
  | parse (cause : ParseError)
  | emit (cause : EmitError)
  deriving DecidableEq

namespace Failure

/-- The name of the kind. A fault of a text is of one kind if one line is to blame and of another
if the line is well formed. -/
def kind : Failure → String
  | spec cause => if cause.isOfLine then "syntax" else "semantic"
  | lexical _ => "lexical"
  | determinism _ => "determinism"
  | parse _ => "parse"
  | emit _ => "emit"

def message : Failure → String
  | spec cause => cause.message
  | lexical cause => cause.message
  | determinism cause => cause.message
  | parse cause => cause.message
  | emit cause => cause.message

end Failure

end TopDown
