import TopDown.Token

/-!
# Parse errors

`ParseError` : why an input was rejected, always with the byte offset at which it happened.
-/

namespace TopDown

/-- Why an input was rejected. -/
inductive ParseError where
  | lexical (cause : LexError)
  | unexpected (offset : Nat) (expected : List String) (found : String)
  | tooDeep (offset limit : Nat)
  deriving DecidableEq

namespace ParseError

def offset : ParseError → Nat
  | lexical (.noMatch offset _) => offset
  | lexical (.invalidPattern ..) => 0
  | unexpected offset .. => offset
  | tooDeep offset _ => offset

def message : ParseError → String
  | lexical cause => cause.message
  | unexpected offset expected found =>
    "syntax error at offset " ++ toString offset ++ ": expected " ++
      " or ".intercalate expected ++ ", found " ++ found
  | tooDeep offset limit =>
    "parse tree deeper than " ++ toString limit ++ " levels at offset " ++ toString offset

end ParseError

end TopDown
