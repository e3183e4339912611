import TopDown.Text.Escape

/-!
# Tokens and lexemes

* `Token` : a piece of input that a lexical rule matched, by byte offsets;
* `Lexeme` : one item of a token stream, a token or the end of the input;
* `LexError` : why no lexeme could be read, or a lexicon not be used for reading.
-/

namespace TopDown

/-- A stretch of input that a lexical rule matched. -/
structure Token where
  /-- The name of the rule. -/
  kind : String
  /-- The grammar terminal that the token stands for. -/
  terminal : String
  text : String
  /-- The byte offset of its first character. -/
  start : Nat
  /-- The byte offset behind its last character. -/
  stop : Nat
  deriving DecidableEq

/-- The stretch of the token as `start..stop`. -/
def Token.span (t : Token) : String := toString t.start ++ ".." ++ toString t.stop

/-- One item of a token stream. -/
inductive Lexeme where
  | token (t : Token)
  | finish (offset : Nat)
  deriving DecidableEq

namespace Lexeme

def offset : Lexeme → Nat
  | token t => t.start
  | finish n => n

/-- The wording of diagnostics. -/
def describe : Lexeme → String
  | token t => "`" ++ t.text ++ "`"
  | finish _ => "end of input"

end Lexeme

/-- Why the next lexeme cannot be read. -/
inductive LexError where
  | noMatch (offset : Nat) (character : Char)
  | invalidPattern (rule pattern : String)
  deriving DecidableEq

/-- What a diagnostic says about a malformed pattern. The fault inside the pattern is not told. -/
def LexError.patternFault : String := "<regex>"

def LexError.message : LexError → String
  | noMatch offset character =>
    "no lexical rule matches " ++ Text.quoteChar character ++ " at offset " ++ toString offset
  | invalidPattern rule pattern =>
    "rule `" ++ rule ++ "` has an invalid pattern `" ++ pattern ++ "`: " ++ patternFault

/-- One pull from a token stream. -/
abbrev Pull := Except LexError Lexeme

end TopDown
