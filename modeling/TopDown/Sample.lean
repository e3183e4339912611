import TopDown.Compilation
import TopDown.Standalone

/-!
# Sample languages

Two small languages with the tables of their emitted parsers: nested parentheses and arithmetic
expressions.
-/

namespace TopDown

/-- The two texts of a language, and the name of its parser. -/
structure Sample where
  lexicon : String
  grammar : String
  parserName : String
  deriving DecidableEq

namespace Sample

/-- Nested parentheses. -/
def parens : Sample where
  lexicon := "% \" \", \"\\t\", \"\\n\"\nTERMINAL := \"\\(\"\nTERMINAL := \"\\)\"\n"
  grammar := "S -> TS | eps\nT -> (S)\n"
  parserName := "Parens"

/-- Sums and products of `id`, with parentheses. -/
def expr : Sample where
  lexicon := "%\" \"\nTERMINAL := \"\\+\"\nTERMINAL := \"\\*\"\nTERMINAL := \"\\(\"\n" ++
    "TERMINAL := \"\\)\"\nTERMINAL := \"id\"\n"
  grammar := "E -> TE_\nE_ -> +TE_ | $\nT -> FT_\nT_ -> *FT_ | $\nF -> (E) | id\n"
  parserName := "Expr"

/-- The emitted parser of the language. -/
def emitted (s : Sample) : Except Failure Emission.Parser :=
  match Compilation.ofTexts s.lexicon s.grammar .ll1 {} with
  | .error e => .error e
  | .ok c => c.emit s.parserName ""

end Sample

end TopDown
