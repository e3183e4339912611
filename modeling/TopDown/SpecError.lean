/-!
# Faults of a lexicon or a grammar text

* `LineFault` : why one line was refused;
* `SpecError` : where a text fails, either at one line or as a whole.
-/

namespace TopDown

/-- Why a line of a lexicon or of a grammar was refused. -/
inductive LineFault where
  | missingAssign
  | missingQuote
  | unterminatedQuote
  | invalidName
  | malformedSeparators
  | trailingText
  | missingArrow
  | danglingAlternative
  | emptyAlternative
  deriving DecidableEq

def LineFault.message : LineFault → String
  | missingAssign => "missing `:=`"
  | missingQuote => "pattern must be double quoted"
  | unterminatedQuote => "unterminated quote"
  | invalidName => "rule names must be uppercase identifiers"
  | malformedSeparators => "malformed separator list"
  | trailingText => "unexpected text after the pattern"
  | missingArrow => "expected `NAME -> alternatives`"
  | danglingAlternative => "`|` continuation before any left-hand side"
  | emptyAlternative => "empty alternative"

/-- Why a lexicon or a grammar text cannot be used. Line numbers count from one, and the text of a
line is the whole line, untrimmed. -/
inductive SpecError where
  | lexicon (line : Nat) (text : String) (fault : LineFault)
  | grammar (line : Nat) (text : String) (fault : LineFault)
  | unresolved (symbol production : String) (line : Nat)
  | noProductions
  deriving DecidableEq

namespace SpecError

/-- A fault of one line, as opposed to one that shows only once the whole text has been read. -/
def isOfLine : SpecError → Bool
  | lexicon .. | grammar .. => true
  | unresolved .. | noProductions => false

def message : SpecError → String
  | lexicon line text fault =>
    "lexer spec line " ++ toString line ++ ": " ++ fault.message ++ ": `" ++ text ++ "`"
  | grammar line text fault =>
    "grammar spec line " ++ toString line ++ ": " ++ fault.message ++ ": `" ++ text ++ "`"
  | unresolved symbol production line =>
    "unresolved symbol `" ++ symbol ++ "` in production `" ++ production ++ "` (line " ++
      toString line ++ ")"
  | noProductions => "grammar declares no productions"

end SpecError

end TopDown
