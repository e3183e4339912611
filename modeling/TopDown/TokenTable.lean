import TopDown.Compilation
import TopDown.Json

/-!
# Token tables

`TokenTable` : the rules of a lexicon and all that they read in a sample. A character that no rule
matches is noted and passed over, so that it does not hide what comes behind it.
-/

namespace TopDown

structure TokenTable where
  rules : List Rule
  tokens : List Token
  /-- The characters that were passed over, with their byte offsets. -/
  skipped : List (Nat × Char)
  deriving DecidableEq

/-- The token table of a sample. -/
def Lexer.tokenTable (x : Lexer) (input : String) : TokenTable :=
  let (tokens, errors) := x.tokenizer.tokenizeLossy input
  ⟨x.lexicon.rules, tokens, errors.filterMap fun
    | .noMatch offset character => some (offset, character)
    | .invalidPattern .. => none⟩

namespace TokenTable

def ruleJson (r : Rule) : Json :=
  .sorted [("type", .string r.name), ("pattern", .string r.pattern),
    ("priority", .nat r.priority), ("ignore", .bool r.isSeparator)]

def tokenJson (t : Token) : Json := .sorted [("type", .string t.kind), ("text", .string t.text)]

def skippedJson : Nat × Char → Json
  | (offset, character) =>
    .sorted [("offset", .nat offset), ("character", .string (String.singleton character))]

/-- Rules and tokens are numbered, as several rules may share a name. -/
def toJson (t : TokenTable) : Json :=
  .sorted [("tokentypes", .numbered (t.rules.map ruleJson)),
    ("tokens", .numbered (t.tokens.map tokenJson)),
    ("skipped", .array (t.skipped.map skippedJson))]

end TokenTable

end TopDown
