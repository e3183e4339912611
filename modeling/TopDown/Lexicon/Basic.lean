import TopDown.Text.Quoted

/-!
# Lexicons

A lexicon is an ordered list of named patterns.

* `RuleKind` : what a rule is for, read off its name and its separator flag;
* `Rule.spelling` : the pattern without its backslashes;
* `Rule.terminal?` : the grammar terminal that a match of the rule stands for;
* `addNew` : a list of names, each of which stands in it once;
* `Lexicon.terminalNames` : the terminals of a lexicon, each once, in rule order.
-/

namespace TopDown

/-- What a lexical rule contributes. -/
inductive RuleKind where
  | token
  | terminal
  | nonterminal
  | empty
  | separator
  deriving DecidableEq

/-- One lexical rule. Lower priorities win among matches of equal length. -/
structure Rule where
  name : String
  /-- The pattern, exactly as written between the quotes. -/
  pattern : String
  priority : Nat
  isSeparator : Bool
  deriving DecidableEq

namespace Rule

/-- A rule of this name contributes its spelling as a terminal. -/
def terminalName : String := "TERMINAL"

/-- A rule of this name declares the spelling of a nonterminal. -/
def nonterminalName : String := "NONTERMINAL"

/-- A rule of this name declares one more spelling of the empty symbol. -/
def emptyName : String := "EMPTY_SYMBOL"

/-- The name that every separator bears. -/
def separatorName : String := "IGNORE"

def kind (r : Rule) : RuleKind :=
  if r.isSeparator then .separator
  else if r.name = terminalName then .terminal
  else if r.name = nonterminalName then .nonterminal
  else if r.name = emptyName then .empty
  else .token

/-- The pattern with its backslashes removed, so that `\(` reads as `(`. -/
def spelling (r : Rule) : String := String.ofList (Text.unescape r.pattern.toList)

/-- The terminal that a match of this rule stands for, if any. -/
def terminal? (r : Rule) : Option String :=
  match r.kind with
  | .terminal => some r.spelling
  | .token => some r.name
  | _ => none

/-- Whether the rule takes part in reading input. -/
def isScanned (r : Rule) : Bool :=
  match r.kind with
  | .token | .terminal | .separator => true
  | .nonterminal | .empty => false

/-- The rule as a line of a lexicon text. -/
def render (r : Rule) : String :=
  if r.isSeparator then "%\"" ++ r.pattern ++ "\"" else r.name ++ " := \"" ++ r.pattern ++ "\""

end Rule

/-- The rules of a language's words, separators last. -/
structure Lexicon where
  rules : List Rule
  deriving DecidableEq

/-- Adds a name behind the others, unless it is among them. -/
def addNew (names : List String) (name : String) : List String :=
  if name ∈ names then names else names ++ [name]

namespace Lexicon

/-- The terminals of the rules in order, each at its first appearance. -/
def terminalNames (x : Lexicon) : List String :=
  (x.rules.filterMap Rule.terminal?).foldl addNew []

/-- The spellings of the rules of one kind, in order. -/
def spellings (x : Lexicon) (kind : RuleKind) : List String :=
  (x.rules.filter (·.kind = kind)).map Rule.spelling

def scannedRules (x : Lexicon) : List Rule := x.rules.filter Rule.isScanned

/-- The lexicon as a text: all separators on one first line, then one line a rule. -/
def render (x : Lexicon) : String :=
  let separators := (x.rules.filter Rule.isSeparator).map fun r => "\"" ++ r.pattern ++ "\""
  let first := if separators.isEmpty then "" else "%" ++ ", ".intercalate separators ++ "\n"
  first ++ String.join ((x.rules.filter (!·.isSeparator)).map fun r => r.render ++ "\n")

end Lexicon

end TopDown
