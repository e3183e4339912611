import TopDown.Emission.Code
import TopDown.Emission.Name
import TopDown.Lexicon.Basic
import TopDown.Pattern.Search
import TopDown.Table.Basic
import TopDown.Text.Escape

/-!
# The tables of an emitted parser

* `RuleRow`, `ruleRows` : the scanned rules of a lexicon with anchored patterns and terminals by
  number;
* `Arm`, `armsOf` : the conflict-free cells of a prediction table;
* `Tables` : everything that an emitted parser is driven by;
* `Tables.render` : the tables as source text.
-/

namespace TopDown.Emission

open Text

/-- A lexical rule of an emitted parser. -/
structure RuleRow where
  name : String
  /-- The anchored pattern. -/
  pattern : String
  /-- The number of the terminal; none for a separator. -/
  terminal : Option Nat
  priority : Nat
  deriving DecidableEq

/-- The row of a scanned rule. Its terminal must be one of the grammar's. -/
def ruleRow (g : Grammar) (r : Rule) : Except EmitError RuleRow :=
  let row := fun terminal => RuleRow.mk r.name (Pattern.anchoredText r.pattern) terminal r.priority
  match r.terminal? with
  | none => .ok (row none)
  | some name =>
    match g.terminal? name with
    | some id => .ok (row (some id))
    | none => .error (.unknownTerminal r.name)

def ruleRows (g : Grammar) (x : Lexicon) : Except EmitError (List RuleRow) :=
  x.scannedRules.mapM (ruleRow g)

/-- One case of the emitted prediction: a nonterminal, a lookahead terminal or the end, and the
production to expand. -/
structure Arm where
  nonterminal : Nat
  lookahead : Option Nat
  production : Nat
  deriving DecidableEq

/-- The number of a lookahead's terminal. -/
def lookaheadId : Lookahead → Option Nat
  | .terminal id => some id
  | .finish => none

/-- The cells that exactly one production claims. -/
def armsOf (t : Table) : List Arm :=
  t.cells.filterMap fun c =>
    match c.productions with
    | [p] => some ⟨c.nonterminal, lookaheadId c.lookahead, p⟩
    | _ => none

/-- What an emitted parser is driven by. -/
structure Tables where
  terminals : List String
  nonterminals : List String
  start : Nat
  emptyName : String
  rules : List RuleRow
  productions : List Production
  arms : List Arm
  deriving DecidableEq

def Tables.of (g : Grammar) (rules : List RuleRow) (t : Table) : Tables :=
  ⟨g.terminals, g.nonterminals, g.start, g.emptyName, rules, g.productions, armsOf t⟩

/-! ## Source text -/

def optionText : Option Nat → String
  | some n => "Some(" ++ toString n ++ ")"
  | none => "None"

def symbolText : Symbol → String
  | .terminal id => "Symbol::Terminal(" ++ toString id ++ ")"
  | .nonterminal id => "Symbol::Nonterminal(" ++ toString id ++ ")"
  | .empty => "Symbol::Empty"

/-- A list in square brackets, by reference. -/
def sliceLayout (items : List Layout) : Layout := .list "&[" "]" items

def tupleLayout (items : List Layout) : Layout := .list "(" ")" items

def stringsLayout (names : List String) : Layout :=
  sliceLayout (names.map fun s => .atom (quoteString s))

def ruleLayout (r : RuleRow) : Layout :=
  tupleLayout [.atom (quoteString r.name), .atom (quoteString r.pattern),
    .atom (optionText r.terminal), .atom (toString r.priority)]

def productionLayout (p : Production) : Layout :=
  tupleLayout [.atom (toString p.lhs), sliceLayout (p.body.map fun s => .atom (symbolText s))]

/-- A constant on lines of its own: `head`, a list and a semicolon. -/
def constant (head : String) (list : Layout) : String :=
  head ++ list.render 0 head.utf8ByteSize 1 ++ ";\n"

def armCode (a : Arm) : Code :=
  .line ("(" ++ toString a.nonterminal ++ ", " ++ optionText a.lookahead ++ ") => Some(" ++
    toString a.production ++ "),")

/-- The type of symbols. -/
def symbolType : List Code :=
  [.line "#[derive(Copy, Debug, Eq, Clone, PartialEq)]",
   .block "pub enum Symbol"
     [.line "Terminal(usize),", .line "Nonterminal(usize),", .line "Empty,"] ""]

/-- The prediction function, one case a line and none for all other cells. -/
def predictCode (arms : List Arm) : List Code :=
  [.line "/// Production to expand for a nonterminal and lookahead terminal,",
   .line "/// with `None` standing for the end of input.",
   .block "pub fn predict(nonterminal: usize, lookahead: Option<usize>) -> Option<usize>"
     [.block "match (nonterminal, lookahead)" (arms.map armCode ++ [.line "_ => None,"]) ""] ""]

/-- The tables as source text. -/
def Tables.render (t : Tables) : String :=
  Code.renderAll 0 symbolType ++
  constant "pub const TERMINALS: &[&str] = " (stringsLayout t.terminals) ++
  constant "pub const NONTERMINALS: &[&str] = " (stringsLayout t.nonterminals) ++
  "pub const START: usize = " ++ toString t.start ++ ";\n" ++
  "#[allow(dead_code)]\n" ++
  "pub const EMPTY: &str = " ++ quoteString t.emptyName ++ ";\n" ++
  "/// Lexical rules as `(name, pattern, terminal, priority)`. Separators\n" ++
  "/// have no terminal.\n" ++
  constant "pub const RULES: &[(&str, &str, Option<usize>, usize)] = "
    (sliceLayout (t.rules.map ruleLayout)) ++
  "/// Productions as `(left-hand side, body)`.\n" ++
  constant "pub const PRODUCTIONS: &[(usize, &[Symbol])] = "
    (sliceLayout (t.productions.map productionLayout)) ++
  Code.renderAll 0 (predictCode t.arms)

end TopDown.Emission
