import TopDown.Emission.Tables
import TopDown.Text.Bytes
import TopDown.Tree.Arena

/-!
# The emitted parser at work

What an emitted parser does, told by its tables alone. It reads all of its input before it parses,
knows terminals and nonterminals by number only, and has no limit on the depth of its trees.

* `Standalone.predict` : the first case of the prediction that fits;
* `Standalone.Parser.new` : compiles the patterns of the rule table;
* `Standalone.Parser.tokenize` : the tokens of an input, by the longest match;
* `Standalone.Parser.parse` : the tree of an input.
-/

namespace TopDown.Standalone

open Emission (Tables RuleRow Arm)
open Text

structure Token where
  terminal : Nat
  text : String
  offset : Nat
  deriving DecidableEq

/-- The tree of an emitted parser has nothing but names in it. -/
abbrev Node := Tree String

/-- Why an emitted parser fails. -/
inductive Error where
  | pattern
  | noMatch (offset : Nat) (character : Char)
  | unexpected (offset : Nat) (expected : List String) (found : String)
  deriving DecidableEq

def Error.message : Error → String
  | pattern => "invalid pattern: <regex>"
  | noMatch offset character =>
    "no lexical rule matches " ++ quoteChar character ++ " at offset " ++ toString offset
  | unexpected offset expected found =>
    "syntax error at offset " ++ toString offset ++ ": expected " ++
      " or ".intercalate expected ++ ", found " ++ found

/-- The production to expand for a nonterminal under a terminal, or under the end of the input. -/
def predict (t : Tables) (nonterminal : Nat) (lookahead : Option Nat) : Option Nat :=
  (t.arms.find? fun a => a.nonterminal = nonterminal ∧ a.lookahead = lookahead).map Arm.production

/-- A rule with its compiled pattern. -/
structure Rule where
  find : List Char → Option Nat
  terminal : Option Nat
  priority : Nat

/-- A parser whose patterns are compiled. -/
structure Parser where
  tables : Tables
  rules : List Rule

namespace Parser

def new (t : Tables) (engine : Pattern.Engine := Pattern.engine) : Except Error Parser :=
  match t.rules.mapM fun row =>
      (engine row.pattern).map fun find => Rule.mk find row.terminal row.priority with
  | some rules => .ok ⟨t, rules⟩
  | none => .error .pattern

/-! ## Reading -/

/-- The better of the best match so far, as a length, a terminal and a priority, and the match of
one more rule. -/
def better (rest : List Char) (best : Option (Nat × Option Nat × Nat)) (r : Rule) :
    Option (Nat × Option Nat × Nat) :=
  match r.find rest with
  | none => best
  | some 0 => best
  | some (n + 1) =>
    match best with
    | none => some (n + 1, r.terminal, r.priority)
    | some (m, _, priority) =>
      if m < n + 1 || (n + 1 == m && r.priority < priority) then
        some (n + 1, r.terminal, r.priority)
      else best

/-- The tokens of what is left of an input, which starts at `offset`. At most `fuel` matches are
made; each takes a character or more. -/
def tokenizeFrom (rules : List Rule) : Nat → Nat → List Char → Except Error (List Token)
  | _, _, [] => .ok []
  | 0, _, _ => .ok []
  | fuel + 1, offset, c :: cs =>
    match rules.foldl (better (c :: cs)) none with
    | none => .error (.noMatch offset c)
    | some (n, terminal, _) =>
      let text := (c :: cs).take n
      match tokenizeFrom rules fuel (offset + byteSize text) ((c :: cs).drop n) with
      | .error e => .error e
      | .ok tokens =>
        match terminal with
        | none => .ok tokens
        | some terminal => .ok (⟨terminal, String.ofList text, offset⟩ :: tokens)

/-- The tokens of an input. -/
def tokenize (p : Parser) (input : String) : Except Error (List Token) :=
  tokenizeFrom p.rules input.toList.length 0 input.toList

/-! ## Parsing -/

/-- The tree whose root is the first node. -/
def build (nodes : Arena String) : Node := nodes.assemble?.getD (.node "" [])

/-- A terminal in the wording of diagnostics. -/
def describeTerminal (t : Tables) (id : Nat) : String := "`" ++ t.terminals[id]?.getD "" ++ "`"

/-- What may stand where a nonterminal is expected. -/
def expected (t : Tables) (nonterminal : Nat) : List String :=
  ((List.range t.terminals.length).filter fun id => (predict t nonterminal (some id)).isSome).map
      (describeTerminal t) ++
    if (predict t nonterminal none).isSome then ["end of input"] else []

/-- The error of seeing the next token, or the end, where only `expected` may stand. -/
def unexpected (expected : List String) (tokens : List Token) (stop : Nat) : Error :=
  match tokens with
  | [] => .unexpected stop expected "end of input"
  | t :: _ => .unexpected t.offset expected ("`" ++ t.text ++ "`")

/-- A parse under way: the stack, on which `none` marks its end, the nodes and the tokens left. -/
structure State where
  stack : List (Option Symbol × Nat)
  nodes : Arena String
  tokens : List Token

/-- Adds the nodes of a body under `parent`. The empty symbol gets none, and number zero stands in
for it. -/
def grow (t : Tables) (parent : Nat) :
    List Symbol → Arena String → List (Option Symbol × Nat) × Arena String
  | [], nodes => ([], nodes)
  | symbol :: body, nodes =>
    let (child, nodes) :=
      match symbol with
      | .empty => (0, nodes)
      | .terminal id => nodes.attach parent (t.terminals[id]?.getD "")
      | .nonterminal id => nodes.attach parent (t.nonterminals[id]?.getD "")
    let (rest, nodes) := grow t parent body nodes
    ((some symbol, child) :: rest, nodes)

/-- One step of a parse: a new state, or the end of the parse. -/
def step (t : Tables) (stop : Nat) : State → State ⊕ Except Error Node
  | ⟨[], nodes, _⟩ => .inr (.ok (build nodes))
  | ⟨(none, _) :: _, nodes, tokens⟩ =>
    match tokens with
    | [] => .inr (.ok (build nodes))
    | _ => .inr (.error (unexpected ["end of input"] tokens stop))
  | ⟨(some .empty, _) :: stack, nodes, tokens⟩ => .inl ⟨stack, nodes, tokens⟩
  | ⟨(some (.terminal id), slot) :: stack, nodes, tokens⟩ =>
    match tokens with
    | [] => .inr (.error (unexpected [describeTerminal t id] tokens stop))
    | token :: rest =>
      if token.terminal = id then
        .inl ⟨stack, nodes.relabel slot fun _ => token.text, rest⟩
      else .inr (.error (unexpected [describeTerminal t id] tokens stop))
  | ⟨(some (.nonterminal id), slot) :: stack, nodes, tokens⟩ =>
    match predict t id (tokens.head?.map Token.terminal) with
    | none => .inr (.error (unexpected (expected t id) tokens stop))
    | some production =>
      let body := (t.productions[production]?.map Production.body).getD []
      let (children, nodes) := grow t slot body nodes
      .inl ⟨children ++ stack, nodes, tokens⟩

/-- At most `fuel` steps. -/
def run (t : Tables) (stop : Nat) : Nat → State → Except Error Node
  | 0, s => .ok (build s.nodes)
  | fuel + 1, s =>
    match step t stop s with
    | .inl s => run t stop fuel s
    | .inr result => result

/-- More steps than a parse of `n` tokens makes. -/
def stepBound (t : Tables) (n : Nat) : Nat :=
  Nat.pow ((t.productions.map (·.body.length)).foldl max 0 + 2) (2 * t.nonterminals.length + 4) *
    (n + 4)

/-- The tree of an input. -/
def parse (p : Parser) (input : String) : Except Error Node :=
  match p.tokenize input with
  | .error e => .error e
  | .ok tokens =>
    let t := p.tables
    run t input.utf8ByteSize (stepBound t tokens.length)
      ⟨[(some (.nonterminal t.start), 0), (none, 0)],
        Arena.add #[] (t.nonterminals[t.start]?.getD ""), tokens⟩

end Parser

end TopDown.Standalone
