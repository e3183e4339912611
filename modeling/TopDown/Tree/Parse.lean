import TopDown.Machine.Basic
import TopDown.Tokenizer
import TopDown.Tree.Arena

/-!
# Parse trees

* `ParseNode`, `ParseTree` : a node bears its symbol; a matched terminal has a text and is named by
  it;
* `TreeBuilder.recorder` : the recorder that grows a tree and refuses one that gets too deep. A
  production of the empty symbol adds no level;
* `parseTree` : the tree of an input.
-/

namespace TopDown

/-- The label of a node in a parse tree. -/
structure ParseNode where
  name : String
  symbol : Symbol
  /-- The text of a matched terminal. -/
  text : Option String
  deriving DecidableEq

/-- The node of a symbol for which nothing has been matched yet. -/
def ParseNode.ofSymbol (g : Grammar) (symbol : Symbol) : ParseNode :=
  ⟨g.symbolName symbol, symbol, none⟩

abbrev ParseTree := Tree ParseNode

/-- The texts of all matched terminals, left to right. -/
def Tree.leaves (t : ParseTree) : List String := t.collect ParseNode.text

namespace TreeBuilder

/-- A node by its number, and its level. -/
structure Slot where
  number : Nat
  level : Nat
  deriving DecidableEq

/-- Adds the nodes of a body under `parent`. The empty symbol gets none. -/
def grow (g : Grammar) (parent level : Nat) :
    List Symbol → Arena ParseNode → List (Option Slot) × Arena ParseNode
  | [], a => ([], a)
  | .empty :: body, a =>
    let (slots, a) := grow g parent level body a
    (none :: slots, a)
  | symbol :: body, a =>
    let (child, a) := a.attach parent (.ofSymbol g symbol)
    let (slots, a) := grow g parent level body a
    (some ⟨child, level⟩ :: slots, a)

/-- Adds the body of a production under a node, unless that makes the tree deeper than
`maxDepth`. -/
def expand (g : Grammar) (maxDepth : Nat) (slot : Option Slot) (p : Production) (l : Lexeme)
    (a : Arena ParseNode) : Except ParseError (List (Option Slot)) × Arena ParseNode :=
  match slot with
  | none => (.ok (p.body.map fun _ => none), a)
  | some ⟨parent, level⟩ =>
    if maxDepth < level + 1 ∧ !p.isEpsilon then (.error (.tooDeep l.offset maxDepth), a)
    else
      let (slots, a) := grow g parent (level + 1) p.body a
      (.ok slots, a)

/-- A matched terminal takes its name and text from the token. -/
def fill (slot : Option Slot) (t : Token) (a : Arena ParseNode) : Arena ParseNode :=
  match slot with
  | none => a
  | some s => a.relabel s.number fun n => { n with name := t.text, text := some t.text }

def recorder (g : Grammar) (maxDepth : Nat) : Recorder (Arena ParseNode) (Option Slot) where
  root start a := (some ⟨a.size, 1⟩, a.add (.ofSymbol g (.nonterminal start)))
  expand := expand g maxDepth
  shift := fill
  epsilon _ a := a
  step _ _ _ a := a
  reject _ _ a := a

end TreeBuilder

/-- How deep trees get unless asked for otherwise. -/
def defaultMaxDepth : Nat := 1000

/-- The parse tree of an input, at most `maxDepth` levels deep. -/
def parseTree (g : Grammar) (t : Table) (tokenizer : Tokenizer) (maxDepth : Nat) (input : String) :
    Except ParseError ParseTree :=
  match Machine.drive g t (TreeBuilder.recorder g maxDepth) (tokenizer.scan input).lexemes #[] with
  | (.error e, _) => .error e
  | (.ok (), a) => .ok (a.assemble?.getD (.node (.ofSymbol g (.nonterminal g.start)) []))

end TopDown
