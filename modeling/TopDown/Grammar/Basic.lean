import TopDown.Text.Quoted

/-!
# Context-free grammars

Terminals, nonterminals and productions are numbered from zero in order of declaration, and the
first nonterminal is the start symbol.

* `Symbol`, `Production`, `Grammar` : the model; an epsilon production has the body `[.empty]`;
* `Grammar.terminal?`, `Grammar.nonterminal?` : the number of a name;
* `Grammar.describe` : a production as `A -> x y z`;
* `Grammar.render` : the grammar as a grammar text, every terminal quoted.
-/

namespace TopDown

/-- What may stand in a production's body. -/
inductive Symbol where
  | terminal (id : Nat)
  | nonterminal (id : Nat)
  | empty
  deriving DecidableEq

/-- A production `lhs -> body`. The body of an epsilon production is `[.empty]`. -/
structure Production where
  lhs : Nat
  body : List Symbol
  deriving DecidableEq

def Production.isEpsilon (p : Production) : Bool := p.body = [.empty]

/-- A context-free grammar over numbered symbols. -/
structure Grammar where
  terminals : List String
  nonterminals : List String
  productions : List Production
  /-- How the empty symbol is written. -/
  emptyName : String
  deriving DecidableEq

namespace Grammar

/-- The first declared nonterminal. -/
def start (_ : Grammar) : Nat := 0

def terminal? (g : Grammar) (name : String) : Option Nat := g.terminals.idxOf? name

def nonterminal? (g : Grammar) (name : String) : Option Nat := g.nonterminals.idxOf? name

def terminalName (g : Grammar) (id : Nat) : String := g.terminals[id]?.getD ""

def nonterminalName (g : Grammar) (id : Nat) : String := g.nonterminals[id]?.getD ""

def symbolName (g : Grammar) : Symbol → String
  | .terminal id => g.terminalName id
  | .nonterminal id => g.nonterminalName id
  | .empty => g.emptyName

/-- The productions of `lhs` with their numbers, in order. -/
def productionsOf (g : Grammar) (lhs : Nat) : List (Production × Nat) :=
  g.productions.zipIdx.filter (·.1.lhs = lhs)

/-- A production as `A -> x y z`, with bare names. -/
def describeProduction (g : Grammar) (p : Production) : String :=
  g.nonterminalName p.lhs ++ " -> " ++ " ".intercalate (p.body.map g.symbolName)

/-- The production of this number as `A -> x y z`. -/
def describe (g : Grammar) (id : Nat) : String :=
  match g.productions[id]? with
  | some p => g.describeProduction p
  | none => ""

/-- A symbol as a grammar text writes it: terminals in double quotes. -/
def renderSymbol (g : Grammar) : Symbol → String
  | .terminal id => "\"" ++ String.ofList (Text.escape (g.terminalName id).toList) ++ "\""
  | s => g.symbolName s

def renderBody (g : Grammar) (body : List Symbol) : String :=
  String.join (body.map fun s => " " ++ g.renderSymbol s)

/-- One line for a nonterminal, with all its alternatives. -/
def renderRule (g : Grammar) (name : String) (id : Nat) : String :=
  name ++ " ->" ++
    " |".intercalate ((g.productionsOf id).map fun (p, _) => g.renderBody p.body) ++ "\n"

/-- The grammar as a text, one line a nonterminal. -/
def render (g : Grammar) : String :=
  String.join (g.nonterminals.zipIdx.map fun (name, id) => g.renderRule name id)

end Grammar

end TopDown
