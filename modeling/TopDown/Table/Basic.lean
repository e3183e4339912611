import TopDown.Analysis.Basic

/-!
# Prediction tables

A cell lists the productions that claim a nonterminal under a lookahead. Cells are kept in order
of nonterminal and then of lookahead, terminals by number before the end.

* `Table.claim` : enters a production into a cell;
* `Table.build` : every production claims the cells of its FIRST set and, if its body may vanish,
  those of its left-hand side's FOLLOW set;
* `Table.predict` : the production of a cell that only one production claims;
* `Table.expected` : the lookaheads with a cell in a nonterminal's row;
* `Table.conflicts` : the cells that more than one production claims.
-/

namespace TopDown

/-- The place of a lookahead among the lookaheads: terminals by number, then the end. -/
def Lookahead.before : Lookahead → Lookahead → Bool
  | terminal i, terminal j => i < j
  | terminal _, finish => true
  | finish, _ => false

/-- A nonterminal under a lookahead, and the productions that claim it, in order. -/
structure Cell where
  nonterminal : Nat
  lookahead : Lookahead
  productions : List Nat
  deriving DecidableEq

/-- Whether the place of `c` is before that of nonterminal `a` under `x`. -/
def Cell.isBefore (c : Cell) (a : Nat) (x : Lookahead) : Bool :=
  c.nonterminal < a || (c.nonterminal == a && c.lookahead.before x)

/-- The cells of a prediction table in order. -/
structure Table where
  cells : List Cell
  deriving DecidableEq

namespace Table

/-- Lets production `p` claim nonterminal `a` under `x`. A production claims a cell once. -/
def claimIn (a : Nat) (x : Lookahead) (p : Nat) : List Cell → List Cell
  | [] => [⟨a, x, [p]⟩]
  | c :: cs =>
    if c.nonterminal = a ∧ c.lookahead = x then
      (if p ∈ c.productions then c else { c with productions := c.productions ++ [p] }) :: cs
    else if c.isBefore a x then c :: claimIn a x p cs
    else ⟨a, x, [p]⟩ :: c :: cs

def claim (t : Table) (a : Nat) (p : Nat) (x : Lookahead) : Table := ⟨claimIn a x p t.cells⟩

/-- The lookaheads under which a production is to be predicted. -/
def claims (analysis : Analysis) (p : Production) : List Lookahead :=
  let first := analysis.firstOf p.body
  first.terms.map .terminal ++
    if first.nullable then (analysis.followAt p.lhs).lookaheads else []

/-- The table of a grammar, conflicts included. -/
def build (g : Grammar) (analysis : Analysis) : Table :=
  g.productions.zipIdx.foldl
    (fun t (p, id) => (claims analysis p).foldl (fun t x => t.claim p.lhs id x) t) ⟨[]⟩

def cell? (t : Table) (a : Nat) (x : Lookahead) : Option Cell :=
  t.cells.find? fun c => c.nonterminal = a ∧ c.lookahead = x

/-- The production to expand, if exactly one claims the cell. -/
def predict (t : Table) (a : Nat) (x : Lookahead) : Option Nat :=
  match t.cell? a x with
  | some ⟨_, _, [p]⟩ => some p
  | _ => none

/-- The lookaheads with a cell in the row of `a`. -/
def expected (t : Table) (a : Nat) : List Lookahead :=
  (t.cells.filter (·.nonterminal = a)).map Cell.lookahead

/-- The cells that several productions claim. -/
def conflicts (t : Table) : List Cell := t.cells.filter (1 < ·.productions.length)

def isDeterministic (t : Table) : Bool := t.conflicts.isEmpty

/-- One cell as `A, x => A -> y z` on a line of its own. -/
def renderCell (g : Grammar) (c : Cell) : String :=
  g.nonterminalName c.nonterminal ++ ", " ++ c.lookahead.label g ++ " => " ++
    (match c.productions with
      | [p] => g.describe p
      | ps => "conflict: " ++ " | ".intercalate (ps.map g.describe)) ++ "\n"

/-- The table as a text, one line a cell. -/
def render (t : Table) (g : Grammar) : String := String.join (t.cells.map (renderCell g))

end Table

end TopDown
