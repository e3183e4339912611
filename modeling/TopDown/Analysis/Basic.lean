import TopDown.Analysis.Follow

/-!
# The analysis of a grammar

* `Lookahead` : a terminal or the end of the input;
* `Analysis.of` : the FIRST and FOLLOW sets of a grammar;
* `Analysis.render` : the sets as a text.
-/

namespace TopDown

/-- What the parser can see next. -/
inductive Lookahead where
  | terminal (id : Nat)
  | finish
  deriving DecidableEq

namespace Lookahead

/-- The label in tables and traces. -/
def label (g : Grammar) : Lookahead → String
  | terminal id => g.terminalName id
  | finish => "<end>"

/-- The wording of diagnostics. -/
def describe (g : Grammar) : Lookahead → String
  | terminal id => "`" ++ g.terminalName id ++ "`"
  | finish => "end of input"

end Lookahead

/-- The members of a FOLLOW set, the end last. -/
def FollowSet.lookaheads (s : FollowSet) : List Lookahead :=
  s.terms.map .terminal ++ if s.atEnd then [.finish] else []

/-- The FIRST and FOLLOW sets of a grammar, by nonterminal. -/
structure Analysis where
  first : List FirstSet
  follow : List FollowSet
  deriving DecidableEq

namespace Analysis

def of (g : Grammar) : Analysis :=
  let first := g.firstSets
  ⟨first, g.followSets first⟩

def firstAt (a : Analysis) (nonterminal : Nat) : FirstSet := a.first.getD nonterminal .empty

def followAt (a : Analysis) (nonterminal : Nat) : FollowSet := a.follow.getD nonterminal .empty

/-- FIRST of a sequence of symbols. -/
def firstOf (a : Analysis) (symbols : List Symbol) : FirstSet := TopDown.firstOf a.first symbols

/-- A set as `NAME(A) = {x, y}` on a line of its own. -/
def renderSet (name nonterminal : String) (labels : List String) : String :=
  name ++ "(" ++ nonterminal ++ ") = \x7b" ++ ", ".intercalate labels ++ "\x7d\n"

/-- All FIRST sets, then all FOLLOW sets, one a line. -/
def render (a : Analysis) (g : Grammar) : String :=
  let firstLine := fun (name, id) =>
    let s := a.firstAt id
    renderSet "FIRST" name (s.terms.map g.terminalName ++ if s.nullable then [g.emptyName] else [])
  let followLine := fun (name, id) =>
    renderSet "FOLLOW" name ((a.followAt id).lookaheads.map (·.label g))
  String.join (g.nonterminals.zipIdx.map firstLine ++ g.nonterminals.zipIdx.map followLine)

end Analysis

end TopDown
