import TopDown.Table.Basic

/-!
# Parsing strategies

* `Strategy` : how a table is chosen. The only deterministic strategy there is, is LL(1), so both
  strategies choose the same table and differ in what they report;
* `Strategy.ofName?` : a strategy by name, upper or lower case;
* `select` : the analysis and the table of a grammar, if no cell is in conflict.
-/

namespace TopDown

/-- How to pick a parsing strategy for a grammar. -/
inductive Strategy where
  | ll1
  | auto
  deriving DecidableEq

namespace Strategy

def name : Strategy → String
  | ll1 => "ll1"
  | auto => "auto"

/-- The strategy of exactly this name. -/
def ofExactName? (s : String) : Option Strategy :=
  if s = "ll1" then some ll1 else if s = "auto" then some auto else none

/-- The strategy of this name, upper or lower case. -/
def ofName? (s : String) : Option Strategy := ofExactName? (s.map Char.toLower)

/-- What is said of a name that no strategy bears. -/
def unknownMessage (s : String) : String :=
  "unknown strategy `" ++ s ++ "`, expected `ll1` or `auto`"

end Strategy

/-- A cell claimed by several productions, in words. -/
structure Conflict where
  nonterminal : String
  lookahead : String
  productions : List String
  deriving DecidableEq

def Conflict.message (c : Conflict) : String :=
  c.nonterminal ++ " on " ++ c.lookahead ++ ": " ++ " | ".intercalate c.productions

/-- Why no table could be chosen. -/
structure DeterminismError where
  strategy : Strategy
  conflicts : List Conflict
  deriving DecidableEq

def DeterminismError.message (e : DeterminismError) : String :=
  "no deterministic strategy found for this grammar (" ++ e.strategy.name ++ ", " ++
    toString e.conflicts.length ++ " conflicts)" ++
    String.join (e.conflicts.map fun c => "\n  " ++ c.message)

/-- A conflicting cell in words. -/
def Conflict.ofCell (g : Grammar) (c : Cell) : Conflict where
  nonterminal := g.nonterminalName c.nonterminal
  lookahead := c.lookahead.describe g
  productions := c.productions.map g.describe

/-- Analyses a grammar and builds its table, which must be free of conflicts. -/
def select (strategy : Strategy) (g : Grammar) : Except DeterminismError (Analysis × Table) :=
  let analysis := Analysis.of g
  let table := Table.build g analysis
  if table.isDeterministic then .ok (analysis, table)
  else .error ⟨strategy, table.conflicts.map (Conflict.ofCell g)⟩

end TopDown
