import TopDown.Proofs.Analysis.Checked
import TopDown.Proofs.Table.Cells
import TopDown.Table.Strategy

/-!
# Tables and their words by checked numbers

A table is built from checked FIRST and FOLLOW sets, and all its cells are put into words. Here
every number of a terminal, a nonterminal or a production is checked when it is looked up, and one
out of range makes the whole computation fail.

* `Grammar.symbolName?`, `Grammar.describe?`, `Lookahead.label?`, `Lookahead.describe?` : the words
  for symbols, productions and lookaheads, checked;
* `Table.build?`, `Table.render?`, `select?` : tables and what is said of them, checked;
* `Cell.Known`, `known_of_mem_cells` : the cells of a table hold numbers in range only;
* `Table.build?_eq`, `select?_eq` : in a well-formed grammar no check fails.
-/

namespace TopDown

namespace Grammar

def symbolName? (g : Grammar) : Symbol → Option String
  | .terminal id => g.terminals[id]?
  | .nonterminal id => g.nonterminals[id]?
  | .empty => some g.emptyName

/-- The production of this number as `A -> x y z`, checked. -/
def describe? (g : Grammar) (id : Nat) : Option String :=
  g.productions[id]?.bind fun p =>
    g.nonterminals[p.lhs]?.bind fun lhs =>
      (p.body.mapM g.symbolName?).map fun body => lhs ++ " -> " ++ " ".intercalate body

end Grammar

namespace Lookahead

def label? (g : Grammar) : Lookahead → Option String
  | terminal id => g.terminals[id]?
  | finish => some "<end>"

def describe? (g : Grammar) : Lookahead → Option String
  | terminal id => g.terminals[id]?.map fun name => "`" ++ name ++ "`"
  | finish => some "end of input"

end Lookahead

namespace Table

def claims? (analysis : Analysis) (p : Production) : Option (List Lookahead) :=
  (firstOf? analysis.first p.body).bind fun first =>
    (if first.nullable then analysis.follow[p.lhs]?.map FollowSet.lookaheads else some []).map
      fun behind => first.terms.map .terminal ++ behind

/-- The table of a grammar, checked. -/
def build? (g : Grammar) (analysis : Analysis) : Option Table :=
  g.productions.zipIdx.foldlM
    (fun t (p, id) =>
      (claims? analysis p).map fun xs => xs.foldl (fun t x => t.claim p.lhs id x) t) ⟨[]⟩

def renderCell? (g : Grammar) (c : Cell) : Option String :=
  g.nonterminals[c.nonterminal]?.bind fun a =>
    (c.lookahead.label? g).bind fun x =>
      (c.productions.mapM g.describe?).map fun ps =>
        a ++ ", " ++ x ++ " => " ++
          (match ps with
            | [p] => p
            | ps => "conflict: " ++ " | ".intercalate ps) ++ "\n"

/-- The table as a text, checked. -/
def render? (t : Table) (g : Grammar) : Option String :=
  (t.cells.mapM (renderCell? g)).map String.join

end Table

def Conflict.ofCell? (g : Grammar) (c : Cell) : Option Conflict :=
  g.nonterminals[c.nonterminal]?.bind fun a =>
    (c.lookahead.describe? g).bind fun x =>
      (c.productions.mapM g.describe?).map fun ps => ⟨a, x, ps⟩

/-- The analysis and the table of a grammar or its conflicts, checked. The table is put into words
in either case, as a log of the selection shows it. -/
def select? (strategy : Strategy) (g : Grammar) :
    Option (Except DeterminismError (Analysis × Table)) :=
  (Analysis.of? g).bind fun analysis =>
    (Table.build? g analysis).bind fun table =>
      (table.render? g).bind fun _ =>
        if table.isDeterministic then some (.ok (analysis, table))
        else (table.conflicts.mapM (Conflict.ofCell? g)).map fun conflicts =>
          .error ⟨strategy, conflicts⟩

/-! ## Words -/

/-- A lookahead whose number is in range. -/
def Lookahead.Known (g : Grammar) : Lookahead → Prop
  | terminal id => id < g.terminals.length
  | finish => True

/-- All numbers of a cell are in range. -/
structure Cell.Known (g : Grammar) (c : Cell) : Prop where
  nonterminal : c.nonterminal < g.nonterminals.length
  lookahead : c.lookahead.Known g
  productions : ∀ id ∈ c.productions, id < g.productions.length

namespace Grammar

variable {g : Grammar}

theorem terminals_getElem? {id : Nat} (h : id < g.terminals.length) :
    g.terminals[id]? = some (g.terminalName id) := by
  rw [terminalName, List.getElem?_eq_getElem h, Option.getD_some]

theorem nonterminals_getElem? {id : Nat} (h : id < g.nonterminals.length) :
    g.nonterminals[id]? = some (g.nonterminalName id) := by
  rw [nonterminalName, List.getElem?_eq_getElem h, Option.getD_some]

theorem symbolName?_eq {s : Symbol} (h : g.Knows s) : g.symbolName? s = some (g.symbolName s) := by
  cases s with
  | terminal id => exact terminals_getElem? h
  | nonterminal id => exact nonterminals_getElem? h
  | empty => rfl

theorem describe?_eq (hg : g.WellFormed) {id : Nat} (h : id < g.productions.length) :
    g.describe? id = some (g.describe id) := by
  have hp : g.productions[id] ∈ g.productions := List.getElem_mem h
  rw [describe?, describe, List.getElem?_eq_getElem h, Option.bind_some,
    nonterminals_getElem? (hg.lhs_lt _ hp), Option.bind_some,
    mapM_eq_some_map fun s hs => symbolName?_eq (hg.knows_body _ hp s hs)]
  rfl

theorem describeAll?_eq (hg : g.WellFormed) {ids : List Nat}
    (h : ∀ id ∈ ids, id < g.productions.length) :
    ids.mapM g.describe? = some (ids.map g.describe) :=
  mapM_eq_some_map fun id hid => describe?_eq hg (h id hid)

end Grammar

namespace Lookahead

variable {g : Grammar} {x : Lookahead}

theorem label?_eq (h : x.Known g) : x.label? g = some (x.label g) := by
  cases x with
  | terminal id => exact Grammar.terminals_getElem? h
  | finish => rfl

theorem describe?_eq (h : x.Known g) : x.describe? g = some (x.describe g) := by
  cases x with
  | terminal id =>
    rw [describe?, Grammar.terminals_getElem? h]
    rfl
  | finish => rfl

end Lookahead

/-! ## Cells -/

namespace Grammar

variable {g : Grammar}

/-- Only known terminals select a production. -/
theorem Selects.known (hg : g.WellFormed) {p : Production} (hp : p ∈ g.productions)
    {x : Lookahead} (h : g.Selects p x) : x.Known g := by
  rcases h with ⟨t, rfl, ht⟩ | ⟨-, hfollows⟩
  · exact FirstSet.view.lt_of_has (fits_firstOf (fitting_firstSets hg) (hg.knows_body p hp)) ht
  · cases x with
    | terminal t => exact (fitting_followSets hg).lt_of_holds hfollows
    | finish => trivial

/-- The cells of a table hold numbers in range only. -/
theorem known_of_mem_cells (hg : g.WellFormed) {c : Cell} (hc : c ∈ g.table.cells) :
    c.Known g := by
  have hclaimants := Table.claimants_of_mem g.ordered_table hc
  have hclaims : ∀ id ∈ c.productions, ∃ p, g.productions[id]? = some p ∧
      p.lhs = c.nonterminal ∧ g.Selects p c.lookahead := by
    intro id hid
    rw [← hclaimants, table, Table.mem_claimants_build] at hid
    simpa only [mem_claims_of] using hid
  -- some production claims the cell, and it vouches for the nonterminal and the lookahead
  obtain ⟨id, hid⟩ := List.exists_mem_of_ne_nil _ (Table.claimed_build g (Analysis.of g) c hc)
  obtain ⟨p, hp, hlhs, hselects⟩ := hclaims id hid
  have hp := List.mem_of_getElem? hp
  refine ⟨hlhs ▸ hg.lhs_lt p hp, hselects.known hg hp, fun id' hid' => ?_⟩
  obtain ⟨p', hp', -⟩ := hclaims id' hid'
  exact (List.getElem?_eq_some_iff.1 hp').1

end Grammar

/-! ## No check fails -/

namespace Table

variable {g : Grammar} {c : Cell}

theorem claims?_eq (hg : g.WellFormed) {p : Production} (hp : p ∈ g.productions) :
    claims? (Analysis.of g) p = some (claims (Analysis.of g) p) := by
  have hfirst : firstOf? (Analysis.of g).first p.body = some ((Analysis.of g).firstOf p.body) :=
    Grammar.firstOf?_eq (Grammar.fitting_firstSets hg).1 (hg.knows_body p hp)
  have hlt : p.lhs < (Analysis.of g).follow.length :=
    (Grammar.fitting_followSets hg).1 ▸ hg.lhs_lt p hp
  have hfollow : (Analysis.of g).follow[p.lhs]? = some ((Analysis.of g).followAt p.lhs) := by
    rw [Analysis.followAt, List.getElem?_eq_getElem hlt, List.getD_eq_getElem _ _ hlt]
  rw [claims?, hfirst, Option.bind_some, hfollow, claims]
  split <;> rfl

/-- In a well-formed grammar the table is built without a number out of range. -/
theorem build?_eq (hg : g.WellFormed) : build? g (Analysis.of g) = some g.table := by
  refine (foldlM_eq_some (fun _ => True) (fun t _ claim hclaim => ⟨?_, trivial⟩) trivial).1
  obtain ⟨p, id⟩ := claim
  have hp : p ∈ g.productions := List.fst_mem_of_mem_zipIdx hclaim
  simp only [claims?_eq hg hp, Option.map_some]

theorem renderCell?_eq (hg : g.WellFormed) (hc : c.Known g) :
    renderCell? g c = some (renderCell g c) := by
  rw [renderCell?, Grammar.nonterminals_getElem? hc.nonterminal, Option.bind_some,
    Lookahead.label?_eq hc.lookahead, Option.bind_some, Grammar.describeAll?_eq hg hc.productions,
    renderCell]
  match c.productions with
  | [] | [_] | _ :: _ :: _ => rfl

theorem render?_eq (hg : g.WellFormed) : g.table.render? g = some (g.table.render g) := by
  rw [render?, mapM_eq_some_map fun c hc => renderCell?_eq hg (Grammar.known_of_mem_cells hg hc)]
  rfl

end Table

theorem Conflict.ofCell?_eq {g : Grammar} (hg : g.WellFormed) {c : Cell} (hc : c.Known g) :
    Conflict.ofCell? g c = some (Conflict.ofCell g c) := by
  rw [ofCell?, Grammar.nonterminals_getElem? hc.nonterminal, Option.bind_some,
    Lookahead.describe?_eq hc.lookahead, Option.bind_some,
    Grammar.describeAll?_eq hg hc.productions]
  rfl

/-- In a well-formed grammar a table or its conflicts are found without a number out of range. -/
theorem select?_eq {g : Grammar} (hg : g.WellFormed) (strategy : Strategy) :
    select? strategy g = some (select strategy g) := by
  have hconflicts : g.table.conflicts.mapM (Conflict.ofCell? g) =
      some (g.table.conflicts.map (Conflict.ofCell g)) := mapM_eq_some_map fun c hc =>
    Conflict.ofCell?_eq hg (Grammar.known_of_mem_cells hg (List.mem_filter.1 hc).1)
  rw [select?, Analysis.of?_eq hg, Option.bind_some, Table.build?_eq hg, Option.bind_some,
    Table.render?_eq hg, Option.bind_some, hconflicts, Grammar.select_eq]
  split <;> rfl

end TopDown
