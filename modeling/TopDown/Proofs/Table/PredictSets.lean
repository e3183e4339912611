import TopDown.Proofs.Table.Checked

/-!
# A table holds the predict sets

* `Grammar.Predicts`, `Grammar.predictSet` : the productions that are to be predicted at a place,
  told by the sets of the analysis;
* `Grammar.lookaheads`, `Grammar.places` : all lookaheads and all places, in order;
* `Grammar.cells_table` : the table has one cell at every place with a predict set, which it lists,
  and no other;
* `Table.expected_table`, `Table.conflicts_table` : so have its rows and its conflicts;
* `predictSets_exact` : tables and their selection by predict sets.
-/

namespace TopDown

namespace Grammar

variable {g : Grammar} {p : Production} {x : Lookahead} {a id : Nat}

/-! ## Predict sets -/

/-- The lookahead is a terminal that the body can start with or, if the body can vanish, follows the
left-hand side. -/
def Predicts (g : Grammar) (p : Production) (x : Lookahead) : Prop :=
  x ∈ ((Analysis.of g).firstOf p.body).terms.map .terminal ∨
    ((Analysis.of g).firstOf p.body).nullable = true ∧
      x ∈ ((Analysis.of g).followAt p.lhs).lookaheads

instance (g : Grammar) (p : Production) (x : Lookahead) : Decidable (g.Predicts p x) :=
  inferInstanceAs (Decidable (_ ∨ _))

/-- The productions of nonterminal `a` to be predicted under `x`, by ascending number. -/
def predictSet (g : Grammar) (a : Nat) (x : Lookahead) : List Nat :=
  (List.range g.productions.length).filter fun id =>
    g.productions[id]?.any fun p => p.lhs = a ∧ g.Predicts p x

/-- All lookaheads, terminals by number and then the end. -/
def lookaheads (g : Grammar) : List Lookahead :=
  (List.range g.terminals.length).map .terminal ++ [.finish]

/-- All places, by nonterminal and then by lookahead. -/
def places (g : Grammar) : List (Nat × Lookahead) :=
  (List.range g.nonterminals.length).flatMap fun a => g.lookaheads.map (a, ·)

/-- The cell that a place has if its predict set is not empty. -/
def cellAt (g : Grammar) (place : Nat × Lookahead) : Cell :=
  ⟨place.1, place.2, g.predictSet place.1 place.2⟩

theorem predicts_iff_mem_claims : g.Predicts p x ↔ x ∈ Table.claims (Analysis.of g) p := by
  unfold Predicts Table.claims
  rw [List.mem_append]
  refine or_congr Iff.rfl ?_
  split <;> simp_all

theorem pairwise_predictSet (g : Grammar) (a : Nat) (x : Lookahead) :
    (g.predictSet a x).Pairwise (· < ·) := List.pairwise_lt_range.filter _

theorem mem_predictSet : id ∈ g.predictSet a x ↔
    ∃ p, g.productions[id]? = some p ∧ p.lhs = a ∧ x ∈ Table.claims (Analysis.of g) p := by
  unfold predictSet
  rw [List.mem_filter, List.mem_range, Option.any_eq_true]
  simp only [decide_eq_true_eq, predicts_iff_mem_claims]
  refine ⟨And.right, fun h => ⟨?_, h⟩⟩
  obtain ⟨p, hp, -⟩ := h
  exact (List.getElem?_eq_some_iff.1 hp).1

/-- The productions that claim a place are those of its predict set. -/
theorem claimants_table : g.table.claimants a x = g.predictSet a x := by
  have hclaimants : (g.table.claimants a x).Pairwise (· < ·) := by
    rw [table, Table.claimants_build]
    refine List.Pairwise.sublist (List.filter_sublist.map Prod.snd) ?_
    rw [List.zipIdx_map_snd]
    exact List.pairwise_lt_range'
  refine List.Pairwise.eq_of_mem_iff hclaimants (g.pairwise_predictSet a x) fun id => ?_
  rw [mem_predictSet]
  exact Table.mem_claimants_build

/-! ## All places -/

instance : Std.Irrefl fun x y : Lookahead => x.before y = true :=
  ⟨fun _ hx => absurd (Lookahead.before_irrefl.symm.trans hx) Bool.false_ne_true⟩

instance : Std.Antisymm fun x y : Lookahead => x.before y = true :=
  ⟨fun _ _ hxy hyx => absurd (Lookahead.before_irrefl.symm.trans (Lookahead.before_trans hxy hyx))
    Bool.false_ne_true⟩

theorem mem_lookaheads : x ∈ g.lookaheads ↔ x.Known g := by
  cases x with
  | terminal t => simp [lookaheads, Lookahead.Known]
  | finish => simp [lookaheads, Lookahead.Known]

theorem pairwise_lookaheads (g : Grammar) :
    g.lookaheads.Pairwise fun x y => x.before y = true := by
  unfold lookaheads
  rw [List.pairwise_append, List.pairwise_map]
  refine ⟨List.pairwise_lt_range.imp fun h => decide_eq_true h, List.pairwise_singleton _ _, ?_⟩
  intro x hx y hy
  obtain ⟨id, -, rfl⟩ := List.mem_map.1 hx
  cases List.mem_singleton.1 hy
  rfl

theorem mem_places : (a, x) ∈ g.places ↔ a < g.nonterminals.length ∧ x.Known g := by
  simp [places, mem_lookaheads]

theorem pairwise_places (g : Grammar) :
    g.places.Pairwise fun u v => Place.Before u.1 u.2 v.1 v.2 := by
  unfold places
  rw [List.pairwise_flatMap]
  refine ⟨fun a _ => ?_, List.pairwise_lt_range.imp fun hab u hu v hv => ?_⟩
  · rw [List.pairwise_map]
    exact g.pairwise_lookaheads.imp fun h => .inr ⟨rfl, h⟩
  · obtain ⟨x, -, rfl⟩ := List.mem_map.1 hu
    obtain ⟨y, -, rfl⟩ := List.mem_map.1 hv
    exact .inl hab

/-! ## The cells -/

theorem productions_of_mem_cells {c : Cell} (hc : c ∈ g.table.cells) :
    c.productions = g.predictSet c.nonterminal c.lookahead := by
  rw [← claimants_table]
  exact (Table.claimants_of_mem g.ordered_table hc).symm

/-- A place has a cell if and only if its predict set is not empty. -/
theorem mem_cells_table (hg : g.WellFormed) {c : Cell} :
    c ∈ g.table.cells ↔ c ∈ (g.places.map g.cellAt).filter (·.productions ≠ []) := by
  rw [List.mem_filter, List.mem_map, decide_eq_true_iff]
  constructor
  · intro hc
    have hknown := known_of_mem_cells hg hc
    refine ⟨⟨(c.nonterminal, c.lookahead), mem_places.2 ⟨hknown.1, hknown.2⟩, ?_⟩,
      Table.claimed_build g (Analysis.of g) c hc⟩
    rw [cellAt, ← productions_of_mem_cells hc]
  · rintro ⟨⟨⟨a, x⟩, -, rfl⟩, hne⟩
    obtain ⟨c, hc, rfl, rfl⟩ :=
      Table.exists_cell_of_claimants (t := g.table) (a := a) (x := x) (by rwa [claimants_table])
    rwa [cellAt, ← productions_of_mem_cells hc]

/-- The cells of a table are those of the places with a predict set, in order. -/
theorem cells_table (hg : g.WellFormed) :
    g.table.cells = (g.places.map g.cellAt).filter (·.productions ≠ []) := by
  let before := fun c d : Cell => Place.Before c.nonterminal c.lookahead d.nonterminal d.lookahead
  have : Std.Irrefl before := ⟨fun _ => Place.before_irrefl⟩
  have : Std.Antisymm before :=
    ⟨fun _ _ hcd hdc => absurd (Place.before_trans hcd hdc) Place.before_irrefl⟩
  have hplaces : ((g.places.map g.cellAt).filter (·.productions ≠ [])).Pairwise before :=
    (List.pairwise_map.2 g.pairwise_places).filter _
  exact List.Pairwise.eq_of_mem_iff g.ordered_table hplaces fun _ => mem_cells_table hg

end Grammar

namespace Table

variable {g : Grammar} {a : Nat} {x : Lookahead}

theorem cell?_table :
    g.table.cell? a x = if g.predictSet a x = [] then none else some (g.cellAt (a, x)) := by
  have hclaimants : ((g.table.cell? a x).map Cell.productions).getD [] = g.predictSet a x :=
    Grammar.claimants_table
  cases hcell : g.table.cell? a x with
  | none =>
    rw [hcell] at hclaimants
    exact (if_pos hclaimants.symm).symm
  | some c =>
    rw [hcell, Option.map_some, Option.getD_some] at hclaimants
    have hne : c.productions ≠ [] :=
      claimed_build g (Analysis.of g) c (List.mem_of_find?_eq_some hcell)
    rw [hclaimants] at hne
    obtain ⟨rfl, rfl⟩ : c.nonterminal = a ∧ c.lookahead = x := by
      simpa using List.find?_some hcell
    rw [if_neg hne, Grammar.cellAt, ← hclaimants]

/-- The row of a nonterminal has the lookaheads with a predict set, in order. -/
theorem expected_table (hg : g.WellFormed) :
    g.table.expected a = g.lookaheads.filter (g.predictSet a · ≠ []) := by
  refine List.Pairwise.eq_of_mem_iff (pairwise_expected g.ordered_table)
    (g.pairwise_lookaheads.filter _) fun x => ?_
  rw [mem_expected g.ordered_table (claimed_build g (Analysis.of g)), Grammar.claimants_table,
    List.mem_filter, decide_eq_true_iff, Grammar.mem_lookaheads]
  refine ⟨fun hne => ⟨?_, hne⟩, And.right⟩
  obtain ⟨id, hid⟩ := List.exists_mem_of_ne_nil _ hne
  obtain ⟨p, hp, -, hx⟩ := Grammar.mem_predictSet.1 hid
  exact (Grammar.mem_claims_of.1 hx).known hg (List.mem_of_getElem? hp)

/-- The cells in conflict are those of the places with more than one production, in order. -/
theorem conflicts_table (hg : g.WellFormed) :
    g.table.conflicts =
      (g.places.filter fun place => 1 < (g.predictSet place.1 place.2).length).map g.cellAt := by
  rw [conflicts, Grammar.cells_table hg, List.filter_filter, List.filter_map]
  congr 1
  refine List.filter_congr fun place _ => ?_
  have hne : 1 < (g.cellAt place).productions.length → (g.cellAt place).productions ≠ [] := by
    rintro hlt hnil
    rw [hnil] at hlt
    cases hlt
  rw [Function.comp_apply, Bool.eq_iff_iff]
  simp only [Bool.and_eq_true, decide_eq_true_iff]
  exact and_iff_left_of_imp hne

/-- No cell is in conflict if and only if no predict set has two members. -/
theorem isDeterministic_table_iff :
    g.table.isDeterministic = true ↔ ∀ a x, (g.predictSet a x).length ≤ 1 := by
  constructor
  · intro h a x
    rw [← Grammar.claimants_table]
    exact length_claimants_le h
  · intro h
    rw [isDeterministic, List.isEmpty_iff, conflicts, List.filter_eq_nil_iff]
    intro c hc
    have hle := h c.nonterminal c.lookahead
    rw [← Grammar.productions_of_mem_cells hc] at hle
    simpa using hle

end Table

/-- A place has a cell if its predict set is not empty, and it lists the set; the production is
predicted if it is the only one. A row has the lookaheads with a predict set, in order. Both
strategies select the table if and only if no predict set has two members, and report all that do
otherwise, in order. -/
theorem predictSets_exact {ds : Grammar.Declarations} {x : Lexicon} {options : Grammar.Options}
    {g : Grammar} (hds : ds.names.Nodup) (h : Grammar.resolve ds x options = .ok g) :
    (∀ a y, (g.predictSet a y).Pairwise (· < ·) ∧
      (Table.build g (Analysis.of g)).cell? a y =
        (if g.predictSet a y = [] then none else some ⟨a, y, g.predictSet a y⟩) ∧
      ∀ id, (Table.build g (Analysis.of g)).predict a y = some id ↔ g.predictSet a y = [id]) ∧
    (∀ a, (Table.build g (Analysis.of g)).expected a =
      g.lookaheads.filter (g.predictSet a · ≠ [])) ∧
    ∀ strategy, ((∃ r, select strategy g = .ok r) ↔ ∀ a y, (g.predictSet a y).length ≤ 1) ∧
      ∀ e, select strategy g = .error e → e = ⟨strategy,
        (g.places.filter fun (a, y) => 1 < (g.predictSet a y).length).map fun (a, y) =>
          ⟨g.nonterminalName a, y.describe g, (g.predictSet a y).map g.describe⟩⟩ := by
  have hg := Grammar.WellFormed.of_resolve hds h
  refine ⟨fun a y => ⟨g.pairwise_predictSet a y, Table.cell?_table, fun id => ?_⟩,
    fun a => Table.expected_table hg, fun strategy => ⟨?_, fun e he => ?_⟩⟩
  · rw [← Grammar.claimants_table]
    exact Table.predict_eq_some
  · rw [← Table.isDeterministic_table_iff, Grammar.select_eq]
    cases g.table.isDeterministic <;> simp
  · rw [Grammar.select_eq] at he
    split at he
    · cases he
    · cases he
      rw [Table.conflicts_table hg, List.map_map]
      rfl

/-- A grammar in which one place is claimed three times: `S -> A "("`, `S -> "("`, `S -> A`, and
`A -> "(" A` or nothing. -/
def contested : Grammar where
  terminals := ["(", ")"]
  nonterminals := ["S", "A"]
  productions := [⟨0, [.nonterminal 1, .terminal 0]⟩, ⟨0, [.terminal 0]⟩, ⟨0, [.nonterminal 1]⟩,
    ⟨1, [.terminal 0, .nonterminal 1]⟩, ⟨1, [.empty]⟩]
  emptyName := "$"

def contestedLexicon : Lexicon :=
  ⟨[⟨"TERMINAL", "\\(", 1, false⟩, ⟨"TERMINAL", "\\)", 2, false⟩]⟩

def contestedDeclarations : Grammar.Declarations :=
  [⟨"S", 1, [⟨1, "A("⟩, ⟨1, "("⟩, ⟨1, "A"⟩]⟩, ⟨"A", 2, [⟨2, "(A"⟩, ⟨2, "$"⟩]⟩]

theorem predictSets_exact_contested :
    Grammar.resolve contestedDeclarations contestedLexicon {} = .ok contested ∧
      (Table.build contested (Analysis.of contested)).cell? 0 (.terminal 0) =
        some ⟨0, .terminal 0, [0, 1, 2]⟩ ∧
      (Table.build contested (Analysis.of contested)).predict 0 .finish = some 2 ∧
      (Table.build contested (Analysis.of contested)).expected 1 = [.terminal 0, .finish] ∧
      ∃ e, select .auto contested = .error e ∧ e.conflicts =
        [⟨"S", "`(`", ["S -> A (", "S -> (", "S -> A"]⟩, ⟨"A", "`(`", ["A -> ( A", "A -> $"]⟩] := by
  have hresolve : Grammar.resolve contestedDeclarations contestedLexicon {} = .ok contested := by
    decide +kernel
  obtain ⟨hplaces, hrows, hselect⟩ := predictSets_exact (by decide) hresolve
  have htriple : contested.predictSet 0 (.terminal 0) = [0, 1, 2] := by decide +kernel
  refine ⟨hresolve, ?_, (hplaces 0 .finish).2.2 2 |>.2 (by decide +kernel), ?_, ?_⟩
  · rw [(hplaces 0 (.terminal 0)).2.1, htriple]
    rfl
  · rw [hrows]
    decide +kernel
  · cases hresult : select .auto contested with
    | ok r =>
      have hle := (hselect .auto).1.1 ⟨r, hresult⟩ 0 (.terminal 0)
      rw [htriple] at hle
      exact absurd hle (by decide)
    | error e =>
      refine ⟨e, rfl, ?_⟩
      rw [(hselect .auto).2 e hresult]
      decide +kernel

end TopDown
