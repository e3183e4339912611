import TopDown.Proofs.Table.PredictSets
import TopDown.Standalone

/-!
# Prediction by arms

An emitted parser predicts by the cases that were made of the cells of a table, and finds out what
it expects by trying every terminal.

* `predict_of` : the cases predict what the table does;
* `expected_of` : what is expected is the row of the table, in the same order and wording.
-/

namespace TopDown.Standalone

open Emission (Tables RuleRow Arm armsOf lookaheadId)
open Grammar

variable {g : Grammar} {rows : List RuleRow} {t : Table} {a : Nat} {x : Lookahead}

theorem lookaheadId_inj {x y : Lookahead} (h : lookaheadId x = lookaheadId y) : x = y := by
  cases x <;> cases y <;> simp_all [lookaheadId]

/-- The case that a cell is made into. -/
def armOf (c : Cell) : Option Arm :=
  match c.productions with
  | [p] => some ⟨c.nonterminal, lookaheadId c.lookahead, p⟩
  | _ => none

theorem armOf_eq_some {c : Cell} {arm : Arm} (h : armOf c = some arm) :
    arm.nonterminal = c.nonterminal ∧ arm.lookahead = lookaheadId c.lookahead := by
  unfold armOf at h
  split at h
  · cases h
    exact ⟨rfl, rfl⟩
  · cases h

theorem predict_cons (c : Cell) (cells : List Cell) :
    (Table.mk (c :: cells)).predict a x =
      if c.nonterminal = a ∧ c.lookahead = x then (armOf c).map Arm.production
      else (Table.mk cells).predict a x := by
  by_cases hplace : c.nonterminal = a ∧ c.lookahead = x
  · have hcell : (Table.mk (c :: cells)).cell? a x = some c := by
      simp [Table.cell?, hplace]
    rw [if_pos hplace, Table.predict, hcell]
    obtain ⟨b, y, ids⟩ := c
    match ids with
    | [] => rfl
    | [p] => rfl
    | p :: q :: ids => rfl
  · rw [if_neg hplace]
    simp [Table.predict, Table.cell?, hplace]

/-- A case fits the place of its cell only. -/
theorem place_of_fits {c : Cell} {arm : Arm} (harm : armOf c = some arm)
    (h : arm.nonterminal = a ∧ arm.lookahead = lookaheadId x) :
    c.nonterminal = a ∧ c.lookahead = x := by
  obtain ⟨hnonterminal, hlookahead⟩ := armOf_eq_some harm
  exact ⟨hnonterminal.symm.trans h.1, lookaheadId_inj (hlookahead.symm.trans h.2)⟩

/-- No case fits a place that all cells are behind. -/
theorem find?_armsOf_eq_none {cells : List Cell}
    (h : ∀ c ∈ cells, Place.Before a x c.nonterminal c.lookahead) :
    (cells.filterMap armOf).find? (fun arm =>
      decide (arm.nonterminal = a ∧ arm.lookahead = lookaheadId x)) = none := by
  rw [List.find?_eq_none]
  intro arm harm hfits
  obtain ⟨c, hc, harm⟩ := List.mem_filterMap.1 harm
  obtain ⟨rfl, rfl⟩ := place_of_fits harm (of_decide_eq_true hfits)
  exact Place.before_irrefl (h c hc)

/-- The first case that fits a place is that of the first cell at the place. -/
theorem find?_armsOf {cells : List Cell} (h : Table.AscendingCells cells) :
    ((cells.filterMap armOf).find? fun arm =>
      arm.nonterminal = a ∧ arm.lookahead = lookaheadId x).map Arm.production =
      (Table.mk cells).predict a x := by
  induction cells with
  | nil => rfl
  | cons c cs ih =>
    obtain ⟨hc, hcs⟩ := List.pairwise_cons.1 h
    rw [predict_cons]
    split
    · rename_i hplace
      obtain ⟨rfl, rfl⟩ := hplace
      cases harm : armOf c with
      | some arm =>
        rw [List.filterMap_cons_some harm, List.find?_cons_of_pos]
        exact decide_eq_true (armOf_eq_some harm)
      | none =>
        -- a cell in conflict has no case, and no other cell is at its place
        rw [List.filterMap_cons_none harm, find?_armsOf_eq_none hc]
    · rename_i hplace
      rw [← ih hcs]
      cases harm : armOf c with
      | none => rw [List.filterMap_cons_none harm]
      | some arm =>
        rw [List.filterMap_cons_some harm, List.find?_cons_of_neg]
        exact fun hfits => hplace (place_of_fits harm (of_decide_eq_true hfits))

/-- The cases predict what the table does. -/
theorem predict_of (h : t.Ordered) :
    predict (Tables.of g rows t) a (lookaheadId x) = t.predict a x :=
  find?_armsOf h

/-! ## Expectation -/

/-- Without conflicts, what is expected is what something is predicted under. -/
theorem expected_eq_filter (hg : g.WellFormed) (hdeterministic : g.table.isDeterministic = true) :
    g.table.expected a = g.lookaheads.filter fun x => (g.table.predict a x).isSome := by
  rw [Table.expected_table hg]
  refine List.filter_congr fun x _ => ?_
  rw [Bool.eq_iff_iff, decide_eq_true_iff, Table.isSome_predict_iff hdeterministic,
    claimants_table]

/-- What is expected is the row of the table, in the same order and wording. -/
theorem expected_of (hg : g.WellFormed) (hdeterministic : g.table.isDeterministic = true) :
    Parser.expected (Tables.of g rows g.table) a =
      (g.table.expected a).map (Lookahead.describe g) := by
  have hordered := g.ordered_table
  have hterminal : ∀ id, predict (Tables.of g rows g.table) a (some id) =
      g.table.predict a (.terminal id) :=
    fun id => predict_of (x := .terminal id) hordered
  have hfinish : predict (Tables.of g rows g.table) a none = g.table.predict a .finish :=
    predict_of (x := .finish) hordered
  rw [expected_eq_filter hg hdeterministic, lookaheads, List.filter_append, List.map_append,
    List.filter_map, List.map_map]
  unfold Parser.expected
  simp only [hterminal, hfinish, List.filter_singleton]
  congr 1
  cases (g.table.predict a .finish).isSome <;> rfl

end TopDown.Standalone
