import Mathlib.Data.Finset.Option
import Mathlib.Data.Finset.Prod
import Mathlib.Data.List.GetD
import Mathlib.Data.List.Sort
import TopDown.Analysis.First

/-!
# Rounds that settle

FIRST and FOLLOW sets are grown in rounds until a round changes nothing. Both kinds of sets hold
terminals and one mark, so both are seen as sets of facts.

* `settle_fixed` : rounds that only add facts of a finite set settle;
* `stages_bounded` : what enters in stages a set of `n` numbers is there after `n` stages;
* `FactView` : how a kind of sets is seen as sets of facts, `some t` for a terminal and `none` for
  the mark; `FactView.ascending` : the view of sets that keep their terminals in ascending order;
* `FactView.Fitting`, `FactView.Holds`, `FactView.Below` : lists of sets, one a nonterminal, with
  their facts and their order;
* `FactView.settle_rounds` : as many rounds as `Grammar.rounds` allows are enough.
-/

namespace TopDown

section Settle

variable {α β : Type} [DecidableEq α] {f : α → α} {Inv : α → Prop}

theorem settle_invariant (hf : ∀ a, Inv a → Inv (f a)) (n : Nat) {a : α} (ha : Inv a) :
    Inv (settle f n a) := by
  induction n generalizing a with
  | zero => exact ha
  | succ n ih =>
    rw [settle]
    split
    · exact ha
    · exact ih (hf a ha)

/-- Rounds that only add facts settle, if there are more of them than facts to add. -/
theorem settle_fixed (facts : α → Finset β) (all : Finset β) (hf : ∀ a, Inv a → Inv (f a))
    (hgrow : ∀ a, Inv a → facts a ⊆ facts (f a)) (hall : ∀ a, Inv a → facts a ⊆ all)
    (hext : ∀ a, Inv a → facts a = facts (f a) → f a = a) (n : Nat) {a : α} (ha : Inv a)
    (hn : all.card < (facts a).card + n) : f (settle f n a) = settle f n a := by
  induction n generalizing a with
  | zero =>
    have := Finset.card_le_card (hall a ha)
    omega
  | succ n ih =>
    rw [settle]
    split
    · assumption
    · rename_i hne
      have hlt : (facts a).card < (facts (f a)).card := by
        apply Finset.card_lt_card
        exact Finset.ssubset_iff_subset_ne.2 ⟨hgrow a ha, fun h => hne (hext a ha h)⟩
      exact ih (hf a ha) (by omega)

end Settle

section Stages

variable {P : Nat → Nat → Prop} {n : Nat} (hlt : ∀ k a, P k a → a < n)
  (hmono : ∀ k a, P k a → P (k + 1) a)

include hmono

theorem stages_mono {j k a : Nat} (hjk : j ≤ k) (h : P j a) : P k a := by
  induction hjk with
  | refl => exact h
  | step _ ih => exact hmono _ a ih

include hlt

/-- Either some stage before stage `k` is the last to add a number, or each has added one. -/
theorem exists_last_stage_or_le (k : Nat) :
    (∃ j < k, ∀ a, P (j + 1) a → P j a) ∨
      ∃ s : Finset Nat, (∀ a, a ∈ s ↔ P k a) ∧ k ≤ s.card := by
  classical
  have hmem : ∀ k a, a ∈ (Finset.range n).filter (P k) ↔ P k a := by
    intro k a
    rw [Finset.mem_filter, Finset.mem_range]
    exact ⟨And.right, fun h => ⟨hlt k a h, h⟩⟩
  induction k with
  | zero => exact .inr ⟨_, hmem 0, Nat.zero_le _⟩
  | succ k ih =>
    rcases ih with ⟨j, hj, hstop⟩ | ⟨s, hs, hle⟩
    · exact .inl ⟨j, Nat.lt_succ_of_lt hj, hstop⟩
    · by_cases hstop : ∀ a, P (k + 1) a → P k a
      · exact .inl ⟨k, Nat.lt_succ_self k, hstop⟩
      · have hss : s ⊂ (Finset.range n).filter (P (k + 1)) := by
          refine Finset.ssubset_iff_subset_ne.2 ⟨fun a ha => ?_, fun he => hstop fun a ha => ?_⟩
          · exact (hmem _ a).2 (hmono k a ((hs a).1 ha))
          · rwa [← hs, he, hmem]
        have hcard := Finset.card_lt_card hss
        exact .inr ⟨_, hmem (k + 1), by omega⟩

/-- Numbers below `n` enter a set in stages, and the stages end once one of them adds nothing: all
that ever enters has entered by stage `n`. -/
theorem stages_bounded (hend : ∀ k, (∀ a, P (k + 1) a → P k a) → ∀ a, P (k + 2) a → P (k + 1) a)
    {k a : Nat} (h : P k a) : P n a := by
  obtain ⟨j, hj, hstop⟩ : ∃ j < n + 1, ∀ a, P (j + 1) a → P j a := by
    refine (exists_last_stage_or_le hlt hmono (n + 1)).resolve_right ?_
    rintro ⟨s, hs, hle⟩
    have hsub : s ⊆ Finset.range n := fun a ha => Finset.mem_range.2 (hlt _ a ((hs a).1 ha))
    have hcard := Finset.card_le_card hsub
    rw [Finset.card_range] at hcard
    omega
  have hstays : ∀ i a, P (j + i + 1) a → P (j + i) a := by
    intro i
    induction i with
    | zero => exact hstop
    | succ i ih => exact hend _ ih
  have hdown : ∀ i a, P (j + i) a → P j a := by
    intro i
    induction i with
    | zero => exact fun _ h => h
    | succ i ih => exact fun a h => ih a (hstays i a h)
  have hj' : P j a := hdown k a (stages_mono hmono (Nat.le_add_left k j) h)
  exact stages_mono hmono (Nat.le_of_lt_succ hj) hj'

end Stages

/-! ## Lists of sets -/

/-- How sets of a kind are seen as sets of facts. -/
structure FactView (α : Type) where
  empty : α
  /-- Whether a terminal is in the set, or whether the set is marked. -/
  has : α → Option Nat → Bool
  /-- The sets over this many terminals. -/
  Fits : Nat → α → Prop
  has_empty : ∀ o, has empty o = false
  lt_of_has : ∀ {n s t}, Fits n s → has s (some t) = true → t < n
  ext : ∀ {n s s'}, Fits n s → Fits n s' → (∀ o, has s o = has s' o) → s = s'

namespace FactView

section Ascending

variable {α : Type} {terms : α → List Nat} {mark : α → Bool}

/-- The view of sets that consist of ascending terminals and a mark. -/
def ascending (terms : α → List Nat) (mark : α → Bool) (empty : α) (hterms : terms empty = [])
    (hmark : mark empty = false)
    (hinj : ∀ s s', terms s = terms s' → mark s = mark s' → s = s') : FactView α where
  empty := empty
  has s
    | some t => decide (t ∈ terms s)
    | none => mark s
  Fits n s := (terms s).Pairwise (· < ·) ∧ ∀ t ∈ terms s, t < n
  has_empty o := by cases o <;> simp [hterms, hmark]
  lt_of_has h ht := h.2 _ (of_decide_eq_true ht)
  ext {n s s'} h h' hhas := by
    apply hinj s s' (List.Pairwise.eq_of_mem_iff h.1 h'.1 fun t => ?_) (hhas none)
    simpa using hhas (some t)

theorem ascending_union {s s' : List Nat} {n : Nat}
    (h : s.Pairwise (· < ·) ∧ ∀ t ∈ s, t < n) (h' : s'.Pairwise (· < ·) ∧ ∀ t ∈ s', t < n) :
    (Ascending.union s s').Pairwise (· < ·) ∧ ∀ t ∈ Ascending.union s s', t < n := by
  refine ⟨Ascending.pairwise_union h'.1, fun t ht => ?_⟩
  rcases Ascending.mem_union.1 ht with ht | ht
  · exact h.2 t ht
  · exact h'.2 t ht

end Ascending

variable {α : Type} (v : FactView α)

/-- One set for each of `n` nonterminals, all over `m` terminals. -/
def Fitting (n m : Nat) (sets : List α) : Prop := sets.length = n ∧ ∀ s ∈ sets, v.Fits m s

/-- The set of nonterminal `a` has the fact `o`. -/
def Holds (sets : List α) (a : Nat) (o : Option Nat) : Prop :=
  v.has (sets.getD a v.empty) o = true

/-- All facts of the one list hold in the other. -/
def Below (sets sets' : List α) : Prop := ∀ a o, v.Holds sets a o → v.Holds sets' a o

variable {v} {n m : Nat} {sets sets' : List α}

theorem Below.refl (sets : List α) : v.Below sets sets := fun _ _ h => h

theorem Below.trans {sets'' : List α} (h : v.Below sets sets') (h' : v.Below sets' sets'') :
    v.Below sets sets'' := fun a o hs => h' a o (h a o hs)

theorem Holds.lt_length {a : Nat} {o : Option Nat} (h : v.Holds sets a o) : a < sets.length := by
  by_contra hlt
  rw [Holds, List.getD_eq_default _ _ (Nat.le_of_not_lt hlt), v.has_empty] at h
  cases h

theorem Fitting.lt_of_holds {a t : Nat} (h : v.Fitting n m sets) (ht : v.Holds sets a (some t)) :
    t < m := by
  have ha := ht.lt_length
  rw [Holds, List.getD_eq_getElem _ _ ha] at ht
  exact v.lt_of_has (h.2 _ (List.getElem_mem ha)) ht

theorem Fitting.fits_getD (h : v.Fitting n m sets) (hv : v.Fits m v.empty) (a : Nat) :
    v.Fits m (sets.getD a v.empty) := by
  by_cases ha : a < sets.length
  · rw [List.getD_eq_getElem _ _ ha]
    exact h.2 _ (List.getElem_mem ha)
  · rw [List.getD_eq_default _ _ (Nat.le_of_not_lt ha)]
    exact hv

/-- Changing the set of one nonterminal changes its facts only. -/
theorem holds_modify {f : α → α} {a b : Nat} {o : Option Nat} :
    v.Holds (sets.modify a f) b o ↔
      if b = a ∧ a < sets.length then v.has (f (sets.getD a v.empty)) o = true
      else v.Holds sets b o := by
  unfold Holds
  rw [List.getD_eq_getElem?_getD, List.getElem?_modify]
  by_cases hb : b = a
  · subst hb
    by_cases hlt : b < sets.length
    · simp [hlt]
    · simp [hlt]
  · simp only [hb, Ne.symm hb, false_and, if_false, id_map', List.getD_eq_getElem?_getD]

theorem fitting_modify {f : α → α} {a : Nat} (h : v.Fitting n m sets)
    (hf : ∀ s, v.Fits m s → v.Fits m (f s)) : v.Fitting n m (sets.modify a f) := by
  refine ⟨by rw [List.length_modify, h.1], fun s hs => ?_⟩
  obtain ⟨i, hi, rfl⟩ := List.mem_iff_getElem.1 hs
  rw [List.getElem_modify]
  rw [List.length_modify] at hi
  split
  · exact hf _ (h.2 _ (List.getElem_mem hi))
  · exact h.2 _ (List.getElem_mem hi)

theorem fitting_replicate (hv : v.Fits m v.empty) : v.Fitting n m (List.replicate n v.empty) :=
  ⟨List.length_replicate, fun s hs => by rw [List.eq_of_mem_replicate hs]; exact hv⟩

theorem not_holds_replicate {a : Nat} {o : Option Nat} :
    ¬ v.Holds (List.replicate n v.empty) a o := by
  intro h
  have ha := h.lt_length
  rw [Holds, List.getD_eq_getElem _ _ ha, List.getElem_replicate, v.has_empty] at h
  cases h

section Fold

variable {β : Type} {step : List α → β → List α}

theorem below_foldl (hstep : ∀ sets x, v.Below sets (step sets x)) (xs : List β)
    (sets : List α) : v.Below sets (xs.foldl step sets) := by
  induction xs generalizing sets with
  | nil => exact .refl sets
  | cons x xs ih => exact (hstep sets x).trans (ih (step sets x))

theorem fitting_foldl {xs : List β}
    (hstep : ∀ x ∈ xs, ∀ sets, v.Fitting n m sets → v.Fitting n m (step sets x))
    (h : v.Fitting n m sets) : v.Fitting n m (xs.foldl step sets) := by
  induction xs generalizing sets with
  | nil => exact h
  | cons x xs ih =>
    exact ih (fun y hy => hstep y (List.mem_cons_of_mem _ hy))
      (hstep x List.mem_cons_self sets h)

/-- Every step of a round is made on sets that hold at least what the round started with, and all
it adds stays. -/
theorem exists_stage (hstep : ∀ sets x, v.Below sets (step sets x)) {xs : List β} {x : β}
    (hx : x ∈ xs) (hlength : ∀ sets x, (step sets x).length = sets.length) (sets : List α) :
    ∃ sets', sets'.length = sets.length ∧ v.Below sets sets' ∧
      v.Below (step sets' x) (xs.foldl step sets) := by
  induction xs generalizing sets with
  | nil => cases hx
  | cons y xs ih =>
    rcases List.mem_cons.1 hx with rfl | hx
    · exact ⟨sets, rfl, .refl sets, below_foldl hstep xs _⟩
    · obtain ⟨sets', hlen, hbelow, hrest⟩ := ih hx (step sets y)
      exact ⟨sets', hlen.trans (hlength sets y), (hstep sets y).trans hbelow, hrest⟩

end Fold

/-- All facts that sets of `n` nonterminals over `m` terminals can hold. -/
def allFacts (n m : Nat) : Finset (Nat × Option Nat) :=
  Finset.range n ×ˢ (Finset.range m).insertNone

theorem card_allFacts (n m : Nat) : (allFacts n m).card = n * (m + 1) := by
  simp [allFacts]

variable (v) in
/-- The facts that hold in a list of sets. -/
def facts (n m : Nat) (sets : List α) : Finset (Nat × Option Nat) :=
  (allFacts n m).filter fun x => v.has (sets.getD x.1 v.empty) x.2

theorem mem_facts (h : v.Fitting n m sets) {a : Nat} {o : Option Nat} :
    (a, o) ∈ v.facts n m sets ↔ v.Holds sets a o := by
  unfold facts
  rw [Finset.mem_filter]
  refine ⟨fun ho => ho.2, fun ho => ⟨Finset.mem_product.2 ⟨?_, ?_⟩, ho⟩⟩
  · rw [Finset.mem_range, ← h.1]
    exact ho.lt_length
  · cases o with
    | none => exact Finset.none_mem_insertNone
    | some t => exact Finset.some_mem_insertNone.2 (Finset.mem_range.2 (h.lt_of_holds ho))

/-- Lists with the same facts are equal. -/
theorem Fitting.ext (h : v.Fitting n m sets) (h' : v.Fitting n m sets')
    (hfacts : v.facts n m sets = v.facts n m sets') : sets = sets' := by
  apply List.ext_getElem (h.1.trans h'.1.symm)
  intro a ha ha'
  apply v.ext (h.2 _ (List.getElem_mem ha)) (h'.2 _ (List.getElem_mem ha'))
  intro o
  have hiff : v.Holds sets a o ↔ v.Holds sets' a o := by
    rw [← mem_facts h, ← mem_facts h', hfacts]
  rw [Holds, Holds, List.getD_eq_getElem _ _ ha, List.getD_eq_getElem _ _ ha'] at hiff
  exact Bool.eq_iff_iff.2 hiff

/-- Rounds that keep sets fitting and only add facts settle within the rounds allowed. -/
theorem settle_rounds [DecidableEq α] {g : Grammar} {f : List α → List α}
    (hf : ∀ sets, v.Fitting g.nonterminals.length g.terminals.length sets →
      v.Fitting g.nonterminals.length g.terminals.length (f sets))
    (hgrow : ∀ sets, v.Below sets (f sets))
    (hsets : v.Fitting g.nonterminals.length g.terminals.length sets) :
    f (settle f g.rounds sets) = settle f g.rounds sets := by
  apply settle_fixed (v.facts g.nonterminals.length g.terminals.length)
    (allFacts g.nonterminals.length g.terminals.length) hf _ _ _ _ hsets
  · rw [card_allFacts, Grammar.rounds]
    omega
  · rintro sets h ⟨a, o⟩ ho
    rw [mem_facts h] at ho
    rw [mem_facts (hf sets h)]
    exact hgrow sets a o ho
  · exact fun sets _ => Finset.filter_subset _ _
  · exact fun sets h hfacts => ((h.ext (hf sets h)) hfacts).symm

end FactView

end TopDown
