import TopDown.Proofs.Analysis.Follow

/-!
# The loops behind the sets

The sets can also be grown without a bound on the rounds: a round notes whether a step makes the
set at hand larger, and is followed by another one if so.

* `sweep` : a round that takes such a note;
* `Loops` : rounds are repeated until one notes nothing; `Loops.unique` : in one way at most;
* `loops_settle` : such a loop ends where `settle` does, if this is a fixed point and a round notes
  nothing if and only if it changes nothing;
* `FactView.loops_rounds` : so do loops whose steps add facts to a list of sets;
* `Grammar.loops_firstSets`, `Grammar.loops_followSets` : the loops that grow the FIRST and FOLLOW
  sets.
-/

namespace TopDown

section Sweep

variable {α β σ : Type} [DecidableEq σ] {step : α → β → α} {size : β → α → σ} {xs : List β} {a : α}

/-- Makes a step, and notes whether it changes the size it is watched by. -/
def noting (step : α → β → α) (size : β → α → σ) (a : α × Bool) (x : β) : α × Bool :=
  (step a.1 x, a.2 || decide (size x (step a.1 x) ≠ size x a.1))

/-- A round of steps, and whether one of them changes a size. -/
def sweep (step : α → β → α) (size : β → α → σ) (xs : List β) (a : α) : α × Bool :=
  xs.foldl (noting step size) (a, false)

theorem foldl_noting_fst (xs : List β) (a : α × Bool) :
    (xs.foldl (noting step size) a).1 = xs.foldl step a.1 := by
  induction xs generalizing a with
  | nil => rfl
  | cons x xs ih => exact ih _

/-- A note stays. -/
theorem foldl_noting_snd (xs : List β) {a : α × Bool} (h : a.2 = true) :
    (xs.foldl (noting step size) a).2 = true := by
  induction xs generalizing a with
  | nil => exact h
  | cons x xs ih =>
    apply ih
    simp [noting, h]

theorem sweep_fst : (sweep step size xs a).1 = xs.foldl step a := foldl_noting_fst xs (a, false)

theorem foldl_of_fixed (h : ∀ x ∈ xs, step a x = a) : xs.foldl step a = a := by
  induction xs with
  | nil => rfl
  | cons x xs ih =>
    obtain ⟨hx, hxs⟩ := List.forall_mem_cons.1 h
    rw [List.foldl_cons, hx, ih hxs]

/-- A round notes nothing if and only if no step changes what it starts with. -/
theorem sweep_snd_eq_false_iff
    (hsize : ∀ x ∈ xs, size x (step a x) = size x a → step a x = a) :
    (sweep step size xs a).2 = false ↔ ∀ x ∈ xs, step a x = a := by
  unfold sweep
  induction xs with
  | nil => simp
  | cons x xs ih =>
    obtain ⟨hx, hxs⟩ := List.forall_mem_cons.1 hsize
    rw [List.foldl_cons, List.forall_mem_cons]
    by_cases heq : size x (step a x) = size x a
    · have hstep : noting step size (a, false) x = (a, false) := by simp [noting, hx heq]
      rw [hstep, ih hxs]
      exact (and_iff_right (hx heq)).symm
    · have hnoted : (noting step size (a, false) x).2 = true := by simp [noting, heq]
      rw [foldl_noting_snd xs hnoted]
      refine ⟨fun h => absurd h.symm Bool.false_ne_true, fun h => absurd ?_ heq⟩
      rw [h.1]

end Sweep

section Loops

variable {α : Type}

/-- Rounds are repeated as long as one notes a change. From `a` this ends with `b`. -/
inductive Loops (round : α → α × Bool) : α → α → Prop
  | stop {a} : (round a).2 = false → Loops round a (round a).1
  | again {a b} : (round a).2 = true → Loops round (round a).1 b → Loops round a b

variable {round : α → α × Bool} {a b c : α}

theorem Loops.unique (h : Loops round a b) (h' : Loops round a c) : b = c := by
  induction h with
  | stop hstop =>
    cases h' with
    | stop => rfl
    | again hagain => exact absurd (hstop.symm.trans hagain) Bool.false_ne_true
  | again hagain _ ih =>
    cases h' with
    | stop hstop => exact absurd (hstop.symm.trans hagain) Bool.false_ne_true
    | again _ h' => exact ih h'

/-- A loop ends where a bounded one has settled. -/
theorem loops_settle [DecidableEq α] {f : α → α} {Inv : α → Prop} (hf : ∀ a, Inv a → Inv (f a))
    (hround : ∀ a, (round a).1 = f a) (hstop : ∀ a, Inv a → ((round a).2 = false ↔ f a = a))
    (n : Nat) (ha : Inv a) (hfixed : f (settle f n a) = settle f n a) :
    Loops round a (settle f n a) := by
  have hlast : ∀ a, Inv a → f a = a → Loops round a a := by
    intro a ha hfa
    have h := Loops.stop ((hstop a ha).2 hfa)
    rwa [hround, hfa] at h
  induction n generalizing a with
  | zero => exact hlast a ha hfixed
  | succ n ih =>
    rw [settle] at hfixed ⊢
    split
    · exact hlast a ha ‹_›
    · rename_i hne
      rw [if_neg hne] at hfixed
      refine .again ?_ ?_
      · rw [← Bool.not_eq_false, hstop a ha]
        exact hne
      · rw [hround]
        exact ih (hf a ha) hfixed

end Loops

/-! ## Lists of sets -/

namespace FactView

variable {α β σ : Type} [DecidableEq σ] {v : FactView α} {n m : Nat} {sets sets' : List α}
  {step : List α → β → List α} {size : β → List α → σ} {xs : List β}

theorem Fitting.eq_of_below (h : v.Fitting n m sets) (h' : v.Fitting n m sets')
    (hle : v.Below sets sets') (hge : v.Below sets' sets) : sets = sets' := by
  apply h.ext h'
  ext ⟨a, o⟩
  rw [mem_facts h, mem_facts h']
  exact ⟨hle a o, hge a o⟩

/-- If a round changes nothing, none of its steps does. -/
theorem step_of_foldl_eq (hbelow : ∀ sets x, v.Below sets (step sets x))
    (hfit : ∀ x ∈ xs, ∀ sets, v.Fitting n m sets → v.Fitting n m (step sets x))
    (h : v.Fitting n m sets) (hfixed : xs.foldl step sets = sets) :
    ∀ x ∈ xs, step sets x = sets := by
  induction xs with
  | nil => exact fun x hx => absurd hx List.not_mem_nil
  | cons x xs ih =>
    obtain ⟨hx, hxs⟩ := List.forall_mem_cons.1 hfit
    have hback : v.Below (step sets x) (xs.foldl step (step sets x)) := below_foldl hbelow xs _
    rw [List.foldl_cons] at hfixed
    rw [hfixed] at hback
    have hstep : step sets x = sets := (hx sets h).eq_of_below h hback (hbelow sets x)
    rw [hstep] at hfixed
    exact List.forall_mem_cons.2 ⟨hstep, ih hxs hfixed⟩

section Ascending

variable {terms : α → List Nat} {mark : α → Bool} {empty : α} {hterms : terms empty = []}
  {hmark : mark empty = false} {hinj : ∀ s s', terms s = terms s' → mark s = mark s' → s = s'}

/-- A set within another one is that one, if it is not smaller. -/
theorem eq_of_length_le {s s' : α} (h : (ascending terms mark empty hterms hmark hinj).Fits n s)
    (h' : (ascending terms mark empty hterms hmark hinj).Fits n s')
    (hsub : ∀ o, (ascending terms mark empty hterms hmark hinj).has s o = true →
      (ascending terms mark empty hterms hmark hinj).has s' o = true)
    (hlen : (terms s').length ≤ (terms s).length) (hmarks : mark s' = true → mark s = true) :
    s = s' := by
  apply (ascending terms mark empty hterms hmark hinj).ext h h'
  intro o
  rw [Bool.eq_iff_iff]
  refine ⟨hsub o, fun ho => ?_⟩
  cases o with
  | none => exact hmarks ho
  | some t =>
    have hperm : (terms s).Perm (terms s') :=
      (List.subperm_of_subset (h.1.imp Nat.ne_of_lt) fun t ht =>
        of_decide_eq_true (hsub (some t) (decide_eq_true ht))).perm_of_length_le hlen
    exact decide_eq_true (hperm.mem_iff.2 (of_decide_eq_true ho))

end Ascending

/-- A loop of steps that add facts ends, and where the rounds settle. -/
theorem loops_rounds [DecidableEq α] {g : Grammar}
    (hbelow : ∀ sets x, v.Below sets (step sets x))
    (hfit : ∀ x ∈ xs, ∀ sets, v.Fitting g.nonterminals.length g.terminals.length sets →
      v.Fitting g.nonterminals.length g.terminals.length (step sets x))
    (hsize : ∀ x ∈ xs, ∀ sets, v.Fitting g.nonterminals.length g.terminals.length sets →
      size x (step sets x) = size x sets → step sets x = sets)
    (h : v.Fitting g.nonterminals.length g.terminals.length sets) :
    Loops (sweep step size xs) sets (settle (xs.foldl step) g.rounds sets) := by
  have hround : ∀ sets, v.Fitting g.nonterminals.length g.terminals.length sets →
      v.Fitting g.nonterminals.length g.terminals.length (xs.foldl step sets) :=
    fun sets h => fitting_foldl hfit h
  refine loops_settle hround (fun _ => sweep_fst) (fun sets h => ?_) _ h
    (settle_rounds hround (below_foldl hbelow xs) h)
  rw [sweep_snd_eq_false_iff fun x hx => hsize x hx sets h]
  exact ⟨foldl_of_fixed, step_of_foldl_eq hbelow hfit h⟩

theorem modify_eq_self {f : α → α} {a : Nat} {empty : α}
    (h : (sets.modify a f).getD a empty = sets.getD a empty) : sets.modify a f = sets := by
  apply List.ext_getElem (List.length_modify ..)
  intro i hi hi'
  by_cases hia : i = a
  · subst hia
    rwa [List.getD_eq_getElem _ _ hi, List.getD_eq_getElem _ _ hi'] at h
  · rw [List.getElem_modify, if_neg (Ne.symm hia)]

end FactView

/-! ## FIRST and FOLLOW -/

/-- The size that tells whether a FIRST set has grown. -/
def FirstSet.size (s : FirstSet) : Nat × Bool := (s.terms.length, s.nullable)

theorem FirstSet.eq_of_size_eq {n : Nat} {s s' : FirstSet} (h : view.Fits n s)
    (h' : view.Fits n s') (hsub : ∀ o, s.has o = true → s'.has o = true)
    (hsize : s'.size = s.size) : s' = s := by
  obtain ⟨hlen, hnullable⟩ := Prod.mk.inj hsize
  exact (FactView.eq_of_length_le h h' hsub hlen.le fun hs => hnullable ▸ hs).symm

/-- The size that tells whether a FOLLOW set has grown. -/
def FollowSet.size (s : FollowSet) : Nat := s.lookaheads.length

theorem FollowSet.size_eq (s : FollowSet) : s.size = s.terms.length + s.atEnd.toNat := by
  unfold size lookaheads
  cases s.atEnd <;> simp

theorem FollowSet.eq_of_size_eq {n : Nat} {s s' : FollowSet} (h : view.Fits n s)
    (h' : view.Fits n s') (hsub : ∀ o, s.has o = true → s'.has o = true)
    (hsize : s'.size = s.size) : s' = s := by
  have hlen : s.terms.length ≤ s'.terms.length :=
    (List.subperm_of_subset (h.1.imp Nat.ne_of_lt)
      fun t ht => has_some.1 (hsub _ (has_some.2 ht))).length_le
  have hend : s.atEnd.toNat ≤ s'.atEnd.toNat := Bool.toNat_le_toNat (hsub none)
  rw [size_eq, size_eq] at hsize
  refine (FactView.eq_of_length_le h h' hsub (by omega) fun hs' => ?_).symm
  by_contra hs
  rw [hs', Bool.eq_false_of_not_eq_true hs] at hsize
  simp at hsize
  omega

namespace Grammar

variable {g : Grammar}

/-- A round over all productions, and whether it makes a FIRST set larger. -/
def firstSweep (g : Grammar) (first : List FirstSet) : List FirstSet × Bool :=
  sweep addFirst (fun p first => (first.getD p.lhs .empty).size) g.productions first

/-- A round over all occurrences, and whether it makes a FOLLOW set larger. -/
def followSweep (g : Grammar) (first : List FirstSet) (follow : List FollowSet) :
    List FollowSet × Bool :=
  sweep (fun follow x => addFollow first x.1 follow x.2)
    (fun x follow => (follow.getD x.2.1 .empty).size) g.growth follow

/-- The loop of the FIRST sets ends, and with the sets of the bounded rounds. -/
theorem loops_firstSets (hg : g.WellFormed) :
    Loops g.firstSweep (List.replicate g.nonterminals.length .empty) g.firstSets := by
  refine FactView.loops_rounds (v := FirstSet.view) below_addFirst
    (fun p hp first h => fitting_addFirst hg hp h) (fun p hp first h hsize => ?_)
    (FactView.fitting_replicate (FirstSet.fits_empty _))
  have hempty := FirstSet.fits_empty g.terminals.length
  exact FactView.modify_eq_self (FirstSet.eq_of_size_eq (h.fits_getD hempty p.lhs)
    ((fitting_addFirst hg hp h).fits_getD hempty p.lhs) (below_addFirst first p p.lhs) hsize)

/-- The loop of the FOLLOW sets ends, and with the sets of the bounded rounds. -/
theorem loops_followSets (hg : g.WellFormed) :
    Loops (g.followSweep g.firstSets)
      ((List.replicate g.nonterminals.length FollowSet.empty).modify g.start fun _ => ⟨[], true⟩)
      (g.followSets g.firstSets) := by
  have hround : g.followRound g.firstSets =
      g.growth.foldl fun follow x => addFollow g.firstSets x.1 follow x.2 :=
    funext fun _ => followRound_eq
  have hfirst := fitting_firstSets hg
  rw [followSets, hround]
  refine FactView.loops_rounds (v := FollowSet.view) (below_addFollow g.firstSets)
    (fun x hx follow h => fitting_addFollow hg hfirst hx h) (fun x hx follow h hsize => ?_)
    (fitting_initialFollow g)
  have hempty := FollowSet.fits_empty g.terminals.length
  exact FactView.modify_eq_self (FollowSet.eq_of_size_eq (h.fits_getD hempty x.2.1)
    ((fitting_addFollow hg hfirst hx h).fits_getD hempty x.2.1)
    (below_addFollow g.firstSets follow x x.2.1) hsize)

end Grammar

end TopDown
