import TopDown.Proofs.Tree.Growth

/-!
# A bound on the depth

A tree builder with a bound does what the one without does, up to the first expansion that would get
too deep. There it stops, so that a larger bound can only stop it later, or not at all.

* `TreeBuilder.Overgrows` : the next move puts nodes below the bound;
* `effect_capped`, `refused_of_overgrows` : a move under a bound;
* `TreeBuilder.Outgrows` : a run without a bound overgrows it at some move; `Outgrows.mono`;
* `run_of_not_outgrows`, `run_of_outgrows` : a run under a bound.
-/

namespace TopDown.TreeBuilder

open Machine

/-- The next move expands a node of the deepest level that is allowed, or of a deeper one. -/
inductive Overgrows (g : Grammar) (t : Table) (maxDepth : Nat) :
    Config (Arena ParseNode) (Option Slot) → Prop
  | intro {b leaf below under l rest a x id} : lookahead? g l = some x → t.predict b x = some id →
      (g.productions.getD id ⟨g.start, []⟩).isEpsilon = false → maxDepth ≤ leaf.level →
      Overgrows g t maxDepth
        ⟨.symbol (.nonterminal b) :: below, some leaf :: under, l, rest, a⟩

/-- A run of at most `n` moves overgrows the bound at one of them. -/
inductive Outgrows (g : Grammar) (t : Table) (maxDepth : Nat) :
    Nat → Config (Arena ParseNode) (Option Slot) → Prop
  | here {n c} : Overgrows g t maxDepth c → Outgrows g t maxDepth (n + 1) c
  | later {n c c'} : Effect g t (boundless g) c (.running c') → Outgrows g t maxDepth n c' →
      Outgrows g t maxDepth (n + 1) c

variable {g : Grammar} {t : Table} {maxDepth d d' n : Nat}
  {c c' : Config (Arena ParseNode) (Option Slot)}

theorem Overgrows.mono (h : Overgrows g t d c) (hd : d' ≤ d) : Overgrows g t d' c := by
  cases h with
  | intro hx hid hp hlevel => exact .intro hx hid hp (Nat.le_trans hd hlevel)

theorem Outgrows.mono (h : Outgrows g t d n c) (hd : d' ≤ d) : Outgrows g t d' n c := by
  induction h with
  | here h => exact .here (h.mono hd)
  | later heffect _ ih => exact .later heffect ih

theorem outgrows_succ (heffect : Effect g t (boundless g) c (.running c')) :
    Outgrows g t maxDepth (n + 1) c ↔ Overgrows g t maxDepth c ∨ Outgrows g t maxDepth n c' := by
  constructor
  · intro h
    cases h with
    | here h => exact .inl h
    | later heffect' h =>
      cases heffect.step_eq.symm.trans heffect'.step_eq
      exact .inr h
  · rintro (h | h)
    · exact .here h
    · exact .later heffect h

/-! ## One move -/

theorem expand_of_shallow {slot : Option Slot} {p : Production}
    (h : ∀ leaf, slot = some leaf → p.isEpsilon = false → leaf.level < maxDepth) (l : Lexeme)
    (a : Arena ParseNode) :
    expand g maxDepth slot p l a = (.ok (plant g slot p a).1, (plant g slot p a).2) := by
  cases slot with
  | none => rfl
  | some leaf =>
    have hshallow : ¬ (maxDepth < leaf.level + 1 ∧ !p.isEpsilon) := by
      rintro ⟨hdeep, hp⟩
      have hlevel := h leaf rfl (by simpa using hp)
      omega
    simp only [expand, if_neg hshallow]
    rfl

/-- Under a bound that it does not overgrow, the machine makes the same move. -/
theorem effect_capped {outcome : Outcome (Arena ParseNode) (Option Slot)}
    (heffect : Effect g t (boundless g) c outcome) (h : ¬ Overgrows g t maxDepth c) :
    Effect g t (recorder g maxDepth) c outcome := by
  cases heffect with
  | exhausted => exact .exhausted
  | stuck he => exact .stuck he
  | accept => exact .accept
  | epsilon => exact .epsilon
  | shift hid hadvance => exact .shift hid hadvance
  | unreadable hid hadvance => exact .unreadable hid hadvance
  | refused _ _ hrefused => cases hrefused
  | @expand b slot below under l rest a x id slots a' hx hid hslots =>
    cases hslots
    refine .expand hx hid (expand_of_shallow (fun leaf hleaf hp => ?_) l a)
    subst hleaf
    exact Nat.lt_of_not_le fun hlevel => h (.intro hx hid hp hlevel)

/-- A move that overgrows the bound is refused. -/
theorem refused_of_overgrows (h : Overgrows g t maxDepth c) :
    ∃ below under, Effect g t (recorder g maxDepth) c
      (.rejected below under (.tooDeep c.lookahead.offset maxDepth) c.record) := by
  cases h with
  | @intro b leaf below under l rest a x id hx hid hp hlevel =>
    refine ⟨below, under, .refused hx hid ?_⟩
    have hdeep : maxDepth < leaf.level + 1 ∧ !(g.productions.getD id ⟨g.start, []⟩).isEpsilon :=
      ⟨Nat.lt_succ_of_le hlevel, by rw [hp]; rfl⟩
    change expand g maxDepth (some leaf) _ l a = _
    simp only [expand, if_pos hdeep]

/-! ## Runs -/

theorem run_of_not_outgrows (hpaired : c.Paired) (h : ¬ Outgrows g t maxDepth n c) :
    run g t (recorder g maxDepth) n c = run g t (boundless g) n c := by
  induction n generalizing c with
  | zero => rfl
  | succ n ih =>
    have hnow : ¬ Overgrows g t maxDepth c := fun hnow => h (.here hnow)
    rcases moves_or_ends (g := g) (t := t) (r := boundless g) hpaired with
      ⟨c', heffect⟩ | ⟨outcome, hfinal, heffect⟩
    · rw [run_succ_of_move heffect, run_succ_of_move (effect_capped heffect hnow)]
      exact ih (heffect.paired hpaired) fun hlater => h (.later heffect hlater)
    · rw [run_succ_of_end hfinal heffect, run_succ_of_end hfinal (effect_capped heffect hnow)]

/-- A run that outgrows the bound is rejected where it does so first. -/
theorem run_of_outgrows (h : Outgrows g t maxDepth n c) :
    ∃ k c' below under, k < n ∧ run g t (boundless g) k c = .running c' ∧
      run g t (recorder g maxDepth) n c =
        .rejected below under (.tooDeep c'.lookahead.offset maxDepth) c'.record := by
  induction n generalizing c with
  | zero => cases h
  | succ n ih =>
    by_cases hnow : Overgrows g t maxDepth c
    · obtain ⟨below, under, hrefused⟩ := refused_of_overgrows hnow
      refine ⟨0, c, below, under, Nat.succ_pos n, rfl, run_succ_of_end ?_ hrefused n⟩
      trivial
    · cases h with
      | here h => exact absurd h hnow
      | later heffect hlater =>
        obtain ⟨k, c', below, under, hk, hrunning, hrejected⟩ := ih hlater
        refine ⟨k + 1, c', below, under, Nat.succ_lt_succ hk, ?_, ?_⟩
        · rw [run_succ_of_move heffect, hrunning]
        · rw [run_succ_of_move (effect_capped heffect hnow), hrejected]

end TopDown.TreeBuilder
