import TopDown.Analysis.Basic
import TopDown.Proofs.Analysis.First

/-!
# FOLLOW sets are closed

* `FollowSet.has`, `FollowSet.view` : FOLLOW sets as sets of facts, marked if the end can follow;
* `Grammar.growth` : the steps of a round, as left-hand sides with occurrences in their bodies;
* `holds_start`, `holds_of_behind`, `holds_of_lhs` : the end follows the start symbol, what can
  start behind an occurrence follows it, and what follows the left-hand side follows an occurrence
  behind which all can vanish.
-/

namespace TopDown

namespace FollowSet

/-- FOLLOW sets as sets of facts; a set is marked if the end can follow. -/
def view : FactView FollowSet :=
  .ascending terms atEnd empty rfl rfl fun ⟨_, _⟩ ⟨_, _⟩ h h' => by cases h; cases h'; rfl

/-- A terminal of the set, or its mark for the end. -/
def has (s : FollowSet) (o : Option Nat) : Bool := view.has s o

theorem has_some {s : FollowSet} {t : Nat} : s.has (some t) = true ↔ t ∈ s.terms :=
  decide_eq_true_iff

theorem has_none {s : FollowSet} : s.has none = s.atEnd := rfl

theorem has_empty (o : Option Nat) : empty.has o = false := view.has_empty o

theorem has_union {s s' : FollowSet} {o : Option Nat} :
    (s.union s').has o = true ↔ s.has o = true ∨ s'.has o = true := by
  cases o with
  | none => simp [has_none, union]
  | some t => simp [has_some, union]

theorem fits_empty (n : Nat) : view.Fits n empty := ⟨List.Pairwise.nil, by simp [empty]⟩

theorem fits_union {n : Nat} {s s' : FollowSet} (h : view.Fits n s) (h' : view.Fits n s') :
    view.Fits n (s.union s') := FactView.ascending_union h h'

end FollowSet

theorem mem_occurrences {a : Nat} {rest body : List Symbol} :
    (a, rest) ∈ occurrences body ↔ ∃ s, body = s ++ .nonterminal a :: rest := by
  fun_induction occurrences body with
  | case1 => simp
  | case2 b body ih =>
    rw [List.mem_cons, ih]
    constructor
    · rintro (h | ⟨s, rfl⟩)
      · cases h
        exact ⟨[], rfl⟩
      · exact ⟨.nonterminal b :: s, rfl⟩
    · rintro ⟨s, hs⟩
      cases s with
      | nil =>
        cases hs
        exact Or.inl rfl
      | cons x s =>
        cases hs
        exact Or.inr ⟨s, rfl⟩
  | case3 x body hx ih =>
    rw [ih]
    constructor
    · rintro ⟨s, rfl⟩
      exact ⟨x :: s, rfl⟩
    · rintro ⟨s, hs⟩
      cases s with
      | nil =>
        cases hs
        exact absurd rfl (hx a)
      | cons y s =>
        cases hs
        exact ⟨s, rfl⟩

namespace Grammar

variable {g : Grammar} {first : List FirstSet} {follow : List FollowSet}

/-! ## Rounds -/

theorem holds_addFollow {lhs b a : Nat} {rest : List Symbol} {o : Option Nat} :
    FollowSet.view.Holds (addFollow first lhs follow (b, rest)) a o ↔
      FollowSet.view.Holds follow a o ∨ a = b ∧ b < follow.length ∧
        ((∃ t, o = some t ∧ (firstOf first rest).has (some t) = true) ∨
          (firstOf first rest).has none = true ∧ b ≠ lhs ∧ FollowSet.view.Holds follow lhs o) := by
  have hbehind : FollowSet.has ⟨(firstOf first rest).terms, false⟩ o = true ↔
      ∃ t, o = some t ∧ (firstOf first rest).has (some t) = true := by
    cases o <;> simp [FollowSet.has_none, FollowSet.has_some, FirstSet.has_some]
  have hinherited : FollowSet.has (if (firstOf first rest).nullable ∧ b ≠ lhs then
      follow.getD lhs .empty else .empty) o = true ↔
      (firstOf first rest).has none = true ∧ b ≠ lhs ∧ FollowSet.view.Holds follow lhs o := by
    split
    · rename_i h
      exact ⟨fun ho => ⟨h.1, h.2, ho⟩, fun ho => ho.2.2⟩
    · rename_i h
      rw [FollowSet.has_empty]
      exact ⟨fun ho => (Bool.false_ne_true ho).elim, fun ho => absurd ⟨ho.1, ho.2.1⟩ h⟩
  simp only [addFollow]
  rw [FactView.holds_modify]
  split
  · rename_i h
    obtain ⟨rfl, hlt⟩ := h
    change FollowSet.has _ o = true ↔ _
    rw [FollowSet.has_union, FollowSet.has_union, hbehind, hinherited, or_assoc]
    exact or_congr Iff.rfl ⟨fun h => ⟨rfl, hlt, h⟩, fun h => h.2.2⟩
  · rename_i h
    exact ⟨Or.inl, fun h' => h'.resolve_right fun h' => h ⟨h'.1, h'.2.1⟩⟩

/-- The steps of a round: every occurrence in every body, with the left-hand side. -/
def growth (g : Grammar) : List (Nat × Nat × List Symbol) :=
  g.productions.flatMap fun p => (occurrences p.body).map (p.lhs, ·)

theorem followRound_eq : g.followRound first follow =
    g.growth.foldl (fun follow x => addFollow first x.1 follow x.2) follow := by
  rw [growth, List.foldl_flatMap]
  simp only [List.foldl_map]
  rfl

theorem mem_growth {lhs b : Nat} {rest : List Symbol} :
    (lhs, b, rest) ∈ g.growth ↔
      ∃ p ∈ g.productions, p.lhs = lhs ∧ ∃ s, p.body = s ++ .nonterminal b :: rest := by
  simp [growth, mem_occurrences, and_comm]

theorem below_addFollow (first : List FirstSet) (follow : List FollowSet)
    (x : Nat × Nat × List Symbol) :
    FollowSet.view.Below follow (addFollow first x.1 follow x.2) :=
  fun _ _ h => holds_addFollow.2 (Or.inl h)

theorem fitting_addFollow (hg : g.WellFormed)
    (hfirst : FirstSet.view.Fitting g.nonterminals.length g.terminals.length first)
    {x : Nat × Nat × List Symbol} (hx : x ∈ g.growth)
    (h : FollowSet.view.Fitting g.nonterminals.length g.terminals.length follow) :
    FollowSet.view.Fitting g.nonterminals.length g.terminals.length
      (addFollow first x.1 follow x.2) := by
  obtain ⟨lhs, b, rest⟩ := x
  obtain ⟨p, hp, rfl, s, hbody⟩ := mem_growth.1 hx
  refine FactView.fitting_modify h fun set hset => ?_
  have hbehind : FirstSet.view.Fits g.terminals.length (firstOf first rest) := by
    apply fits_firstOf hfirst
    intro x hx
    apply hg.knows_body p hp
    rw [hbody]
    exact List.mem_append_right _ (List.mem_cons_of_mem _ hx)
  refine FollowSet.fits_union (FollowSet.fits_union hset hbehind) ?_
  split
  · exact h.fits_getD (FollowSet.fits_empty _) p.lhs
  · exact FollowSet.fits_empty _

theorem fitting_followRound (hg : g.WellFormed)
    (hfirst : FirstSet.view.Fitting g.nonterminals.length g.terminals.length first)
    (h : FollowSet.view.Fitting g.nonterminals.length g.terminals.length follow) :
    FollowSet.view.Fitting g.nonterminals.length g.terminals.length
      (g.followRound first follow) := by
  rw [followRound_eq]
  exact FactView.fitting_foldl (fun _ hx _ h => fitting_addFollow hg hfirst hx h) h

theorem fitting_initialFollow (g : Grammar) :
    FollowSet.view.Fitting g.nonterminals.length g.terminals.length
      ((List.replicate g.nonterminals.length FollowSet.empty).modify g.start fun _ => ⟨[], true⟩) :=
  FactView.fitting_modify (FactView.fitting_replicate (FollowSet.fits_empty _))
    fun _ _ => ⟨List.Pairwise.nil, by simp⟩

theorem fitting_followSets (hg : g.WellFormed) :
    FollowSet.view.Fitting g.nonterminals.length g.terminals.length
      (g.followSets g.firstSets) :=
  settle_invariant (fun _ h => fitting_followRound hg (fitting_firstSets hg) h) _
    (fitting_initialFollow g)

/-! ## Closure -/

/-- A round changes nothing of the FOLLOW sets. -/
theorem followRound_followSets (hg : g.WellFormed) :
    g.followRound g.firstSets (g.followSets g.firstSets) = g.followSets g.firstSets := by
  refine FactView.settle_rounds (v := FollowSet.view)
    (fun _ h => fitting_followRound hg (fitting_firstSets hg) h) (fun follow => ?_)
    (fitting_initialFollow g)
  rw [followRound_eq]
  exact FactView.below_foldl (below_addFollow _) _ _

/-- The end follows the start symbol. -/
theorem holds_start (hg : g.WellFormed) :
    FollowSet.view.Holds (g.followSets g.firstSets) g.start none := by
  refine settle_invariant (fun follow (h : FollowSet.view.Holds follow g.start none) => ?_) _ ?_
  · rw [followRound_eq]
    exact FactView.below_foldl (below_addFollow _) _ _ _ _ h
  · rw [FactView.holds_modify, if_pos ⟨rfl, by simpa using hg.start_lt⟩]
    rfl

/-- What an occurrence adds in a round holds already. -/
theorem holds_of_addFollow (hg : g.WellFormed) {p : Production} (hp : p ∈ g.productions)
    {s rest : List Symbol} {b : Nat} (hbody : p.body = s ++ .nonterminal b :: rest)
    {o : Option Nat}
    (ho : ∀ follow, FollowSet.view.Below (g.followSets g.firstSets) follow →
      (∃ t, o = some t ∧ (firstOf g.firstSets rest).has (some t) = true) ∨
        (firstOf g.firstSets rest).has none = true ∧ b ≠ p.lhs ∧
          FollowSet.view.Holds follow p.lhs o) :
    FollowSet.view.Holds (g.followSets g.firstSets) b o := by
  obtain ⟨follow, hlen, hbelow, hrest⟩ := FactView.exists_stage (v := FollowSet.view)
    (below_addFollow g.firstSets) (mem_growth.2 ⟨p, hp, rfl, s, hbody⟩)
    (fun _ _ => List.length_modify ..) (g.followSets g.firstSets)
  have hfixed := followRound_followSets hg
  rw [followRound_eq] at hfixed
  rw [hfixed] at hrest
  refine hrest b o (holds_addFollow.2 (Or.inr ⟨rfl, ?_, ho follow hbelow⟩))
  rw [hlen, (fitting_followSets hg).1]
  refine hg.knows_body p hp (.nonterminal b) ?_
  rw [hbody]
  exact List.mem_append_right _ List.mem_cons_self

/-- What can start behind an occurrence follows it. -/
theorem holds_of_behind (hg : g.WellFormed) {p : Production} (hp : p ∈ g.productions)
    {s rest : List Symbol} {b t : Nat} (hbody : p.body = s ++ .nonterminal b :: rest)
    (ht : (firstOf g.firstSets rest).has (some t) = true) :
    FollowSet.view.Holds (g.followSets g.firstSets) b (some t) :=
  holds_of_addFollow hg hp hbody fun _ _ => Or.inl ⟨t, rfl, ht⟩

/-- What follows the left-hand side follows an occurrence behind which all can vanish. -/
theorem holds_of_lhs (hg : g.WellFormed) {p : Production} (hp : p ∈ g.productions)
    {s rest : List Symbol} {b : Nat} (hbody : p.body = s ++ .nonterminal b :: rest)
    (hrest : (firstOf g.firstSets rest).has none = true) {o : Option Nat}
    (ho : FollowSet.view.Holds (g.followSets g.firstSets) p.lhs o) :
    FollowSet.view.Holds (g.followSets g.firstSets) b o := by
  by_cases hb : b = p.lhs
  · rw [hb]
    exact ho
  · exact holds_of_addFollow hg hp hbody fun _ hbelow => Or.inr ⟨hrest, hb, hbelow _ _ ho⟩

end Grammar

end TopDown
