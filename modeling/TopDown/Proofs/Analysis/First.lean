import TopDown.Proofs.Analysis.Settle
import TopDown.Proofs.Grammar.WellFormed

/-!
# FIRST sets are exact

* `FirstSet.has`, `FirstSet.view` : FIRST sets as sets of facts;
* `Vanishes`, `Starts` : a symbol derives the empty text, and a sequence derives something that
  starts with a terminal, by derivation trees of a given height;
* `has_none_firstOf_iff`, `has_some_firstOf_iff` : the computed sets hold exactly these facts;
* `Vanishes.bounded`, `Starts.bounded` : as many levels as there are nonterminals are enough.
-/

namespace TopDown

namespace FirstSet

/-- FIRST sets as sets of facts; a set is marked if the empty text is derived. -/
def view : FactView FirstSet :=
  .ascending terms nullable empty rfl rfl fun ⟨_, _⟩ ⟨_, _⟩ h h' => by cases h; cases h'; rfl

/-- A terminal of the set, or its mark for the empty text. -/
def has (s : FirstSet) (o : Option Nat) : Bool := view.has s o

theorem has_some {s : FirstSet} {t : Nat} : s.has (some t) = true ↔ t ∈ s.terms :=
  decide_eq_true_iff

theorem has_none {s : FirstSet} : s.has none = s.nullable := rfl

theorem has_union {s s' : FirstSet} {o : Option Nat} :
    (s.union s').has o = true ↔ s.has o = true ∨ s'.has o = true := by
  cases o with
  | none => simp [has_none, union]
  | some t => simp [has_some, union]

theorem fits_empty (n : Nat) : view.Fits n empty := ⟨List.Pairwise.nil, by simp [empty]⟩

theorem fits_union {n : Nat} {s s' : FirstSet} (h : view.Fits n s) (h' : view.Fits n s') :
    view.Fits n (s.union s') := FactView.ascending_union h h'

end FirstSet

/-! ## FIRST of a sequence -/

section Sequence

variable {first first' : List FirstSet}

@[simp] theorem has_firstOf_nil {o : Option Nat} : (firstOf first []).has o = true ↔ o = none := by
  cases o <;> simp [firstOf, FirstSet.has_none, FirstSet.has_some]

@[simp] theorem has_firstOf_terminal {t : Nat} {s : List Symbol} {o : Option Nat} :
    (firstOf first (.terminal t :: s)).has o = true ↔ o = some t := by
  cases o with
  | none => simp [firstOf, FirstSet.has_none]
  | some t' => simp [firstOf, FirstSet.has_some]

@[simp] theorem firstOf_empty {s : List Symbol} :
    firstOf first (.empty :: s) = firstOf first s := rfl

@[simp] theorem has_firstOf_nonterminal {a : Nat} {o : Option Nat} :
    (firstOf first [.nonterminal a]).has o = true ↔ FirstSet.view.Holds first a o := by
  change _ ↔ (first.getD a .empty).has o = true
  simp only [firstOf]
  cases o <;> split <;> simp_all [FirstSet.has_none, FirstSet.has_some]

theorem has_none_firstOf_cons {x : Symbol} {s : List Symbol} :
    (firstOf first (x :: s)).has none = true ↔
      (firstOf first [x]).has none = true ∧ (firstOf first s).has none = true := by
  cases x with
  | terminal t => simp
  | empty => simp
  | nonterminal a =>
    simp only [firstOf, FirstSet.has_none]
    split <;> simp_all

theorem has_some_firstOf_cons {x : Symbol} {t : Nat} {s : List Symbol} :
    (firstOf first (x :: s)).has (some t) = true ↔
      (firstOf first [x]).has (some t) = true ∨
        (firstOf first [x]).has none = true ∧ (firstOf first s).has (some t) = true := by
  cases x with
  | terminal t => simp
  | empty => simp
  | nonterminal a =>
    simp only [firstOf, FirstSet.has_none, FirstSet.has_some]
    split <;> simp_all

theorem has_none_firstOf {s : List Symbol} :
    (firstOf first s).has none = true ↔ ∀ x ∈ s, (firstOf first [x]).has none = true := by
  induction s with
  | nil => simp
  | cons x s ih => rw [has_none_firstOf_cons, ih, List.forall_mem_cons]

theorem has_firstOf_mono (h : FirstSet.view.Below first first') {s : List Symbol} {o : Option Nat}
    (ho : (firstOf first s).has o = true) : (firstOf first' s).has o = true := by
  have hone : ∀ x o, (firstOf first [x]).has o = true → (firstOf first' [x]).has o = true := by
    intro x o ho
    cases x with
    | terminal t => simpa using ho
    | empty => simpa using ho
    | nonterminal a => exact has_firstOf_nonterminal.2 (h a o (has_firstOf_nonterminal.1 ho))
  induction s with
  | nil => simpa using ho
  | cons x s ih =>
    cases o with
    | none =>
      rw [has_none_firstOf_cons] at ho ⊢
      exact ⟨hone x none ho.1, ih ho.2⟩
    | some t =>
      rw [has_some_firstOf_cons] at ho ⊢
      rcases ho with ho | ⟨hx, ho⟩
      · exact Or.inl (hone x (some t) ho)
      · exact Or.inr ⟨hone x none hx, ih ho⟩

theorem fits_firstOf {g : Grammar}
    (h : FirstSet.view.Fitting g.nonterminals.length g.terminals.length first) {s : List Symbol}
    (hs : ∀ x ∈ s, g.Knows x) : FirstSet.view.Fits g.terminals.length (firstOf first s) := by
  have hget : ∀ a, FirstSet.view.Fits g.terminals.length (first.getD a .empty) :=
    h.fits_getD (FirstSet.fits_empty _)
  induction s with
  | nil => exact ⟨List.Pairwise.nil, by simp [firstOf]⟩
  | cons x s ih =>
    have ih := ih fun x hx => hs x (List.mem_cons_of_mem _ hx)
    cases x with
    | terminal t =>
      refine ⟨List.pairwise_singleton _ _, fun t' ht' => ?_⟩
      cases List.mem_singleton.1 ht'
      exact hs _ List.mem_cons_self
    | empty => exact ih
    | nonterminal a =>
      simp only [firstOf]
      split
      · exact FirstSet.fits_union (hget a) ih
      · exact hget a

end Sequence

/-! ## Rounds -/

namespace Grammar

variable {g : Grammar} {first : List FirstSet}

theorem holds_addFirst {p : Production} {a : Nat} {o : Option Nat} :
    FirstSet.view.Holds (addFirst first p) a o ↔
      FirstSet.view.Holds first a o ∨
        a = p.lhs ∧ p.lhs < first.length ∧ (firstOf first p.body).has o = true := by
  unfold addFirst
  rw [FactView.holds_modify]
  split
  · rename_i h
    obtain ⟨rfl, hlt⟩ := h
    change FirstSet.has _ o = true ↔ _
    rw [FirstSet.has_union]
    exact or_congr Iff.rfl ⟨fun h => ⟨rfl, hlt, h⟩, fun h => h.2.2⟩
  · rename_i h
    exact ⟨Or.inl, fun h' => h'.resolve_right fun h' => h ⟨h'.1, h'.2.1⟩⟩

theorem below_addFirst (first : List FirstSet) (p : Production) :
    FirstSet.view.Below first (addFirst first p) := fun _ _ h => holds_addFirst.2 (Or.inl h)

/-- In a round the set of a left-hand side takes in FIRST of each of its bodies. -/
theorem holds_firstRound {p : Production} (hp : p ∈ g.productions) (hlt : p.lhs < first.length)
    {o : Option Nat} (ho : (firstOf first p.body).has o = true) :
    FirstSet.view.Holds (g.firstRound first) p.lhs o := by
  obtain ⟨first', hlen, hbelow, hrest⟩ :=
    FactView.exists_stage below_addFirst hp (fun _ _ => List.length_modify ..) first
  apply hrest
  rw [holds_addFirst]
  exact Or.inr ⟨rfl, by omega, has_firstOf_mono hbelow ho⟩

theorem fitting_addFirst (hg : g.WellFormed) {p : Production} (hp : p ∈ g.productions)
    (h : FirstSet.view.Fitting g.nonterminals.length g.terminals.length first) :
    FirstSet.view.Fitting g.nonterminals.length g.terminals.length (addFirst first p) :=
  FactView.fitting_modify h fun _ hs =>
    FirstSet.fits_union hs (fits_firstOf h (hg.knows_body p hp))

theorem fitting_firstRound (hg : g.WellFormed)
    (h : FirstSet.view.Fitting g.nonterminals.length g.terminals.length first) :
    FirstSet.view.Fitting g.nonterminals.length g.terminals.length (g.firstRound first) :=
  FactView.fitting_foldl (fun _ hp _ h => fitting_addFirst hg hp h) h

theorem fitting_firstSets (hg : g.WellFormed) :
    FirstSet.view.Fitting g.nonterminals.length g.terminals.length g.firstSets :=
  settle_invariant (fun _ h => fitting_firstRound hg h) _
    (FactView.fitting_replicate (FirstSet.fits_empty _))

/-- The FIRST sets have settled: every body's FIRST is in its left-hand side's. -/
theorem firstSets_closed (hg : g.WellFormed) {p : Production} (hp : p ∈ g.productions)
    {o : Option Nat} (ho : (firstOf g.firstSets p.body).has o = true) :
    FirstSet.view.Holds g.firstSets p.lhs o := by
  have hfixed : g.firstRound g.firstSets = g.firstSets :=
    FactView.settle_rounds (v := FirstSet.view) (fun _ h => fitting_firstRound hg h)
      (fun _ => FactView.below_foldl below_addFirst _ _)
      (FactView.fitting_replicate (FirstSet.fits_empty _))
  rw [← hfixed]
  apply holds_firstRound hp _ ho
  rw [(fitting_firstSets hg).1]
  exact hg.lhs_lt p hp

/-! ## What a sequence derives -/

/-- The symbol derives the empty text, by a tree of at most this many levels. -/
inductive Vanishes (g : Grammar) : Nat → Symbol → Prop
  | empty {n} : Vanishes g n .empty
  | nonterminal {n p} : p ∈ g.productions → (∀ x ∈ p.body, Vanishes g n x) →
      Vanishes g (n + 1) (.nonterminal p.lhs)

/-- The sequence derives something that starts with the terminal `t`. At most this many levels lie
above `t`. -/
inductive Starts (g : Grammar) (t : Nat) : Nat → List Symbol → Prop
  | terminal {n s} : Starts g t n (.terminal t :: s)
  | enter {n p s} : p ∈ g.productions → Starts g t n p.body →
      Starts g t (n + 1) (.nonterminal p.lhs :: s)
  | pass {n m x s} : Vanishes g m x → Starts g t n s → Starts g t n (x :: s)

theorem Vanishes.mono {n m : Nat} {x : Symbol} (h : Vanishes g n x) (hnm : n ≤ m) :
    Vanishes g m x := by
  induction h generalizing m with
  | empty => exact .empty
  | nonterminal hp _ ih =>
    obtain ⟨k, rfl⟩ : ∃ k, m = k + 1 := ⟨m - 1, by omega⟩
    exact .nonterminal hp fun x hx => ih x hx (by omega)

theorem Starts.mono {t n m : Nat} {s : List Symbol} (h : Starts g t n s) (hnm : n ≤ m) :
    Starts g t m s := by
  induction h generalizing m with
  | terminal => exact .terminal
  | enter hp _ ih =>
    obtain ⟨k, rfl⟩ : ∃ k, m = k + 1 := ⟨m - 1, by omega⟩
    exact .enter hp (ih (by omega))
  | pass hx _ ih => exact .pass hx (ih hnm)

theorem Starts.append {t n : Nat} {s : List Symbol} (h : Starts g t n s) (s' : List Symbol) :
    Starts g t n (s ++ s') := by
  induction h with
  | terminal => exact .terminal
  | enter hp h _ => exact .enter hp h
  | pass hx _ ih => exact .pass hx ih

/-- Symbols that vanish one by one vanish within a common number of levels. -/
theorem exists_vanishes {s : List Symbol} (h : ∀ x ∈ s, ∃ n, Vanishes g n x) :
    ∃ n, ∀ x ∈ s, Vanishes g n x := by
  induction s with
  | nil => exact ⟨0, by simp⟩
  | cons x s ih =>
    obtain ⟨n, hn⟩ := h x List.mem_cons_self
    obtain ⟨m, hm⟩ := ih fun y hy => h y (List.mem_cons_of_mem _ hy)
    refine ⟨max n m, fun y hy => ?_⟩
    rcases List.mem_cons.1 hy with rfl | hy
    · exact hn.mono (Nat.le_max_left n m)
    · exact (hm y hy).mono (Nat.le_max_right n m)

/-! ## Exactness -/

/-- Every fact of the sets is backed by a derivation. -/
def Justified (g : Grammar) (first : List FirstSet) : Prop :=
  ∀ a, (FirstSet.view.Holds first a none → ∃ n, Vanishes g n (.nonterminal a)) ∧
    ∀ t, FirstSet.view.Holds first a (some t) → ∃ n, Starts g t n [.nonterminal a]

theorem Justified.vanishes_of_firstOf (h : Justified g first) {s : List Symbol}
    (hs : (firstOf first s).has none = true) : ∀ x ∈ s, ∃ n, Vanishes g n x := by
  intro x hx
  have hx := has_none_firstOf.1 hs x hx
  cases x with
  | terminal t => simp at hx
  | empty => exact ⟨0, .empty⟩
  | nonterminal a => exact (h a).1 (has_firstOf_nonterminal.1 hx)

theorem Justified.starts_of_firstOf (h : Justified g first) {s : List Symbol} {t : Nat}
    (hs : (firstOf first s).has (some t) = true) : ∃ n, Starts g t n s := by
  induction s with
  | nil => simp at hs
  | cons x s ih =>
    rcases has_some_firstOf_cons.1 hs with hx | ⟨hx, hs⟩
    · cases x with
      | terminal t' =>
        cases has_firstOf_terminal.1 hx
        exact ⟨0, .terminal⟩
      | empty => simp at hx
      | nonterminal a =>
        obtain ⟨n, hn⟩ := (h a).2 t (has_firstOf_nonterminal.1 hx)
        exact ⟨n, hn.append s⟩
    · obtain ⟨m, hm⟩ := h.vanishes_of_firstOf hx x List.mem_cons_self
      obtain ⟨n, hn⟩ := ih hs
      exact ⟨n, .pass hm hn⟩

theorem Justified.addFirst (h : Justified g first) {p : Production} (hp : p ∈ g.productions) :
    Justified g (addFirst first p) := by
  intro a
  constructor
  · intro ha
    rcases holds_addFirst.1 ha with ha | ⟨rfl, -, hbody⟩
    · exact (h a).1 ha
    · obtain ⟨n, hn⟩ := exists_vanishes (h.vanishes_of_firstOf hbody)
      exact ⟨n + 1, .nonterminal hp hn⟩
  · intro t ha
    rcases holds_addFirst.1 ha with ha | ⟨rfl, -, hbody⟩
    · exact (h a).2 t ha
    · obtain ⟨n, hn⟩ := h.starts_of_firstOf hbody
      exact ⟨n + 1, .enter hp hn⟩

theorem Justified.firstRound (h : Justified g first) : Justified g (g.firstRound first) :=
  List.foldlRecOn g.productions Grammar.addFirst h fun _ h _ hp => h.addFirst hp

theorem justified_firstSets (g : Grammar) : Justified g g.firstSets :=
  settle_invariant (fun _ h => Justified.firstRound h) _ fun _ =>
    ⟨fun h => absurd h FactView.not_holds_replicate,
      fun _ h => absurd h FactView.not_holds_replicate⟩

theorem Vanishes.has (hg : g.WellFormed) {n : Nat} {x : Symbol} (h : Vanishes g n x) :
    (firstOf g.firstSets [x]).has none = true := by
  induction h with
  | empty => simp
  | nonterminal hp _ ih =>
    exact has_firstOf_nonterminal.2 (firstSets_closed hg hp (has_none_firstOf.2 ih))

theorem Starts.has (hg : g.WellFormed) {t n : Nat} {s : List Symbol} (h : Starts g t n s) :
    (firstOf g.firstSets s).has (some t) = true := by
  induction h with
  | terminal => simp
  | enter hp _ ih =>
    rw [has_some_firstOf_cons]
    exact Or.inl (has_firstOf_nonterminal.2 (firstSets_closed hg hp ih))
  | pass hx _ ih =>
    rw [has_some_firstOf_cons]
    exact Or.inr ⟨hx.has hg, ih⟩

/-- FIRST of a sequence is marked if and only if the sequence derives the empty text. -/
theorem has_none_firstOf_iff (hg : g.WellFormed) {s : List Symbol} :
    (firstOf g.firstSets s).has none = true ↔ ∀ x ∈ s, ∃ n, Vanishes g n x := by
  refine ⟨(justified_firstSets g).vanishes_of_firstOf, fun h => ?_⟩
  rw [has_none_firstOf]
  intro x hx
  obtain ⟨n, hn⟩ := h x hx
  exact hn.has hg

/-- FIRST of a sequence has exactly the terminals that it can start with. -/
theorem has_some_firstOf_iff (hg : g.WellFormed) {s : List Symbol} {t : Nat} :
    (firstOf g.firstSets s).has (some t) = true ↔ ∃ n, Starts g t n s :=
  ⟨(justified_firstSets g).starts_of_firstOf, fun ⟨_, h⟩ => h.has hg⟩

/-! ## Heights -/

theorem vanishes_nonterminal_iff {n a : Nat} :
    Vanishes g (n + 1) (.nonterminal a) ↔
      ∃ p ∈ g.productions, p.lhs = a ∧ ∀ x ∈ p.body, Vanishes g n x := by
  constructor
  · rintro (_ | ⟨hp, hbody⟩)
    exact ⟨_, hp, rfl, hbody⟩
  · rintro ⟨p, hp, rfl, hbody⟩
    exact .nonterminal hp hbody

theorem starts_nonterminal_iff {t n a : Nat} :
    Starts g t (n + 1) [.nonterminal a] ↔ ∃ p ∈ g.productions, p.lhs = a ∧ Starts g t n p.body := by
  constructor
  · rintro (_ | ⟨hp, hbody⟩ | ⟨-, h⟩)
    · exact ⟨_, hp, rfl, hbody⟩
    · cases h
  · rintro ⟨p, hp, rfl, hbody⟩
    exact .enter hp hbody

theorem not_starts_zero {t a : Nat} : ¬ Starts g t 0 [.nonterminal a] := by
  rintro (_ | _ | ⟨-, h⟩)
  cases h

/-- A symbol that vanishes does so within as many levels as there are nonterminals. -/
theorem Vanishes.bounded (hg : g.WellFormed) {n : Nat} {x : Symbol} (h : Vanishes g n x) :
    Vanishes g g.nonterminals.length x := by
  cases x with
  | terminal t => cases h
  | empty => exact .empty
  | nonterminal a =>
    refine stages_bounded (P := fun k a => Vanishes g k (.nonterminal a)) ?_ ?_ ?_ h
    · rintro k a (_ | ⟨hp, -⟩)
      exact hg.lhs_lt _ hp
    · exact fun k a h => h.mono (Nat.le_succ k)
    · intro k hk a h
      obtain ⟨p, hp, rfl, hbody⟩ := vanishes_nonterminal_iff.1 h
      refine .nonterminal hp fun x hx => ?_
      cases x with
      | terminal t => cases hbody _ hx
      | empty => exact .empty
      | nonterminal b => exact hk b (hbody _ hx)

/-- A sequence can start with a terminal below as many levels as there are nonterminals. -/
theorem Starts.bounded (hg : g.WellFormed) {t n : Nat} {s : List Symbol} (h : Starts g t n s) :
    Starts g t g.nonterminals.length s := by
  induction h with
  | terminal => exact .terminal
  | pass hx _ ih => exact .pass hx ih
  | @enter n p s hp hbody _ =>
    have hlhs : Starts g t (n + 1) [.nonterminal p.lhs] := .enter hp hbody
    refine Starts.append (s := [.nonterminal p.lhs]) ?_ s
    refine stages_bounded (P := fun k a => Starts g t k [.nonterminal a]) ?_ ?_ ?_ hlhs
    · intro k a h
      cases k with
      | zero => exact absurd h not_starts_zero
      | succ k =>
        obtain ⟨q, hq, rfl, -⟩ := starts_nonterminal_iff.1 h
        exact hg.lhs_lt q hq
    · exact fun k a h => h.mono (Nat.le_succ k)
    · intro k hk a h
      obtain ⟨q, hq, rfl, hbody⟩ := starts_nonterminal_iff.1 h
      refine .enter hq ?_
      -- the one nonterminal that is entered on the way down needs a level less
      generalize q.body = s at hbody
      generalize hm : k + 1 = m at hbody
      induction hbody with
      | terminal => exact .terminal
      | pass hx _ ih => exact .pass hx (ih hm)
      | enter hr hbody _ =>
        cases hm
        exact (hk _ (.enter hr hbody)).append _

end Grammar

end TopDown
