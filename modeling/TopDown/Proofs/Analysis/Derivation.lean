import TopDown.Proofs.Analysis.Loop
import TopDown.Proofs.Grammar.Language

/-!
# FIRST sets tell what is derived

The trees behind `Vanishes` and `Starts` are derivations of the context-free grammar, and the other
way round.

* `vanishes_iff_derives` : the symbols of a sequence vanish if and only if it derives the empty
  form;
* `starts_iff_derives` : a sequence starts with a terminal if and only if it derives a form that
  does;
* `firstSets_exact` : the loop of the FIRST sets ends with exactly these marks and terminals.
-/

namespace TopDown

namespace Grammar

variable {g : Grammar} {s s' : List Symbol} {t n : Nat}

/-! ## Vanishing -/

theorem yields_nil (h : ∀ x ∈ s, Yields g [x] []) : Yields g s [] := by
  induction s with
  | nil => exact .nil
  | cons x s ih =>
    obtain ⟨hx, hs⟩ := List.forall_mem_cons.1 h
    exact hx.append (ih hs)

theorem Vanishes.yields {x : Symbol} (h : Vanishes g n x) : Yields g [x] [] := by
  induction h with
  | empty => exact .empty .nil
  | nonterminal hp _ ih => exact .nonterminal hp (yields_nil ih) .nil

theorem Yields.vanishes (h : Yields g s []) : ∀ x ∈ s, ∃ n, Vanishes g n x := by
  generalize hw : ([] : List Nat) = w at h
  induction h with
  | nil => exact fun x hx => absurd hx List.not_mem_nil
  | empty _ ih => exact List.forall_mem_cons.2 ⟨⟨0, .empty⟩, ih hw⟩
  | terminal => cases hw
  | nonterminal hp _ _ ihbody ih =>
    obtain ⟨hu, hv⟩ := List.append_eq_nil_iff.1 hw.symm
    obtain ⟨n, hn⟩ := exists_vanishes (ihbody hu.symm)
    exact List.forall_mem_cons.2 ⟨⟨n + 1, .nonterminal hp hn⟩, ih hv.symm⟩

theorem vanishes_iff_derives :
    (∀ x ∈ s, ∃ n, Vanishes g n x) ↔ g.contextFree.Derives (form s) [] := by
  rw [← List.map_nil, ← yields_iff_derives]
  refine ⟨fun h => yields_nil fun x hx => ?_, Yields.vanishes⟩
  obtain ⟨n, hn⟩ := h x hx
  exact hn.yields

/-! ## Starting -/

theorem Starts.append_left (h : Starts g t n s') (hs : ∀ x ∈ s, ∃ n, Vanishes g n x) :
    Starts g t n (s ++ s') := by
  induction s with
  | nil => exact h
  | cons x s ih =>
    obtain ⟨⟨m, hm⟩, hs⟩ := List.forall_mem_cons.1 hs
    exact .pass hm (ih hs)

/-- What starts two sequences starts the first, or the second if the first vanishes. -/
theorem Starts.of_append (h : Starts g t n (s ++ s')) :
    (∃ m, Starts g t m s) ∨ (∀ x ∈ s, ∃ m, Vanishes g m x) ∧ ∃ m, Starts g t m s' := by
  induction s with
  | nil => exact .inr ⟨fun x hx => absurd hx List.not_mem_nil, n, h⟩
  | cons x s ih =>
    cases h with
    | terminal => exact .inl ⟨n, .terminal⟩
    | enter hp hbody => exact .inl ⟨_, .enter hp hbody⟩
    | pass hx h =>
      rcases ih h with ⟨m, hm⟩ | ⟨hs, hs'⟩
      · exact .inl ⟨m, .pass hx hm⟩
      · exact .inr ⟨List.forall_mem_cons.2 ⟨⟨_, hx⟩, hs⟩, hs'⟩

theorem Yields.starts {w : List Nat} (h : Yields g s (t :: w)) : ∃ n, Starts g t n s := by
  generalize hw : t :: w = w' at h
  induction h generalizing w with
  | nil => cases hw
  | empty _ ih =>
    obtain ⟨n, hn⟩ := ih hw
    exact ⟨n, .pass (m := 0) .empty hn⟩
  | terminal =>
    cases hw
    exact ⟨0, .terminal⟩
  | @nonterminal p s u v hp hbody _ ihbody ih =>
    cases u with
    | nil =>
      obtain ⟨m, hm⟩ := exists_vanishes hbody.vanishes
      obtain ⟨n, hn⟩ := ih hw
      exact ⟨n, .pass (.nonterminal hp hm) hn⟩
    | cons t' u =>
      cases hw
      obtain ⟨n, hn⟩ := ihbody rfl
      exact ⟨n + 1, .enter hp hn⟩

theorem Starts.derives (h : Starts g t n s) :
    ∃ φ, g.contextFree.Derives (form s) (.terminal t :: φ) := by
  induction h with
  | @terminal n s => exact ⟨form s, .refl _⟩
  | @enter n p s hp _ ih =>
    obtain ⟨φ : SententialForm, hφ⟩ := ih
    have hstep := (Rewrites.intro hp [] s).produces
    rw [List.nil_append, List.nil_append, form_append] at hstep
    exact ⟨φ ++ form s, hstep.trans_derives (hφ.append_right (form s))⟩
  | @pass n m x s hx _ ih =>
    obtain ⟨φ, hφ⟩ := ih
    have hvanish : g.contextFree.Derives (form [x]) [] := hx.yields.derives
    have hsplit : form (x :: s) = form [x] ++ form s := form_append [x] s
    rw [hsplit]
    exact ⟨φ, (hvanish.append_right (form s)).trans hφ⟩

/-- What a sequence can start with once a production is applied, it can start with before. -/
theorem starts_of_rewrites (h : Rewrites g s s') (hs' : ∃ n, Starts g t n s') :
    ∃ n, Starts g t n s := by
  obtain @⟨p, hp, s₁, s₂⟩ := h
  obtain ⟨n, hs'⟩ := hs'
  rw [List.append_assoc] at hs'
  rcases hs'.of_append with ⟨m, hm⟩ | ⟨hs₁, _, hrest⟩
  · exact ⟨m, hm.append _⟩
  rcases hrest.of_append with ⟨m, hm⟩ | ⟨hbody, m, hm⟩
  · exact ⟨m + 1, .append_left (.enter hp hm) hs₁⟩
  · obtain ⟨k, hk⟩ := exists_vanishes hbody
    exact ⟨m, .append_left (.pass (.nonterminal hp hk) hm) hs₁⟩

theorem starts_of_form {φ : SententialForm} (h : form s = .terminal t :: φ) :
    ∃ n, Starts g t n s := by
  obtain ⟨s₁, x, s₂, rfl, hs₁, hx, -⟩ := List.filterMap_eq_cons_iff.1 h
  have hnil : Yields g s₁ [] := yields_of_form_eq (List.filterMap_eq_nil_iff.2 hs₁)
  cases x with
  | terminal t' =>
    cases hx
    exact ⟨0, .append_left .terminal hnil.vanishes⟩
  | nonterminal a => cases hx
  | empty => cases hx

theorem starts_iff_derives :
    (∃ n, Starts g t n s) ↔ ∃ φ, g.contextFree.Derives (form s) (.terminal t :: φ) := by
  constructor
  · rintro ⟨n, h⟩
    exact h.derives
  · rintro ⟨φ, h⟩
    obtain ⟨s', hrewrites, hform⟩ := derives_form_iff.1 h
    clear h
    induction hrewrites using Relation.ReflTransGen.head_induction_on with
    | refl => exact starts_of_form hform
    | head hstep _ ih => exact starts_of_rewrites hstep ih

end Grammar

/-! ## The computed sets -/

/-- FIRST of a nonterminal alone is its set. -/
theorem firstOf_nonterminal {first : List FirstSet} {a : Nat}
    (h : (first.getD a .empty).terms.Pairwise (· < ·)) :
    firstOf first [.nonterminal a] = first.getD a .empty := by
  have hunion : Ascending.union (first.getD a .empty).terms [] = (first.getD a .empty).terms :=
    List.Pairwise.eq_of_mem_iff (Ascending.pairwise_union .nil) h (by simp)
  unfold firstOf
  generalize first.getD a .empty = s at hunion
  cases s with
  | mk terms nullable => cases nullable <;> simp [firstOf, hunion]

namespace Analysis

/-- The loop of the FIRST sets ends, and with sets that tell what is derived: a set has the
terminals that can come first and is marked if the empty form is derived. The set of a nonterminal
is that of the sequence it makes up. -/
theorem firstSets_exact {ds : Grammar.Declarations} {x : Lexicon} {options : Grammar.Options}
    {g : Grammar} (hds : ds.names.Nodup) (h : Grammar.resolve ds x options = .ok g) :
    (∀ first, Loops g.firstSweep (List.replicate g.nonterminals.length .empty) first ↔
      first = (Analysis.of g).first) ∧
    (∀ s, (∀ t, t ∈ ((Analysis.of g).firstOf s).terms ↔
        ∃ φ, g.contextFree.Derives (Grammar.form s) (.terminal t :: φ)) ∧
      (((Analysis.of g).firstOf s).nullable = true ↔
        g.contextFree.Derives (Grammar.form s) [])) ∧
    ∀ a, (Analysis.of g).firstAt a = (Analysis.of g).firstOf [.nonterminal a] := by
  have hg := Grammar.WellFormed.of_resolve hds h
  have hloops := Grammar.loops_firstSets hg
  refine ⟨fun first => ⟨fun hfirst => hfirst.unique hloops, ?_⟩, fun s => ⟨fun t => ?_, ?_⟩, ?_⟩
  · rintro rfl
    exact hloops
  · rw [← FirstSet.has_some, ← Grammar.starts_iff_derives]
    exact Grammar.has_some_firstOf_iff hg
  · rw [← FirstSet.has_none, ← Grammar.vanishes_iff_derives]
    exact Grammar.has_none_firstOf_iff hg
  · intro a
    have hfits := (Grammar.fitting_firstSets hg).fits_getD (FirstSet.fits_empty _) a
    exact (firstOf_nonterminal hfits.1).symm

/-- Nonterminals that vanish and start one another: `S -> A B ")"`, `A -> B "("` or nothing, and
`B -> A`. -/
def entwined : Grammar where
  terminals := ["(", ")"]
  nonterminals := ["S", "A", "B"]
  productions := [⟨0, [.nonterminal 1, .nonterminal 2, .terminal 1]⟩,
    ⟨1, [.nonterminal 2, .terminal 0]⟩, ⟨1, [.empty]⟩, ⟨2, [.nonterminal 1]⟩]
  emptyName := "$"

def entwinedLexicon : Lexicon :=
  ⟨[⟨"TERMINAL", "\\(", 1, false⟩, ⟨"TERMINAL", "\\)", 2, false⟩]⟩

def entwinedDeclarations : Grammar.Declarations :=
  [⟨"S", 1, [⟨1, "AB)"⟩]⟩, ⟨"A", 2, [⟨2, "B("⟩, ⟨2, "$"⟩]⟩, ⟨"B", 3, [⟨3, "A"⟩]⟩]

theorem resolve_entwined :
    Grammar.resolve entwinedDeclarations entwinedLexicon {} = .ok entwined := by decide +kernel

theorem firstSets_exact_entwined :
    Grammar.resolve entwinedDeclarations entwinedLexicon {} = .ok entwined ∧
      Loops entwined.firstSweep [.empty, .empty, .empty]
        [⟨[0, 1], false⟩, ⟨[0], true⟩, ⟨[0], true⟩] ∧
      (∃ φ, entwined.contextFree.Derives (Grammar.form [.nonterminal 2, .empty, .terminal 1])
        (.terminal 0 :: φ)) ∧
      entwined.contextFree.Derives (Grammar.form [.nonterminal 1, .empty, .nonterminal 2]) [] ∧
      ¬ entwined.contextFree.Derives (Grammar.form [.nonterminal 0]) [] := by
  obtain ⟨hloops, hexact, -⟩ := firstSets_exact (by decide) resolve_entwined
  have hfirst : (Analysis.of entwined).first =
      [⟨[0, 1], false⟩, ⟨[0], true⟩, ⟨[0], true⟩] := by decide +kernel
  refine ⟨resolve_entwined, (hloops _).2 hfirst.symm, ((hexact _).1 0).1 ?_, (hexact _).2.1 ?_, ?_⟩
  · decide +kernel
  · decide +kernel
  · rw [← (hexact [.nonterminal 0]).2]
    decide +kernel

end Analysis

end TopDown
