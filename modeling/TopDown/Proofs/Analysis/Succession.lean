import TopDown.Proofs.Analysis.Derivation
import TopDown.Proofs.Table.Cells

/-!
# FOLLOW sets tell what stands behind

* `Opening` : what can come first in a sequence and what stands behind it; `opening_append` : one
  sequence after another;
* `Followed` : FOLLOW has all that can come behind the nonterminals of a sequence;
  `Followed.rewrites` : and so it stays when a production is applied;
* `Precedes` : a lookahead can come right behind a nonterminal; `follows_iff_precedes` : FOLLOW has
  these lookaheads and no other;
* `precedes_terminal_iff`, `precedes_finish_iff` : they are told by derivations;
* `followSets_exact` : the loop of the FOLLOW sets ends with exactly these lookaheads.
-/

namespace TopDown

namespace Grammar

variable {g : Grammar} {s s' rest : List Symbol} {ends ends' : Lookahead → Prop} {y : Lookahead}
  {p : Production} {a b t : Nat}

/-! ## What can come first -/

/-- The lookahead can start the sequence or, if this vanishes, is one of those behind it. -/
def Opening (g : Grammar) (s : List Symbol) (ends : Lookahead → Prop) (y : Lookahead) : Prop :=
  (∃ t, y = .terminal t ∧ ∃ n, Starts g t n s) ∨ (∀ x ∈ s, ∃ n, Vanishes g n x) ∧ ends y

theorem Opening.mono (h : Opening g s ends y) (hends : ∀ y, ends y → ends' y) :
    Opening g s ends' y := h.imp_right fun h => ⟨h.1, hends y h.2⟩

theorem opening_append :
    Opening g (s ++ s') ends y ↔ Opening g s (fun y => Opening g s' ends y) y := by
  constructor
  · rintro (⟨t, rfl, n, hn⟩ | ⟨hvanish, hy⟩)
    · rcases hn.of_append with hs | ⟨hs, hs'⟩
      · exact .inl ⟨t, rfl, hs⟩
      · exact .inr ⟨hs, .inl ⟨t, rfl, hs'⟩⟩
    · obtain ⟨hs, hs'⟩ := List.forall_mem_append.1 hvanish
      exact .inr ⟨hs, .inr ⟨hs', hy⟩⟩
  · rintro (⟨t, rfl, n, hn⟩ | ⟨hs, ⟨t, rfl, n, hn⟩ | ⟨hs', hy⟩⟩)
    · exact .inl ⟨t, rfl, n, hn.append s'⟩
    · exact .inl ⟨t, rfl, n, hn.append_left hs⟩
    · exact .inr ⟨List.forall_mem_append.2 ⟨hs, hs'⟩, hy⟩

/-- What can come first once a production is applied can come first before. -/
theorem Opening.of_rewrites (h : Rewrites g s s') (hy : Opening g s' ends y) :
    Opening g s ends y := by
  rcases hy with ⟨t, rfl, hstarts⟩ | ⟨hvanish, hy⟩
  · exact .inl ⟨t, rfl, starts_of_rewrites h hstarts⟩
  · refine .inr ⟨?_, hy⟩
    rw [vanishes_iff_derives] at hvanish ⊢
    exact h.produces.trans_derives hvanish

/-! ## FOLLOW has all -/

/-- What can come first behind an occurrence follows it. -/
theorem follows_of_opening (hg : g.WellFormed) (hp : p ∈ g.productions)
    (hbody : p.body = s ++ .nonterminal a :: rest) (h : Opening g rest (g.Follows p.lhs) y) :
    g.Follows a y := by
  rcases h with ⟨t, rfl, ht⟩ | ⟨hvanish, hy⟩
  · exact holds_of_behind hg hp hbody ((has_some_firstOf_iff hg).2 ht)
  · exact holds_of_lhs hg hp hbody ((has_none_firstOf_iff hg).2 hvanish) hy

/-- All that can come behind a nonterminal of the sequence follows it, if one of `ends` stands
behind the sequence. -/
def Followed (g : Grammar) (ends : Lookahead → Prop) (s : List Symbol) : Prop :=
  ∀ s₁ a s₂, s = s₁ ++ .nonterminal a :: s₂ → ∀ y, Opening g s₂ ends y → g.Follows a y

theorem followed_nonterminal (h : ∀ y, ends y → g.Follows a y) :
    Followed g ends [.nonterminal a] := by
  intro s₁ b s₂ hs y hy
  rcases List.append_eq_singleton_iff.1 hs.symm with ⟨rfl, hb⟩ | ⟨-, hnil⟩
  · cases hb
    rcases hy with ⟨t, -, n, hn⟩ | ⟨-, hy⟩
    · cases hn
    · exact h y hy
  · cases hnil

/-- A production that is applied leaves nothing behind a nonterminal that does not follow it. -/
theorem Followed.rewrites (hg : g.WellFormed) (h : Followed g ends s) (hr : Rewrites g s s') :
    Followed g ends s' := by
  obtain @⟨p, hp, s₁, s₂⟩ := hr
  intro u₁ a u₂ hsplit y hy
  rw [List.append_assoc] at hsplit
  rcases split_of_append_eq hsplit with ⟨r, rfl, rfl⟩ | ⟨r, rfl, hrest⟩
  · -- before the body: what comes first there could come first before
    refine h u₁ a (r ++ .nonterminal p.lhs :: s₂) (by simp) y (.of_rewrites (.intro hp r s₂) ?_)
    rwa [List.append_assoc]
  · rcases split_of_append_eq hrest with ⟨r', hbody, rfl⟩ | ⟨r', rfl, rfl⟩
    · refine follows_of_opening hg hp hbody ((opening_append.1 hy).mono fun y hy => ?_)
      exact h s₁ p.lhs s₂ rfl y hy
    · exact h (s₁ ++ .nonterminal p.lhs :: r') a u₂ (by simp) y hy

theorem Followed.reaches (hg : g.WellFormed) (h : Followed g ends s)
    (hr : Relation.ReflTransGen (Rewrites g) s s') : Followed g ends s' := by
  induction hr with
  | refl => exact h
  | tail _ hstep ih => exact ih.rewrites hg hstep

/-! ## FOLLOW has no more -/

/-- Some nonterminal can be rewritten to a sequence in which the lookahead can come right behind
`a`. Behind the start symbol stands the end. -/
def Precedes (g : Grammar) (a : Nat) (y : Lookahead) : Prop :=
  ∃ b < g.nonterminals.length, ∃ s₁ s₂,
    Relation.ReflTransGen (Rewrites g) [.nonterminal b] (s₁ ++ .nonterminal a :: s₂) ∧
      Opening g s₂ (fun y => b = g.start ∧ y = .finish) y

theorem precedes_start (hg : g.WellFormed) : Precedes g g.start .finish :=
  ⟨g.start, hg.start_lt, [], [], .refl, .inr ⟨by simp, rfl, rfl⟩⟩

theorem precedes_of_opening (hg : g.WellFormed) (hp : p ∈ g.productions)
    (hbody : p.body = s ++ .nonterminal a :: rest) (h : Opening g rest (Precedes g p.lhs) y) :
    Precedes g a y := by
  rcases h with ⟨t, rfl, ht⟩ | ⟨hvanish, b, hb, s₁, s₂, hrewrites, hy⟩
  · have hstep := rewrites_nonterminal_iff.2 ⟨p, hp, rfl, rfl⟩
    rw [hbody] at hstep
    exact ⟨p.lhs, hg.lhs_lt p hp, s, rest, .single hstep, .inl ⟨t, rfl, ht⟩⟩
  · have hstep := Rewrites.intro hp s₁ s₂
    rw [hbody] at hstep
    refine ⟨b, hb, s₁ ++ s, rest ++ s₂, ?_, opening_append.2 (.inr ⟨hvanish, hy⟩)⟩
    simpa using hrewrites.tail hstep

/-- Every lookahead of the sets can come right behind its nonterminal. -/
def Backed (g : Grammar) (follow : List FollowSet) : Prop :=
  ∀ a y, FollowSet.view.Holds follow a y.fact → Precedes g a y

theorem Backed.addFollow (hg : g.WellFormed) {follow : List FollowSet} (h : Backed g follow)
    {x : Nat × Nat × List Symbol} (hx : x ∈ g.growth) :
    Backed g (addFollow g.firstSets x.1 follow x.2) := by
  obtain ⟨lhs, b, rest⟩ := x
  obtain ⟨p, hp, rfl, s, hbody⟩ := mem_growth.1 hx
  intro a y hy
  rcases holds_addFollow.1 hy with hy | ⟨rfl, -, ⟨t, hfact, ht⟩ | ⟨hvanish, -, hy⟩⟩
  · exact h a y hy
  · have hy : y = .terminal t := by cases y <;> simp_all [Lookahead.fact]
    exact precedes_of_opening hg hp hbody (.inl ⟨t, hy, (has_some_firstOf_iff hg).1 ht⟩)
  · exact precedes_of_opening hg hp hbody
      (.inr ⟨(has_none_firstOf_iff hg).1 hvanish, h p.lhs y hy⟩)

theorem backed_followSets (hg : g.WellFormed) : Backed g (g.followSets g.firstSets) := by
  refine settle_invariant (fun follow h => ?_) _ fun a y hy => ?_
  · rw [followRound_eq]
    exact List.foldlRecOn g.growth _ h fun _ h _ hx => h.addFollow hg hx
  · rw [FactView.holds_modify] at hy
    split at hy
    · rename_i ha
      cases y with
      | terminal t => simp [Lookahead.fact, FollowSet.view, FactView.ascending] at hy
      | finish => exact ha.1 ▸ precedes_start hg
    · exact absurd hy FactView.not_holds_replicate

theorem follows_iff_precedes (hg : g.WellFormed) : g.Follows a y ↔ Precedes g a y := by
  refine ⟨backed_followSets hg a y, ?_⟩
  rintro ⟨b, hb, s₁, s₂, hrewrites, hy⟩
  have hstart : Followed g (fun y => b = g.start ∧ y = .finish) [.nonterminal b] := by
    apply followed_nonterminal
    rintro _ ⟨rfl, rfl⟩
    exact holds_start hg
  exact hstart.reaches hg hrewrites s₁ a s₂ rfl y hy

/-! ## Derivations -/

theorem derives_behind {φ : SententialForm} {s₁ s₂ : List Symbol}
    (h : Relation.ReflTransGen (Rewrites g) s (s₁ ++ .nonterminal a :: s₂))
    (hrest : g.contextFree.Derives (form s₂) φ) :
    g.contextFree.Derives (form s) (form s₁ ++ .nonterminal a :: φ) := by
  have hs := derives_form_iff.2 ⟨_, h, rfl⟩
  rw [form_append, form_nonterminal] at hs
  exact hs.trans ((hrest.append_left [.nonterminal a]).append_left (form s₁))

theorem exists_rewrites_of_derives {φ ψ : SententialForm}
    (h : g.contextFree.Derives [.nonterminal b] (φ ++ .nonterminal a :: ψ)) :
    ∃ s₁ s₂, Relation.ReflTransGen (Rewrites g) [.nonterminal b] (s₁ ++ .nonterminal a :: s₂) ∧
      form s₂ = ψ := by
  obtain ⟨s, hrewrites, hform⟩ := derives_form_iff (s := [.nonterminal b]).1 h
  rw [← List.singleton_append, ← List.append_assoc] at hform
  obtain ⟨s₁, s₂, rfl, -, hψ⟩ := form_eq_split hform
  exact ⟨s₁, s₂, hrewrites, hψ⟩

/-- A terminal comes right behind a nonterminal in some form that some nonterminal derives. -/
theorem precedes_terminal_iff : Precedes g a (.terminal t) ↔
    ∃ b < g.nonterminals.length, ∃ φ ψ : SententialForm,
      g.contextFree.Derives [.nonterminal b] (φ ++ .nonterminal a :: .terminal t :: ψ) := by
  constructor
  · rintro ⟨b, hb, s₁, s₂, hrewrites, ⟨_, ⟨⟩, hstarts⟩ | ⟨-, -, ⟨⟩⟩⟩
    obtain ⟨ψ, hψ⟩ := starts_iff_derives.1 hstarts
    exact ⟨b, hb, form s₁, ψ, derives_behind hrewrites hψ⟩
  · rintro ⟨b, hb, φ, ψ, h⟩
    obtain ⟨s₁, s₂, hrewrites, hform⟩ := exists_rewrites_of_derives h
    exact ⟨b, hb, s₁, s₂, hrewrites, .inl ⟨t, rfl, starts_of_form hform⟩⟩

/-- The end comes right behind a nonterminal that a form of the start symbol ends with. -/
theorem precedes_finish_iff (hg : g.WellFormed) : Precedes g a .finish ↔
    ∃ φ : SententialForm,
      g.contextFree.Derives [.nonterminal g.start] (φ ++ [.nonterminal a]) := by
  constructor
  · rintro ⟨b, hb, s₁, s₂, hrewrites, ⟨_, ⟨⟩, -⟩ | ⟨hvanish, rfl, -⟩⟩
    exact ⟨form s₁, derives_behind hrewrites (vanishes_iff_derives.1 hvanish)⟩
  · rintro ⟨φ, h⟩
    obtain ⟨s₁, s₂, hrewrites, hform⟩ := exists_rewrites_of_derives h
    refine ⟨g.start, hg.start_lt, s₁, s₂, hrewrites, .inr ⟨?_, rfl, rfl⟩⟩
    rw [vanishes_iff_derives, hform]
    exact .refl _

end Grammar

/-! ## The computed sets -/

namespace Analysis

/-- The loop of the FOLLOW sets ends, and with sets that tell what is derived: a terminal follows a
nonterminal if and only if it stands right behind it in some form that some nonterminal derives, and
the end does if and only if the start symbol derives a form that ends with the nonterminal. -/
theorem followSets_exact {ds : Grammar.Declarations} {x : Lexicon} {options : Grammar.Options}
    {g : Grammar} (hds : ds.names.Nodup) (h : Grammar.resolve ds x options = .ok g) :
    (∀ follow, Loops (g.followSweep (Analysis.of g).first)
        ((List.replicate g.nonterminals.length FollowSet.empty).modify g.start
          fun _ => ⟨[], true⟩) follow ↔
      follow = (Analysis.of g).follow) ∧
    ∀ a, (∀ t, .terminal t ∈ ((Analysis.of g).followAt a).lookaheads ↔
        ∃ b < g.nonterminals.length, ∃ φ ψ : SententialForm,
          g.contextFree.Derives [.nonterminal b] (φ ++ .nonterminal a :: .terminal t :: ψ)) ∧
      (.finish ∈ ((Analysis.of g).followAt a).lookaheads ↔
        ∃ φ : SententialForm,
          g.contextFree.Derives [.nonterminal g.start] (φ ++ [.nonterminal a])) := by
  have hg := Grammar.WellFormed.of_resolve hds h
  have hloops := Grammar.loops_followSets hg
  refine ⟨fun follow => ⟨fun hfollow => hfollow.unique hloops, ?_⟩, fun a => ⟨fun t => ?_, ?_⟩⟩
  · rintro rfl
    exact hloops
  · rw [FollowSet.mem_lookaheads, ← Grammar.precedes_terminal_iff]
    exact Grammar.follows_iff_precedes hg
  · rw [FollowSet.mem_lookaheads, ← Grammar.precedes_finish_iff hg]
    exact Grammar.follows_iff_precedes hg

/-- In the entwined grammar `(` follows `B`, which no body shows: `A` derives `B "("`, and so does
what ends with `B`. -/
theorem followSets_exact_entwined :
    Grammar.resolve entwinedDeclarations entwinedLexicon {} = .ok entwined ∧
      Loops (entwined.followSweep (Analysis.of entwined).first)
        [⟨[], true⟩, .empty, .empty] [⟨[], true⟩, ⟨[0, 1], false⟩, ⟨[0, 1], false⟩] ∧
      (∃ b < entwined.nonterminals.length, ∃ φ ψ : SententialForm,
        entwined.contextFree.Derives [.nonterminal b]
          (φ ++ .nonterminal 1 :: .terminal 0 :: ψ)) ∧
      ¬ ∃ φ : SententialForm, entwined.contextFree.Derives [.nonterminal entwined.start]
        (φ ++ [.nonterminal 2]) := by
  obtain ⟨hloops, hexact⟩ := followSets_exact (by decide) resolve_entwined
  have hfollow : (Analysis.of entwined).follow =
      [⟨[], true⟩, ⟨[0, 1], false⟩, ⟨[0, 1], false⟩] := by decide +kernel
  refine ⟨resolve_entwined, (hloops _).2 hfollow.symm, ((hexact 1).1 0).1 ?_, ?_⟩
  · decide +kernel
  · rw [← (hexact 2).2]
    decide +kernel

end Analysis

end TopDown
