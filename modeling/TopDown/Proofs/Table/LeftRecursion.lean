import TopDown.Proofs.Machine.Acceptance

/-!
# Left recursion is a conflict

A left-recursive nonterminal leads back to itself through bodies in which nothing stands before the
next nonterminal but symbols that vanish. Without conflicts a lookahead selects one production, and
this is both the one that leads on and the one that takes the fewest levels to a terminal or to
nothing. So the levels would go down for ever.

* `Grammar.Reduced`, `Grammar.LeftRecursive` : grammars whose nonterminals are all of use, and
  nonterminals that derive a form that begins with themselves;
* `Opens`, `Leads` : the nonterminals that can come first in a sequence, and in a body;
  `opens_of_derives` : all that come first in a derivation are reached by them;
* `exists_follows_of_derives` : in a reduced grammar something follows every nonterminal;
* `not_starts_of_vanishes` : without conflicts, what vanishes cannot start with what follows it;
* `not_starts_of_cycle`, `not_vanishes_of_cycle` : without conflicts, a nonterminal that leads to
  itself derives neither a terminal nor the empty text;
* `select_leftRecursive` : the table of a reduced, left-recursive grammar is refused.
-/

namespace TopDown

namespace Grammar

/-- Every nonterminal can be reached from the start symbol and derives some terminals. -/
def Reduced (g : Grammar) : Prop :=
  ∀ a < g.nonterminals.length,
    (∃ u v, g.contextFree.Derives [.nonterminal g.start] (u ++ [.nonterminal a] ++ v)) ∧
      ∃ w : List Nat, g.contextFree.Derives [.nonterminal a] (w.map .terminal)

/-- In one step or more the nonterminal derives a form that begins with it. -/
def LeftRecursive (g : Grammar) (a : Nat) : Prop :=
  ∃ φ, Relation.TransGen g.contextFree.Produces [.nonterminal a] (.nonterminal a :: φ)

/-- Nothing stands before the nonterminal in the sequence but symbols that vanish. -/
def Opens (g : Grammar) (s : List Symbol) (b : Nat) : Prop :=
  ∃ s₁ s₂, s = s₁ ++ .nonterminal b :: s₂ ∧ ∀ x ∈ s₁, ∃ n, Vanishes g n x

/-- The nonterminal `b` can come first in a body of `a`. -/
def Leads (g : Grammar) (a b : Nat) : Prop := ∃ p ∈ g.productions, p.lhs = a ∧ Opens g p.body b

variable {g : Grammar} {s s' : List Symbol} {a b c t n : Nat} {x : Lookahead}

/-! ## First symbols -/

theorem Opens.append_right (h : Opens g s b) (s' : List Symbol) : Opens g (s ++ s') b := by
  obtain ⟨s₁, s₂, rfl, hs₁⟩ := h
  exact ⟨s₁, s₂ ++ s', by rw [List.append_assoc]; rfl, hs₁⟩

theorem Opens.append_left (h : Opens g s' b) (hs : ∀ x ∈ s, ∃ n, Vanishes g n x) :
    Opens g (s ++ s') b := by
  obtain ⟨s₁, s₂, rfl, hs₁⟩ := h
  exact ⟨s ++ s₁, s₂, (List.append_assoc ..).symm, List.forall_mem_append.2 ⟨hs, hs₁⟩⟩

theorem opens_append (h : Opens g (s ++ s') b) :
    Opens g s b ∨ (∀ x ∈ s, ∃ n, Vanishes g n x) ∧ Opens g s' b := by
  obtain ⟨s₁, s₂, heq, hs₁⟩ := h
  rcases split_of_append_eq heq with ⟨r, rfl, -⟩ | ⟨r, rfl, rfl⟩
  · exact .inl ⟨s₁, r, rfl, hs₁⟩
  · obtain ⟨hs, hr⟩ := List.forall_mem_append.1 hs₁
    exact .inr ⟨hs, r, s₂, rfl, hr⟩

/-- A nonterminal that comes first in a derived form is reached from one that comes first. -/
theorem opens_of_derives {φ : SententialForm}
    (h : g.contextFree.Derives (form s) (.nonterminal b :: φ)) :
    ∃ c, Opens g s c ∧ Relation.ReflTransGen (Leads g) c b := by
  obtain ⟨s', hrewrites, hform⟩ := derives_form_iff.1 h
  clear h
  induction hrewrites using Relation.ReflTransGen.head_induction_on with
  | refl =>
    obtain ⟨s₁, s₂, rfl, hs₁, -⟩ := form_eq_split (u := []) hform
    have hnil : Yields g s₁ [] := yields_of_form_eq hs₁
    exact ⟨b, ⟨s₁, s₂, rfl, hnil.vanishes⟩, .refl⟩
  | head hstep _ ih =>
    obtain ⟨hp, s₁, s₂⟩ := hstep
    obtain ⟨c, hopens, hreaches⟩ := ih
    -- what comes first stands before the body, in it or behind it
    rcases opens_append hopens with hfront | ⟨hfront, hopens⟩
    · rcases opens_append hfront with hopens | ⟨hs₁, hopens⟩
      · exact ⟨c, hopens.append_right _, hreaches⟩
      · exact ⟨_, ⟨s₁, s₂, rfl, hs₁⟩, .head ⟨_, hp, rfl, hopens⟩ hreaches⟩
    · obtain ⟨hs₁, hbody⟩ := List.forall_mem_append.1 hfront
      obtain ⟨n, hn⟩ := exists_vanishes hbody
      have hlhs : ∀ x ∈ [Symbol.nonterminal _], ∃ n, Vanishes g n x :=
        List.forall_mem_singleton.2 ⟨n + 1, .nonterminal hp hn⟩
      exact ⟨c, (hopens.append_left hlhs).append_left hs₁, hreaches⟩

/-- A left-recursive nonterminal leads to itself. -/
theorem LeftRecursive.cycle (h : g.LeftRecursive a) : Relation.TransGen (Leads g) a a := by
  obtain ⟨φ, h⟩ := h
  obtain ⟨ψ, hstep, hderives⟩ := Relation.TransGen.head'_iff.1 h
  obtain ⟨s, hrewrites, rfl⟩ := exists_rewrites (s := [.nonterminal a]) hstep
  obtain ⟨p, hp, rfl, rfl⟩ := rewrites_nonterminal_iff.1 hrewrites
  obtain ⟨c, hopens, hreaches⟩ := opens_of_derives hderives
  exact .head' ⟨p, hp, rfl, hopens⟩ hreaches

/-! ## First terminals -/

/-- Some symbol starts with the terminal, and all before it vanish. -/
theorem Starts.exists_symbol (h : Starts g t n s) :
    ∃ s₁ y s₂, s = s₁ ++ y :: s₂ ∧ (∀ x ∈ s₁, ∃ n, Vanishes g n x) ∧ Starts g t n [y] := by
  induction h with
  | terminal => exact ⟨[], _, _, rfl, by simp, .terminal⟩
  | enter hp hbody _ => exact ⟨[], _, _, rfl, by simp, .enter hp hbody⟩
  | @pass n m x s hx _ ih =>
    obtain ⟨s₁, y, s₂, rfl, hs₁, hy⟩ := ih
    exact ⟨x :: s₁, y, s₂, rfl, List.forall_mem_cons.2 ⟨⟨m, hx⟩, hs₁⟩, hy⟩

theorem Opens.starts (h : Opens g s b) (hb : Starts g t n [.nonterminal b]) : Starts g t n s := by
  obtain ⟨s₁, s₂, rfl, hs₁⟩ := h
  exact (hb.append s₂).append_left hs₁

/-- A nonterminal can start with all that those it leads to can start with. -/
theorem starts_of_reaches (h : Relation.ReflTransGen (Leads g) a b)
    (hb : ∃ n, Starts g t n [.nonterminal b]) : ∃ n, Starts g t n [.nonterminal a] := by
  induction h using Relation.ReflTransGen.head_induction_on with
  | refl => exact hb
  | head hleads _ ih =>
    obtain ⟨p, hp, rfl, hopens⟩ := hleads
    obtain ⟨n, hn⟩ := ih
    exact ⟨n + 1, .enter hp (hopens.starts hn)⟩

/-! ## Reduced grammars -/

theorem exists_yields_of_productive
    (hproductive : ∀ a < g.nonterminals.length, ∃ w, Yields g [.nonterminal a] w)
    (hs : ∀ x ∈ s, g.Knows x) : ∃ w, Yields g s w := by
  induction s with
  | nil => exact ⟨[], .nil⟩
  | cons x s ih =>
    obtain ⟨hx, hs⟩ := List.forall_mem_cons.1 hs
    obtain ⟨w, hw⟩ := ih hs
    cases x with
    | terminal t => exact ⟨t :: w, .terminal hw⟩
    | empty => exact ⟨w, .empty hw⟩
    | nonterminal a =>
      obtain ⟨u, hu⟩ := hproductive a hx
      exact ⟨u ++ w, hu.append hw⟩

theorem nonterminal_mem_form (h : .nonterminal a ∈ form s) : .nonterminal a ∈ s := by
  obtain ⟨y, hy, ha⟩ := List.mem_filterMap.1 h
  cases y <;> cases ha
  exact hy

/-- What follows the left-hand side, or starts behind it, follows a nonterminal of a body. -/
theorem exists_follows_of_mem_body (hg : g.WellFormed)
    (hproductive : ∀ a < g.nonterminals.length, ∃ w, Yields g [.nonterminal a] w) {p : Production}
    (hp : p ∈ g.productions) (hx : g.Follows p.lhs x) (ha : .nonterminal a ∈ p.body) :
    ∃ x, g.Follows a x := by
  obtain ⟨s₁, s₂, hsplit⟩ := List.append_of_mem ha
  obtain ⟨w, hw⟩ := exists_yields_of_productive hproductive (s := s₂) fun y hy => by
    refine hg.knows_body p hp y ?_
    rw [hsplit]
    exact List.mem_append_right _ (List.mem_cons_of_mem _ hy)
  obtain ⟨hstarts, hvanishes⟩ := Machine.inContext_body hg hp hx s₁ a s₂ hsplit
  cases w with
  | nil => exact ⟨x, hvanishes hw.vanishes⟩
  | cons t w => exact ⟨.terminal t, hstarts t hw.starts⟩

/-- Something follows every nonterminal of a form that the start symbol derives. -/
theorem exists_follows_of_derives (hg : g.WellFormed)
    (hproductive : ∀ a < g.nonterminals.length, ∃ w, Yields g [.nonterminal a] w)
    {φ : SententialForm} (h : g.contextFree.Derives [.nonterminal g.start] φ)
    (ha : .nonterminal a ∈ φ) : ∃ x, g.Follows a x := by
  obtain ⟨s, hrewrites, rfl⟩ := derives_form_iff (s := [.nonterminal g.start]).1 h
  replace ha := nonterminal_mem_form ha
  clear h
  induction hrewrites generalizing a with
  | refl =>
    cases List.mem_singleton.1 ha
    exact ⟨.finish, holds_start hg⟩
  | tail _ hstep ih =>
    obtain ⟨hp, s₁, s₂⟩ := hstep
    rcases List.mem_append.1 ha with ha | ha
    · rcases List.mem_append.1 ha with ha | ha
      · exact ih (List.mem_append_left _ ha)
      · obtain ⟨x, hx⟩ := ih (List.mem_append_right _ List.mem_cons_self)
        exact exists_follows_of_mem_body hg hproductive hp hx ha
    · exact ih (List.mem_append_right _ (List.mem_cons_of_mem _ ha))

/-! ## Without conflicts -/

section Deterministic

variable (hg : g.WellFormed) (hdeterministic : g.table.isDeterministic = true)

include hg hdeterministic

/-- What vanishes cannot start with a terminal that follows it: the production that vanishes would
be the one that starts with it, down to the terminal. -/
theorem not_starts_of_vanishes (hvanishes : ∃ m, Vanishes g m (.nonterminal a))
    (hfollows : g.Follows a (.terminal t)) : ¬ Starts g t n [.nonterminal a] := by
  induction n generalizing a with
  | zero => exact not_starts_zero
  | succ n ih =>
    intro hstarts
    obtain ⟨p, hp, rfl, hbody⟩ := starts_nonterminal_iff.1 hstarts
    obtain ⟨_ | m, hvanishes⟩ := hvanishes
    · cases hvanishes
    obtain ⟨q, hq, hlhs, hbody'⟩ := vanishes_nonterminal_iff.1 hvanishes
    cases Selects.unique hdeterministic hq hp hlhs
      (Machine.selects_of_vanishes hg hbody' (hlhs ▸ hfollows))
      (Machine.selects_of_starts hg hbody)
    obtain ⟨s₁, y, s₂, hsplit, -, hy⟩ := hbody.exists_symbol
    have hmem : y ∈ p.body := by
      rw [hsplit]
      exact List.mem_append_right _ List.mem_cons_self
    have hvanishes := hbody' y hmem
    cases y with
    | terminal t' => cases hvanishes
    | empty =>
      rcases hy with _ | _ | ⟨-, hy⟩
      cases hy
    | nonterminal d =>
      exact ih ⟨m, hvanishes⟩ (Machine.follows_of_vanishes hg hp hbody' hfollows hmem) hy

/-- What vanishes in a body and can start with a terminal does not stand before what can start with
the same terminal. -/
theorem not_starts_before {p : Production} (hp : p ∈ g.productions) {s₁ r s₂ : List Symbol}
    {y z : Symbol} (hsplit : p.body = s₁ ++ y :: (r ++ z :: s₂))
    (hvanish : ∀ x ∈ y :: r, ∃ n, Vanishes g n x) (hy : Starts g t n [y]) {k : Nat} :
    ¬ Starts g t k [z] := by
  intro hz
  obtain ⟨hvanishes, hr⟩ := List.forall_mem_cons.1 hvanish
  cases y with
  | terminal t' =>
    obtain ⟨m, hm⟩ := hvanishes
    cases hm
  | empty =>
    rcases hy with _ | _ | ⟨-, hy⟩
    cases hy
  | nonterminal d =>
    have hbehind : ∃ n, Starts g t n (r ++ z :: s₂) := ⟨k, (hz.append s₂).append_left hr⟩
    exact not_starts_of_vanishes hg hdeterministic hvanishes
      (Machine.follows_of_starts hg hp hsplit hbehind) hy

/-- A nonterminal that leads to itself starts with no terminal: the production that leads on is the
one that starts with it in the fewest levels, and the terminal is below what it leads to. -/
theorem not_starts_of_cycle (hcycle : Relation.TransGen (Leads g) a a) :
    ¬ Starts g t n [.nonterminal a] := by
  induction n generalizing a with
  | zero => exact not_starts_zero
  | succ n ih =>
    intro hstarts
    obtain ⟨c, ⟨p, hp, rfl, hopens⟩, hreaches⟩ := Relation.TransGen.head'_iff.1 hcycle
    obtain ⟨k, hc⟩ := starts_of_reaches hreaches ⟨n + 1, hstarts⟩
    obtain ⟨q, hq, hlhs, hbody⟩ := starts_nonterminal_iff.1 hstarts
    cases Selects.unique hdeterministic hq hp hlhs (Machine.selects_of_starts hg hbody)
      (Machine.selects_of_starts hg (hopens.starts hc))
    have hcycle' : Relation.TransGen (Leads g) c c := .tail' hreaches ⟨p, hp, rfl, hopens⟩
    obtain ⟨s₁, s₂, hsplit, hs₁⟩ := hopens
    obtain ⟨r₁, y, r₂, hsplit', hr₁, hy⟩ := hbody.exists_symbol
    -- the symbol that starts with the terminal stands behind `c`, at it or before it
    rcases List.append_eq_append_iff.1 (hsplit.symm.trans hsplit') with
      ⟨r, rfl, hr⟩ | ⟨r, rfl, hr⟩
    · cases r with
      | nil =>
        cases hr
        exact ih hcycle' hy
      | cons z r =>
        cases hr
        exact not_starts_before hg hdeterministic hp hsplit (List.forall_mem_append.1 hr₁).2 hc hy
    · cases r with
      | nil =>
        cases hr
        exact ih hcycle' hy
      | cons z r =>
        cases hr
        rw [List.append_assoc] at hsplit
        exact not_starts_before hg hdeterministic hp hsplit (List.forall_mem_append.1 hs₁).2 hy hc

/-- A nonterminal that leads to itself does not vanish either, if anything follows it: the
production that leads on is the one that vanishes in the fewest levels. -/
theorem not_vanishes_of_cycle
    (hproductive : ∀ a < g.nonterminals.length, ∃ w, Yields g [.nonterminal a] w)
    (hcycle : Relation.TransGen (Leads g) a a) (hfollows : g.Follows a x) :
    ¬ Vanishes g n (.nonterminal a) := by
  induction n generalizing a with
  | zero =>
    intro hvanishes
    cases hvanishes
  | succ n ih =>
    intro hvanishes
    obtain ⟨c, ⟨p, hp, rfl, hopens⟩, hreaches⟩ := Relation.TransGen.head'_iff.1 hcycle
    -- no terminal can come first, so what the body derives is the empty text
    obtain ⟨w, hw⟩ := exists_yields_of_productive hproductive (hg.knows_body p hp)
    have hbody : ∀ y ∈ p.body, ∃ m, Vanishes g m y := by
      cases w with
      | nil => exact hw.vanishes
      | cons t w =>
        obtain ⟨m, hm⟩ := hw.starts
        exact absurd (.enter hp hm) (not_starts_of_cycle hg hdeterministic hcycle)
    obtain ⟨m, hbody⟩ := exists_vanishes hbody
    obtain ⟨q, hq, hlhs, hbody'⟩ := vanishes_nonterminal_iff.1 hvanishes
    cases Selects.unique hdeterministic hq hp hlhs
      (Machine.selects_of_vanishes hg hbody' (hlhs ▸ hfollows))
      (Machine.selects_of_vanishes hg hbody hfollows)
    have hcycle' : Relation.TransGen (Leads g) c c := .tail' hreaches ⟨p, hp, rfl, hopens⟩
    obtain ⟨s₁, s₂, hsplit, -⟩ := hopens
    have hmem : .nonterminal c ∈ p.body := by
      rw [hsplit]
      exact List.mem_append_right _ List.mem_cons_self
    exact ih hcycle' (Machine.follows_of_vanishes hg hp hbody hfollows hmem) (hbody' _ hmem)

end Deterministic

/-- In a reduced grammar left recursion is a conflict. -/
theorem not_isDeterministic_of_leftRecursive (hg : g.WellFormed) (hreduced : g.Reduced)
    (hleft : g.LeftRecursive a) : g.table.isDeterministic = false := by
  rw [← Bool.not_eq_true]
  intro hdeterministic
  have hproductive : ∀ a < g.nonterminals.length, ∃ w, Yields g [.nonterminal a] w := by
    intro a ha
    obtain ⟨w, hw⟩ := (hreduced a ha).2
    exact ⟨w, yields_of_derives hw⟩
  have hcycle := hleft.cycle
  obtain ⟨c, ⟨p, hp, rfl, -⟩, -⟩ := Relation.TransGen.head'_iff.1 hcycle
  have hlhs := hg.lhs_lt p hp
  obtain ⟨u, v, hreachable⟩ := (hreduced p.lhs hlhs).1
  obtain ⟨x, hfollows⟩ := exists_follows_of_derives hg hproductive hreachable
    (List.mem_append_left _ (List.mem_append_right _ List.mem_cons_self))
  obtain ⟨w, hw⟩ := hproductive p.lhs hlhs
  cases w with
  | nil =>
    obtain ⟨n, hn⟩ := hw.vanishes _ List.mem_cons_self
    exact not_vanishes_of_cycle hg hdeterministic hproductive hcycle hfollows hn
  | cons t w =>
    obtain ⟨n, hn⟩ := hw.starts
    exact not_starts_of_cycle hg hdeterministic hcycle hn

end Grammar

/-- Under both strategies the table of a reduced grammar with a left-recursive nonterminal is
refused, and the cells in conflict are reported. -/
theorem select_leftRecursive {ds : Grammar.Declarations} {x : Lexicon} {options : Grammar.Options}
    {g : Grammar} (hds : ds.names.Nodup) (hg : Grammar.resolve ds x options = .ok g)
    (hreduced : g.Reduced) {a : Nat} (hleft : g.LeftRecursive a) (strategy : Strategy) :
    ∃ e, select strategy g = .error e ∧ e.strategy = strategy ∧ e.conflicts ≠ [] := by
  have hg := Grammar.WellFormed.of_resolve hds hg
  have hconflict := Grammar.not_isDeterministic_of_leftRecursive hg hreduced hleft
  have hselect : select strategy g =
      .error ⟨strategy, g.table.conflicts.map (Conflict.ofCell g)⟩ := by
    unfold Grammar.table at hconflict ⊢
    simp only [select, hconflict, Bool.false_eq_true, if_false]
  refine ⟨_, hselect, rfl, ?_⟩
  simpa [Table.isDeterministic] using hconflict

/-- Left recursion behind a nonterminal that vanishes: `S -> B S`, or nothing, and `B` is
nothing. -/
def hiddenRecursive : Grammar where
  terminals := []
  nonterminals := ["S", "B"]
  productions := [⟨0, [.nonterminal 1, .nonterminal 0]⟩, ⟨0, [.empty]⟩, ⟨1, [.empty]⟩]
  emptyName := "$"

theorem hiddenRecursive_expands : hiddenRecursive.contextFree.Produces
    (Grammar.form [.nonterminal 0]) (Grammar.form [.nonterminal 1, .nonterminal 0]) :=
  (Grammar.Rewrites.intro (g := hiddenRecursive) (p := ⟨0, [.nonterminal 1, .nonterminal 0]⟩)
    (by decide) [] []).produces

theorem hiddenRecursive_erases : hiddenRecursive.contextFree.Produces
    (Grammar.form [.nonterminal 1, .nonterminal 0]) (Grammar.form [.nonterminal 0]) :=
  (Grammar.Rewrites.intro (g := hiddenRecursive) (p := ⟨1, [.empty]⟩) (by decide) []
    [.nonterminal 0]).produces

theorem hiddenRecursive_reduced : hiddenRecursive.Reduced := by
  intro a ha
  have hempty : ∀ a, (⟨a, [.empty]⟩ : Production) ∈ hiddenRecursive.productions →
      Grammar.Yields hiddenRecursive [.nonterminal a] [] :=
    fun _ h => .nonterminal h (.empty .nil) .nil
  have ha : a = 0 ∨ a = 1 := by
    have ha : a < 2 := ha
    omega
  rcases ha with rfl | rfl
  · exact ⟨⟨[], [], .refl _⟩, [], (hempty 0 (by decide)).derives⟩
  · exact ⟨⟨[], Grammar.form [.nonterminal 0], .single hiddenRecursive_expands⟩, [],
      (hempty 1 (by decide)).derives⟩

theorem select_leftRecursive_hidden :
    Grammar.resolve [⟨"S", 1, [⟨1, "BS"⟩, ⟨1, "$"⟩]⟩, ⟨"B", 2, [⟨2, "$"⟩]⟩] ⟨[]⟩ {} =
        .ok hiddenRecursive ∧
      hiddenRecursive.Reduced ∧ hiddenRecursive.LeftRecursive 0 ∧
      ∀ strategy, ∃ e, select strategy hiddenRecursive = .error e ∧ e.strategy = strategy ∧
        e.conflicts ≠ [] := by
  have hresolve : Grammar.resolve [⟨"S", 1, [⟨1, "BS"⟩, ⟨1, "$"⟩]⟩, ⟨"B", 2, [⟨2, "$"⟩]⟩] ⟨[]⟩
    {} = .ok hiddenRecursive := by decide +kernel
  have hleft : hiddenRecursive.LeftRecursive 0 :=
    ⟨[], .tail (.single hiddenRecursive_expands) hiddenRecursive_erases⟩
  exact ⟨hresolve, hiddenRecursive_reduced, hleft,
    select_leftRecursive (by decide) hresolve hiddenRecursive_reduced hleft⟩

end TopDown
