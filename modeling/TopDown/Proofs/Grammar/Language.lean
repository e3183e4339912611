import Mathlib.Computability.ContextFreeGrammar
import TopDown.Grammar.Basic

/-!
# The language of a grammar

A grammar is read as a context-free grammar over the numbers of its symbols, in which the empty
symbol stands for nothing.

* `Grammar.form`, `Grammar.contextFree`, `Grammar.language` : sequences of symbols as sentential
  forms, the context-free grammar and its language;
* `Rewrites` : a production applied in a sequence of symbols; `derives_form_iff` : derivation from
  the form of a sequence is told by the sequences;
* `Yields` : a sequence of symbols derives a sequence of terminals, told along the sequence;
  `yields_iff_derives`, `mem_language_iff_yields` : this is derivation in the context-free grammar;
* `rewriteLeftmost`, `deriveLeftmost` : productions applied in order, each at the leftmost
  nonterminal; `derives_of_deriveLeftmost` : they derive.
-/

/-- A sentential form over numbered terminals and nonterminals. -/
abbrev SententialForm := List (Symbol Nat Nat)

namespace TopDown.Grammar

/-- A sequence of symbols as a sentential form. The empty symbol stands for nothing. -/
def form (symbols : List Symbol) : SententialForm :=
  symbols.filterMap fun
    | .terminal t => some (.terminal t)
    | .nonterminal a => some (.nonterminal a)
    | .empty => none

def ruleOf (p : Production) : ContextFreeRule Nat Nat := ⟨p.lhs, form p.body⟩

/-- The grammar as a context-free grammar over the numbers of its symbols. -/
def contextFree (g : Grammar) : ContextFreeGrammar Nat where
  NT := Nat
  initial := g.start
  rules := (g.productions.map ruleOf).toFinset

/-- The sequences of terminals that the start symbol derives. -/
def language (g : Grammar) : Language Nat := g.contextFree.language

@[simp] theorem form_nil : form [] = [] := rfl

@[simp] theorem form_terminal (t : Nat) (s : List Symbol) :
    form (.terminal t :: s) = .terminal t :: form s := rfl

@[simp] theorem form_nonterminal (a : Nat) (s : List Symbol) :
    form (.nonterminal a :: s) = .nonterminal a :: form s := rfl

@[simp] theorem form_empty (s : List Symbol) : form (.empty :: s) = form s := rfl

@[simp] theorem form_append (s s' : List Symbol) : form (s ++ s') = form s ++ form s' :=
  List.filterMap_append

@[simp] theorem form_map_terminal (w : List Nat) :
    form (w.map .terminal) = w.map .terminal := by
  induction w with
  | nil => rfl
  | cons t w ih => rw [List.map_cons, form_terminal, ih, List.map_cons]

variable {g : Grammar}

theorem mem_rules {rule : ContextFreeRule Nat Nat} :
    rule ∈ g.contextFree.rules ↔ ∃ p ∈ g.productions, ruleOf p = rule := by
  change rule ∈ (g.productions.map ruleOf).toFinset ↔ _
  rw [List.mem_toFinset, List.mem_map]

/-! ## Rewriting sequences of symbols -/

/-- What stands somewhere in two sequences stands in one of them. -/
theorem split_of_append_eq {α : Type} {s s' s₁ s₂ : List α} {x : α}
    (h : s ++ s' = s₁ ++ x :: s₂) :
    (∃ r, s = s₁ ++ x :: r ∧ s₂ = r ++ s') ∨ ∃ r, s₁ = s ++ r ∧ s' = r ++ x :: s₂ := by
  rcases List.append_eq_append_iff.1 h with ⟨r, rfl, hs'⟩ | ⟨r, rfl, hr⟩
  · exact .inr ⟨r, rfl, hs'⟩
  · cases r with
    | nil => exact .inr ⟨[], by simp, hr.symm⟩
    | cons y r =>
      cases hr
      exact .inl ⟨r, rfl, rfl⟩

/-- A production is applied somewhere in the sequence. -/
inductive Rewrites (g : Grammar) : List Symbol → List Symbol → Prop
  | intro {p} (hp : p ∈ g.productions) (s₁ s₂ : List Symbol) :
      Rewrites g (s₁ ++ .nonterminal p.lhs :: s₂) (s₁ ++ p.body ++ s₂)

/-- Applying a production anywhere in a sequence is a step of the context-free grammar. -/
theorem Rewrites.produces {s s' : List Symbol} (h : Rewrites g s s') :
    g.contextFree.Produces (form s) (form s') := by
  obtain @⟨p, hp, s₁, s₂⟩ := h
  have h := ContextFreeRule.rewrites_of_exists_parts (ruleOf p) (form s₁) (form s₂)
  rw [List.append_assoc (form s₁), List.singleton_append] at h
  rw [form_append, form_nonterminal, form_append, form_append]
  exact ⟨ruleOf p, mem_rules.2 ⟨p, hp, rfl⟩, h⟩

theorem rewrites_nonterminal_iff {a : Nat} {s : List Symbol} :
    Rewrites g [.nonterminal a] s ↔ ∃ p ∈ g.productions, p.lhs = a ∧ p.body = s := by
  constructor
  · intro h
    generalize hs : [Symbol.nonterminal a] = s' at h
    obtain ⟨hp, s₁, s₂⟩ := h
    rcases List.append_eq_singleton_iff.1 hs.symm with ⟨rfl, hlhs⟩ | ⟨-, hnil⟩
    · cases hlhs
      exact ⟨_, hp, rfl, (List.append_nil _).symm⟩
    · cases hnil
  · rintro ⟨p, hp, rfl, rfl⟩
    simpa using Rewrites.intro hp [] []

/-- A nonterminal of a form stands in the sequence. -/
theorem form_eq_split {s : List Symbol} {u v : SententialForm} {a : Nat}
    (h : form s = u ++ [.nonterminal a] ++ v) :
    ∃ s₁ s₂, s = s₁ ++ .nonterminal a :: s₂ ∧ form s₁ = u ∧ form s₂ = v := by
  rw [List.append_assoc, List.singleton_append] at h
  obtain ⟨s₁, s₂, rfl, h₁, h₂⟩ := List.filterMap_eq_append_iff.1 h
  obtain ⟨s₃, x, s₄, rfl, h₃, hx, h₄⟩ := List.filterMap_eq_cons_iff.1 h₂
  refine ⟨s₁ ++ s₃, s₄, ?_, ?_, h₄⟩
  · cases x <;> simp at hx
    subst hx
    simp
  · rw [form_append]
    have : form s₃ = [] := List.filterMap_eq_nil_iff.2 h₃
    rw [this, List.append_nil]
    exact h₁

/-- A step from the form of a sequence applies a production in the sequence. -/
theorem exists_rewrites {s : List Symbol} {φ : SententialForm}
    (h : g.contextFree.Produces (form s) φ) : ∃ s', Rewrites g s s' ∧ form s' = φ := by
  obtain ⟨rule, hrule, hrewrites⟩ := h
  obtain ⟨p, hp, rfl⟩ := mem_rules.1 hrule
  obtain ⟨u, v, hu, rfl⟩ := hrewrites.exists_parts
  obtain ⟨s₁, s₂, rfl, rfl, rfl⟩ := form_eq_split hu
  refine ⟨_, .intro hp s₁ s₂, ?_⟩
  rw [form_append, form_append]
  rfl

/-- A form is derived from that of a sequence if and only if the sequence can be rewritten to one
with this form. -/
theorem derives_form_iff {s : List Symbol} {φ : SententialForm} :
    g.contextFree.Derives (form s) φ ↔
      ∃ s', Relation.ReflTransGen (Rewrites g) s s' ∧ form s' = φ := by
  constructor
  · intro h
    induction h with
    | refl => exact ⟨s, .refl, rfl⟩
    | tail _ hstep ih =>
      obtain ⟨s₁, hs₁, rfl⟩ := ih
      obtain ⟨s₂, hs₂, rfl⟩ := exists_rewrites hstep
      exact ⟨s₂, hs₁.tail hs₂, rfl⟩
  · rintro ⟨s', h, rfl⟩
    exact h.lift form fun _ _ => Rewrites.produces

/-! ## Derivation along a sequence -/

/-- The sequence of symbols derives the sequence of terminals. -/
inductive Yields (g : Grammar) : List Symbol → List Nat → Prop
  | nil : Yields g [] []
  | empty {s w} : Yields g s w → Yields g (.empty :: s) w
  | terminal {t s w} : Yields g s w → Yields g (.terminal t :: s) (t :: w)
  | nonterminal {p s u v} : p ∈ g.productions → Yields g p.body u → Yields g s v →
      Yields g (.nonterminal p.lhs :: s) (u ++ v)

theorem Yields.append {s s' : List Symbol} {u v : List Nat} (h : Yields g s u)
    (h' : Yields g s' v) : Yields g (s ++ s') (u ++ v) := by
  induction h with
  | nil => exact h'
  | empty _ ih => exact .empty ih
  | terminal _ ih => exact .terminal ih
  | nonterminal hp hbody _ _ ih =>
    rw [List.append_assoc]
    exact .nonterminal hp hbody ih

theorem Yields.split {s s' : List Symbol} {w : List Nat} (h : Yields g (s ++ s') w) :
    ∃ u v, w = u ++ v ∧ Yields g s u ∧ Yields g s' v := by
  induction s generalizing w with
  | nil => exact ⟨[], w, rfl, .nil, h⟩
  | cons x s ih =>
    cases h with
    | empty h =>
      obtain ⟨u, v, rfl, hu, hv⟩ := ih h
      exact ⟨u, v, rfl, .empty hu, hv⟩
    | terminal h =>
      obtain ⟨u, v, rfl, hu, hv⟩ := ih h
      exact ⟨_ :: u, v, rfl, .terminal hu, hv⟩
    | nonterminal hp hbody h =>
      obtain ⟨u, v, rfl, hu, hv⟩ := ih h
      exact ⟨_ ++ u, v, (List.append_assoc _ _ _).symm, .nonterminal hp hbody hu, hv⟩

theorem Yields.derives {s : List Symbol} {w : List Nat} (h : Yields g s w) :
    g.contextFree.Derives (form s) (w.map .terminal) := by
  induction h with
  | nil => exact .refl _
  | empty _ ih => exact ih
  | terminal _ ih => exact ih.append_left [.terminal _]
  | @nonterminal p s u v hp _ _ ihu ihv =>
    have hstep : g.contextFree.Produces (form (.nonterminal p.lhs :: s)) (form (p.body ++ s)) :=
      (Rewrites.intro hp [] s).produces
    rw [form_append] at hstep
    rw [List.map_append]
    exact hstep.trans_derives ((ihu.append_right (form s)).trans (ihv.append_left _))

/-- A sequence whose form has no nonterminals yields its form. -/
theorem yields_of_form_eq {s : List Symbol} {w : List Nat} (h : form s = w.map .terminal) :
    Yields g s w := by
  induction s generalizing w with
  | nil =>
    rw [form_nil, eq_comm, List.map_eq_nil_iff] at h
    rw [h]
    exact .nil
  | cons x s ih =>
    cases x with
    | terminal t =>
      cases w with
      | nil => cases h
      | cons t' w =>
        simp only [form_terminal, List.map_cons, List.cons.injEq] at h
        cases h.1
        exact .terminal (ih h.2)
    | nonterminal a => cases w <;> simp at h
    | empty => exact .empty (ih h)

theorem yields_of_derives {s : List Symbol} {w : List Nat}
    (h : g.contextFree.Derives (form s) (w.map .terminal)) : Yields g s w := by
  obtain ⟨s', hrewrites, hform⟩ := derives_form_iff.1 h
  clear h
  induction hrewrites using Relation.ReflTransGen.head_induction_on with
  | refl => exact yields_of_form_eq hform
  | head hstep _ hw =>
    obtain ⟨hp, s₁, s₂⟩ := hstep
    obtain ⟨_, w₂, rfl, hw, h₂⟩ := hw.split
    obtain ⟨w₁, wb, rfl, h₁, hbody⟩ := hw.split
    rw [List.append_assoc]
    exact h₁.append (.nonterminal hp hbody h₂)

/-- Derivation along a sequence is derivation in the context-free grammar. -/
theorem yields_iff_derives {s : List Symbol} {w : List Nat} :
    Yields g s w ↔ g.contextFree.Derives (form s) (w.map .terminal) :=
  ⟨Yields.derives, yields_of_derives⟩

theorem mem_language_iff_yields {w : List Nat} :
    w ∈ g.language ↔ Yields g [.nonterminal g.start] w := by
  rw [yields_iff_derives]
  exact ContextFreeGrammar.mem_language_iff _ _

/-! ## Leftmost derivation -/

/-- A sequence without empty symbols. -/
def bare (symbols : List Symbol) : List Symbol := symbols.filter (· ≠ .empty)

/-- Applies production number `id` at the leftmost nonterminal, whose production it must be. -/
def rewriteLeftmost (g : Grammar) (id : Nat) : List Symbol → Option (List Symbol)
  | [] => none
  | .nonterminal a :: s =>
    match g.productions[id]? with
    | some p => if p.lhs = a then some (bare p.body ++ s) else none
    | none => none
  | x :: s => (g.rewriteLeftmost id s).map (x :: ·)

/-- Applies productions in order, each at the leftmost nonterminal. -/
def deriveLeftmost (g : Grammar) (ids : List Nat) (s : List Symbol) : Option (List Symbol) :=
  ids.foldlM (fun s id => g.rewriteLeftmost id s) s

@[simp] theorem bare_nil : bare [] = [] := rfl

@[simp] theorem bare_append (s s' : List Symbol) : bare (s ++ s') = bare s ++ bare s' :=
  List.filter_append _ _

theorem bare_of_not_mem {s : List Symbol} (h : .empty ∉ s) : bare s = s := by
  rw [bare, List.filter_eq_self]
  intro x hx
  exact decide_eq_true fun hempty => h (hempty ▸ hx)

@[simp] theorem bare_empty (s : List Symbol) : bare (.empty :: s) = bare s := rfl

@[simp] theorem bare_terminal (t : Nat) (s : List Symbol) :
    bare (.terminal t :: s) = .terminal t :: bare s := rfl

@[simp] theorem bare_nonterminal (a : Nat) (s : List Symbol) :
    bare (.nonterminal a :: s) = .nonterminal a :: bare s := rfl

@[simp] theorem form_bare (s : List Symbol) : form (bare s) = form s := by
  induction s with
  | nil => rfl
  | cons x s ih => cases x <;> simp [ih]

theorem rewriteLeftmost_eq_some {id : Nat} {s s' : List Symbol}
    (h : g.rewriteLeftmost id s = some s') :
    ∃ p s₁ s₂, g.productions[id]? = some p ∧ s = s₁ ++ .nonterminal p.lhs :: s₂ ∧
      s' = s₁ ++ bare p.body ++ s₂ := by
  induction s generalizing s' with
  | nil => cases h
  | cons x s ih =>
    cases x with
    | nonterminal a =>
      simp only [rewriteLeftmost] at h
      split at h
      · rename_i p hp
        split at h
        · rename_i ha
          cases h
          cases ha
          exact ⟨p, [], s, hp, rfl, rfl⟩
        · cases h
      · cases h
    | terminal t =>
      obtain ⟨r, hr, rfl⟩ := Option.map_eq_some_iff.1 h
      obtain ⟨p, s₁, s₂, hp, rfl, rfl⟩ := ih hr
      exact ⟨p, .terminal t :: s₁, s₂, hp, rfl, rfl⟩
    | empty =>
      obtain ⟨r, hr, rfl⟩ := Option.map_eq_some_iff.1 h
      obtain ⟨p, s₁, s₂, hp, rfl, rfl⟩ := ih hr
      exact ⟨p, .empty :: s₁, s₂, hp, rfl, rfl⟩

/-- Behind terminals a production applies to the next nonterminal. -/
theorem rewriteLeftmost_terminals {id : Nat} {p : Production} (hp : g.productions[id]? = some p)
    (w : List Nat) (s : List Symbol) :
    g.rewriteLeftmost id (w.map .terminal ++ .nonterminal p.lhs :: s) =
      some (w.map .terminal ++ (bare p.body ++ s)) := by
  induction w with
  | nil => simp [rewriteLeftmost, hp]
  | cons t w ih => simp [rewriteLeftmost, ih]

theorem deriveLeftmost_concat (ids : List Nat) (id : Nat) (s : List Symbol) :
    g.deriveLeftmost (ids ++ [id]) s = (g.deriveLeftmost ids s).bind (g.rewriteLeftmost id) := by
  simp [deriveLeftmost, List.foldlM_append]

theorem derives_of_deriveLeftmost {ids : List Nat} {s s' : List Symbol}
    (h : g.deriveLeftmost ids s = some s') : g.contextFree.Derives (form s) (form s') := by
  induction ids generalizing s with
  | nil =>
    cases h
    exact .refl _
  | cons id ids ih =>
    obtain ⟨r, hr, h⟩ := Option.bind_eq_some_iff.1 h
    obtain ⟨p, s₁, s₂, hp, rfl, rfl⟩ := rewriteLeftmost_eq_some hr
    have hstep := (Rewrites.intro (List.mem_of_getElem? hp) s₁ s₂).produces
    have hrest := ih h
    simp only [form_append, form_bare] at hstep hrest
    rw [form_append]
    exact hstep.trans_derives hrest

end TopDown.Grammar
