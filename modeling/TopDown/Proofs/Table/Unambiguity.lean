import TopDown.Proofs.Compilation
import TopDown.Proofs.Machine.Acceptance
import TopDown.Tree.Basic

/-!
# Grammars without conflicts are unambiguous

Two derivations of one text meet the same lookahead at every nonterminal, from left to right. Where
no cell is in conflict only one production can be predicted there, so both apply it.

* `DerivationNode`, `Grammar.Forest` : derivation trees side by side, one for every symbol of a
  sequence; a nonterminal's node bears the number of its production;
* `Grammar.IsDerivationTree`, `mem_language_iff_exists_tree` : the trees of whole texts, which are
  those of the language;
* `Grammar.Forest.unique` : two forests over one sequence, before texts that go on alike, are one;
* `select_unambiguous` : a grammar that is accepted gives every text one derivation tree at most.
-/

namespace TopDown

/-- What a node of a derivation tree bears: a terminal, or the number of the production applied. -/
inductive DerivationNode where
  | terminal (t : Nat)
  | production (id : Nat)
  deriving DecidableEq

namespace Grammar

open Machine

/-! ## Derivation trees -/

/-- The trees derive the terminals from the symbols, one tree for every symbol but the empty one. -/
inductive Forest (g : Grammar) : List Symbol → List (Tree DerivationNode) → List Nat → Prop
  | nil : Forest g [] [] []
  | empty {s f w} : Forest g s f w → Forest g (.empty :: s) f w
  | terminal {t s f w} : Forest g s f w →
      Forest g (.terminal t :: s) (.node (.terminal t) [] :: f) (t :: w)
  | nonterminal {id p s children f u v} : g.productions[id]? = some p →
      Forest g p.body children u → Forest g s f v →
      Forest g (.nonterminal p.lhs :: s) (.node (.production id) children :: f) (u ++ v)

/-- The tree derives the terminals from the start symbol. -/
def IsDerivationTree (g : Grammar) (t : Tree DerivationNode) (w : List Nat) : Prop :=
  Forest g [.nonterminal g.start] [t] w

variable {g : Grammar} {s : List Symbol} {f : List (Tree DerivationNode)} {w : List Nat}

theorem Forest.yields (h : Forest g s f w) : Yields g s w := by
  induction h with
  | nil => exact .nil
  | empty _ ih => exact .empty ih
  | terminal _ ih => exact .terminal ih
  | nonterminal hp _ _ ihbody ih => exact .nonterminal (List.mem_of_getElem? hp) ihbody ih

theorem Yields.exists_forest (h : Yields g s w) : ∃ f, Forest g s f w := by
  induction h with
  | nil => exact ⟨[], .nil⟩
  | empty _ ih =>
    obtain ⟨f, hf⟩ := ih
    exact ⟨f, .empty hf⟩
  | terminal _ ih =>
    obtain ⟨f, hf⟩ := ih
    exact ⟨_, .terminal hf⟩
  | nonterminal hp _ _ ihbody ih =>
    obtain ⟨id, hid⟩ := List.mem_iff_getElem?.1 hp
    obtain ⟨children, hchildren⟩ := ihbody
    obtain ⟨f, hf⟩ := ih
    exact ⟨_, .nonterminal hid hchildren hf⟩

/-- Below a nonterminal stands the forest of one of its productions. -/
theorem Forest.of_nonterminal {a : Nat} (h : Forest g (.nonterminal a :: s) f w) :
    ∃ id p children rest u v, g.productions[id]? = some p ∧ p.lhs = a ∧
      Forest g p.body children u ∧ Forest g s rest v ∧
      f = .node (.production id) children :: rest ∧ w = u ++ v := by
  cases h with
  | nonterminal hp hbody hrest => exact ⟨_, _, _, _, _, _, hp, rfl, hbody, hrest, rfl, rfl⟩

/-- A text is in the language if and only if it has a derivation tree. -/
theorem mem_language_iff_exists_tree : w ∈ g.language ↔ ∃ t, g.IsDerivationTree t w := by
  rw [mem_language_iff_yields]
  constructor
  · intro h
    obtain ⟨f, hf⟩ := h.exists_forest
    obtain ⟨id, p, children, rest, u, v, hp, hlhs, hbody, hrest, rfl, rfl⟩ := hf.of_nonterminal
    cases hrest
    exact ⟨_, hf⟩
  · rintro ⟨t, ht⟩
    exact ht.yields

/-! ## Uniqueness -/

theorem upcoming_append (u v : List Nat) (y : Lookahead) :
    upcoming (u ++ v) y = upcoming u (upcoming v y) := by
  cases u <;> rfl

/-- Two forests over one sequence are the same if the texts before and behind them make up the same
text. -/
theorem Forest.unique (hg : g.WellFormed) (hdeterministic : g.table.isDeterministic = true)
    (h : Forest g s f w) {f' : List (Tree DerivationNode)} {w' r r' : List Nat}
    (h' : Forest g s f' w') (hsame : w ++ r = w' ++ r')
    (hr : InContext g s (upcoming r .finish)) (hr' : InContext g s (upcoming r' .finish)) :
    f = f' ∧ w = w' := by
  induction h generalizing f' w' r r' with
  | nil =>
    cases h'
    exact ⟨rfl, rfl⟩
  | empty _ ih =>
    cases h' with
    | empty h' => exact ih h' hsame hr.tail hr'.tail
  | terminal _ ih =>
    cases h' with
    | terminal h' =>
      obtain ⟨rfl, rfl⟩ := ih h' (List.cons.inj hsame).2 hr.tail hr'.tail
      exact ⟨rfl, rfl⟩
  | @nonterminal id p s children f u v hp hbody hrest ihbody ih =>
    obtain ⟨id', q, children', f', u', v', hq, hlhs, hbody', hrest', rfl, rfl⟩ :=
      h'.of_nonterminal
    rw [List.append_assoc, List.append_assoc] at hsame
    have hfollows := hr.follows hrest.yields
    have hfollows' := hr'.follows hrest'.yields
    rw [← upcoming_append] at hfollows hfollows'
    -- both productions are selected by the first terminal of the common text, or by its end
    have hselects := selects_of_yields hg hbody.yields hfollows
    have hselects' := selects_of_yields hg hbody'.yields (hlhs ▸ hfollows')
    rw [← upcoming_append] at hselects hselects'
    rw [← hsame] at hselects'
    cases Selects.id_unique hdeterministic hp hq hlhs.symm hselects hselects'
    cases hp.symm.trans hq
    have hp := List.mem_of_getElem? hp
    obtain ⟨rfl, rfl⟩ := ihbody hbody' hsame (inContext_body hg hp hfollows)
      (inContext_body hg hp hfollows')
    obtain ⟨rfl, rfl⟩ := ih hrest' (List.append_cancel_left hsame) hr.tail hr'.tail
    exact ⟨rfl, rfl⟩

end Grammar

/-- A grammar whose table is accepted is unambiguous: a text is in the language if and only if it
has a derivation tree, and it has no two. -/
theorem select_unambiguous {ds : Grammar.Declarations} {x : Lexicon} {options : Grammar.Options}
    {g : Grammar} (hds : ds.names.Nodup) (hg : Grammar.resolve ds x options = .ok g)
    {strategy : Strategy} {chosen : Analysis × Table} (hselect : select strategy g = .ok chosen)
    (w : List Nat) :
    (w ∈ g.language ↔ ∃ t, g.IsDerivationTree t w) ∧
      ∀ t t', g.IsDerivationTree t w → g.IsDerivationTree t' w → t = t' := by
  refine ⟨Grammar.mem_language_iff_exists_tree, fun t t' ht ht' => ?_⟩
  have hg := Grammar.WellFormed.of_resolve hds hg
  obtain ⟨-, hdeterministic⟩ := Compilation.select_eq_ok hselect
  have hstart := Machine.inContext_start hg
  have hsame : w ++ [] = w ++ [] := rfl
  obtain ⟨heq, -⟩ := ht.unique hg hdeterministic ht' hsame hstart hstart
  exact (List.cons.inj heq).1

theorem select_unambiguous_parens :
    Grammar.resolve Machine.parensDeclarations Machine.parensLexicon ⟨["eps"]⟩ =
        .ok Machine.parens ∧
      (∃ chosen, select .ll1 Machine.parens = .ok chosen) ∧
      ∃ t, Machine.parens.IsDerivationTree t [0, 1] ∧
        ∀ t', Machine.parens.IsDerivationTree t' [0, 1] → t' = t := by
  have hselect : select .ll1 Machine.parens = .ok (Analysis.of Machine.parens,
    Machine.parens.table) := by decide +kernel
  obtain ⟨hlanguage, hunique⟩ :=
    select_unambiguous (by decide) Machine.resolve_parens hselect [0, 1]
  have hempty : Grammar.Yields Machine.parens [.nonterminal Machine.parens.start] [] :=
    .nonterminal (p := ⟨0, [.empty]⟩) (by decide) (.empty .nil) .nil
  have hpair : Grammar.Yields Machine.parens [.nonterminal Machine.parens.start] [0, 1] :=
    .nonterminal (p := ⟨0, [.terminal 0, .nonterminal 0, .terminal 1, .nonterminal 0]⟩)
      (by decide) (.terminal (hempty.append (.terminal hempty))) .nil
  obtain ⟨t, ht⟩ := hlanguage.1 (Grammar.mem_language_iff_yields.2 hpair)
  exact ⟨Machine.resolve_parens, ⟨_, hselect⟩, t, ht, fun t' ht' => hunique t' t ht' ht⟩

end TopDown
