import TopDown.Analysis.Basic
import TopDown.Proofs.Analysis.Follow
import TopDown.Proofs.Traversal

/-!
# FIRST and FOLLOW sets by checked numbers

The sets are kept in lists, one for each nonterminal. Here every access to such a list is checked,
and a number outside the list makes the whole computation fail. In a well-formed grammar no check
fails, so nothing is ever read or written outside the lists.

* `modifyAt?` : changes an entry that is there;
* `firstOf?`, `Grammar.firstSets?`, `Grammar.followSets?`, `Analysis.of?` : the sets, checked;
* `Analysis.of?_eq` : in a well-formed grammar no check fails.
-/

namespace TopDown

/-- Changes the entry of this number, which must be there. -/
def modifyAt? {α : Type} (xs : List α) (i : Nat) (f : α → α) : Option (List α) :=
  if i < xs.length then some (xs.modify i f) else none

/-- FIRST of a sequence of symbols, every nonterminal checked. -/
def firstOf? (first : List FirstSet) : List Symbol → Option FirstSet
  | [] => some ⟨[], true⟩
  | .terminal t :: _ => some ⟨[t], false⟩
  | .nonterminal a :: rest =>
    first[a]?.bind fun s =>
      if s.nullable then
        (firstOf? first rest).map fun r => ⟨Ascending.union s.terms r.terms, r.nullable⟩
      else some ⟨s.terms, false⟩
  | .empty :: rest => firstOf? first rest

/-- Repeats `f` until it changes nothing or fails, at most `n` times. -/
def settle? {α : Type} [DecidableEq α] (f : α → Option α) : Nat → α → Option α
  | 0, a => some a
  | n + 1, a => (f a).bind fun b => if b = a then some a else settle? f n b

namespace Grammar

def addFirst? (first : List FirstSet) (p : Production) : Option (List FirstSet) :=
  (firstOf? first p.body).bind fun body => modifyAt? first p.lhs (·.union body)

/-- The FIRST sets, checked. -/
def firstSets? (g : Grammar) : Option (List FirstSet) :=
  settle? (g.productions.foldlM addFirst?) g.rounds
    (List.replicate g.nonterminals.length .empty)

def addFollow? (first : List FirstSet) (lhs : Nat) (follow : List FollowSet)
    (occurrence : Nat × List Symbol) : Option (List FollowSet) :=
  (firstOf? first occurrence.2).bind fun behind =>
    (if behind.nullable ∧ occurrence.1 ≠ lhs then follow[lhs]? else some .empty).bind
      fun inherited => modifyAt? follow occurrence.1 fun s =>
        (s.union ⟨behind.terms, false⟩).union inherited

def followRound? (g : Grammar) (first : List FirstSet) (follow : List FollowSet) :
    Option (List FollowSet) :=
  g.productions.foldlM
    (fun follow p => (occurrences p.body).foldlM (addFollow? first p.lhs) follow) follow

/-- The FOLLOW sets, checked. -/
def followSets? (g : Grammar) (first : List FirstSet) : Option (List FollowSet) :=
  (modifyAt? (List.replicate g.nonterminals.length FollowSet.empty) g.start
    fun _ => ⟨[], true⟩).bind (settle? (g.followRound? first) g.rounds)

end Grammar

/-- The analysis of a grammar, checked. -/
def Analysis.of? (g : Grammar) : Option Analysis :=
  g.firstSets?.bind fun first => (g.followSets? first).map fun follow => ⟨first, follow⟩

/-! ## No check fails -/

theorem modifyAt?_eq {α : Type} {xs : List α} {i : Nat} (h : i < xs.length) (f : α → α) :
    modifyAt? xs i f = some (xs.modify i f) := if_pos h

theorem settle?_eq {α : Type} [DecidableEq α] (Inv : α → Prop) {f : α → Option α} {f' : α → α}
    (hf : ∀ a, Inv a → f a = some (f' a) ∧ Inv (f' a)) (n : Nat) {a : α} (ha : Inv a) :
    settle? f n a = some (settle f' n a) := by
  induction n generalizing a with
  | zero => rfl
  | succ n ih =>
    obtain ⟨hfa, hinv⟩ := hf a ha
    rw [settle?, settle, hfa, Option.bind_some]
    split
    · rfl
    · exact ih hinv

namespace Grammar

variable {g : Grammar} {first : List FirstSet} {follow : List FollowSet} {s : List Symbol}

theorem firstOf?_eq (hfirst : first.length = g.nonterminals.length) (hs : ∀ x ∈ s, g.Knows x) :
    firstOf? first s = some (firstOf first s) := by
  induction s with
  | nil => rfl
  | cons x s ih =>
    have ih := ih fun x hx => hs x (List.mem_cons_of_mem _ hx)
    cases x with
    | terminal t => rfl
    | empty => exact ih
    | nonterminal a =>
      have ha : a < first.length := hfirst ▸ hs _ List.mem_cons_self
      rw [firstOf?, firstOf, List.getElem?_eq_getElem ha, List.getD_eq_getElem _ _ ha, ih,
        Option.bind_some]
      split <;> rfl

theorem addFirst?_eq (hg : g.WellFormed) (hfirst : first.length = g.nonterminals.length)
    {p : Production} (hp : p ∈ g.productions) : addFirst? first p = some (addFirst first p) := by
  rw [addFirst?, firstOf?_eq hfirst (hg.knows_body p hp), Option.bind_some,
    modifyAt?_eq (hfirst ▸ hg.lhs_lt p hp)]
  rfl

theorem firstRound?_eq (hg : g.WellFormed) (hfirst : first.length = g.nonterminals.length) :
    g.productions.foldlM addFirst? first = some (g.firstRound first) ∧
      (g.firstRound first).length = g.nonterminals.length := by
  refine foldlM_eq_some (fun first : List FirstSet => first.length = g.nonterminals.length)
    (fun first hfirst p hp => ?_) hfirst
  exact ⟨addFirst?_eq hg hfirst hp, (List.length_modify ..).trans hfirst⟩

theorem firstSets?_eq (hg : g.WellFormed) : g.firstSets? = some g.firstSets :=
  settle?_eq (fun first : List FirstSet => first.length = g.nonterminals.length)
    (fun _ => firstRound?_eq hg) _ List.length_replicate

theorem addFollow?_eq (hfirst : first.length = g.nonterminals.length)
    (hfollow : follow.length = g.nonterminals.length) {lhs : Nat}
    (hlhs : lhs < g.nonterminals.length) {occurrence : Nat × List Symbol}
    (hknows : ∀ x ∈ .nonterminal occurrence.1 :: occurrence.2, g.Knows x) :
    addFollow? first lhs follow occurrence = some (addFollow first lhs follow occurrence) := by
  obtain ⟨hoccurrence, hbehind⟩ := List.forall_mem_cons.1 hknows
  have hinherited : ∀ c : Prop, [Decidable c] →
      (if c then follow[lhs]? else some .empty) =
        some (if c then follow.getD lhs .empty else .empty) := by
    intro c _
    have hlt : lhs < follow.length := hfollow ▸ hlhs
    rw [List.getElem?_eq_getElem hlt, List.getD_eq_getElem _ _ hlt]
    split <;> rfl
  rw [addFollow?, firstOf?_eq hfirst hbehind, Option.bind_some, hinherited, Option.bind_some,
    modifyAt?_eq (hfollow ▸ hoccurrence)]
  rfl

theorem followRound?_eq (hg : g.WellFormed) (hfirst : first.length = g.nonterminals.length)
    (hfollow : follow.length = g.nonterminals.length) :
    g.followRound? first follow = some (g.followRound first follow) ∧
      (g.followRound first follow).length = g.nonterminals.length := by
  refine foldlM_eq_some (fun follow : List FollowSet => follow.length = g.nonterminals.length)
    (fun follow hfollow p hp => ?_) hfollow
  refine foldlM_eq_some (fun follow : List FollowSet => follow.length = g.nonterminals.length)
    (fun follow hfollow occurrence hoccurrence => ?_) hfollow
  obtain ⟨s, hbody⟩ := mem_occurrences.1 hoccurrence
  have hknows : ∀ x ∈ .nonterminal occurrence.1 :: occurrence.2, g.Knows x := fun x hx =>
    hg.knows_body p hp x (hbody ▸ List.mem_append_right s hx)
  exact ⟨addFollow?_eq hfirst hfollow (hg.lhs_lt p hp) hknows,
    (List.length_modify ..).trans hfollow⟩

theorem followSets?_eq (hg : g.WellFormed) :
    g.followSets? g.firstSets = some (g.followSets g.firstSets) := by
  rw [followSets?, modifyAt?_eq (by rw [List.length_replicate]; exact hg.start_lt),
    Option.bind_some]
  exact settle?_eq (fun follow : List FollowSet => follow.length = g.nonterminals.length)
    (fun _ => followRound?_eq hg (fitting_firstSets hg).1) _ (fitting_initialFollow g).1

end Grammar

/-- In a well-formed grammar all sets are computed without a number out of range. -/
theorem Analysis.of?_eq {g : Grammar} (hg : g.WellFormed) :
    Analysis.of? g = some (Analysis.of g) := by
  rw [Analysis.of?, Grammar.firstSets?_eq hg, Option.bind_some, Grammar.followSets?_eq hg]
  rfl

end TopDown
