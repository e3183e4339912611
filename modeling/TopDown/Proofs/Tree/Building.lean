import TopDown.Proofs.Machine.Run
import TopDown.Tree.Parse

/-!
# The depth of a tree under construction

* `TreeBuilder.Grows`, `grows_grow` : how a body is put under a node, symbol by symbol;
* `TreeBuilder.fillsBodies` : the tree builder gives one slot for every symbol of a body;
* `TreeBuilder.Within` : with a number of moves to go, no node can get deeper than is allowed;
  `TreeBuilder.within_step` : every move takes one of them;
* `TreeBuilder.not_refused` : so no expansion is refused.
-/

namespace TopDown.TreeBuilder

open Machine

/-! ## Bodies -/

/-- The symbols of a body put one after the other under `parent`. The empty symbol gets no node. -/
inductive Grows (g : Grammar) (parent level : Nat) : List Symbol → Arena ParseNode →
    List (Option Slot) → Arena ParseNode → Prop
  | nil {a} : Grows g parent level [] a [] a
  | empty {body a slots a'} : Grows g parent level body a slots a' →
      Grows g parent level (.empty :: body) a (none :: slots) a'
  | node {x body a slots a'} : x ≠ .empty →
      Grows g parent level body (a.attach parent (.ofSymbol g x)).2 slots a' →
      Grows g parent level (x :: body) a (some ⟨a.size, level⟩ :: slots) a'

variable {g : Grammar} {t : Table} {maxDepth : Nat}

/-- A symbol that gets a node of its own. -/
theorem grow_node {x : Symbol} (hx : x ≠ .empty) (parent level : Nat) (body : List Symbol)
    (a : Arena ParseNode) :
    grow g parent level (x :: body) a =
      let rest := grow g parent level body (a.attach parent (.ofSymbol g x)).2
      (some ⟨a.size, level⟩ :: rest.1, rest.2) := by
  cases x with
  | empty => exact absurd rfl hx
  | terminal id => rfl
  | nonterminal id => rfl

theorem grows_grow (g : Grammar) (parent level : Nat) (body : List Symbol) (a : Arena ParseNode) :
    Grows g parent level body a (grow g parent level body a).1 (grow g parent level body a).2 := by
  induction body generalizing a with
  | nil => exact .nil
  | cons x body ih =>
    by_cases hx : x = .empty
    · subst hx
      exact .empty (ih a)
    · rw [grow_node hx]
      exact .node hx (ih _)

section Grows

variable {parent level : Nat} {body : List Symbol} {a a' : Arena ParseNode}
  {children : List (Option Slot)}

theorem Grows.length_slots (h : Grows g parent level body a children a') :
    children.length = body.length := by
  induction h with
  | nil => rfl
  | empty _ ih => rw [List.length_cons, List.length_cons, ih]
  | node _ _ ih => rw [List.length_cons, List.length_cons, ih]

/-- The nodes of a body all stand on the level they are put on. -/
theorem Grows.level_eq (h : Grows g parent level body a children a') {slot : Slot}
    (hslot : some slot ∈ children) : slot.level = level := by
  induction h with
  | nil => cases hslot
  | empty _ ih =>
    rcases List.mem_cons.1 hslot with hslot | hslot
    · cases hslot
    · exact ih hslot
  | node _ _ ih =>
    rcases List.mem_cons.1 hslot with hslot | hslot
    · cases hslot
      rfl
    · exact ih hslot

end Grows

theorem fillsBodies (g : Grammar) (maxDepth : Nat) : (recorder g maxDepth).FillsBodies := by
  intro slot p l a slots a' h
  change expand g maxDepth slot p l a = _ at h
  unfold expand at h
  split at h
  · cases h
    exact List.length_map _
  · split at h
    · cases h
    · cases h
      exact (grows_grow g _ _ p.body a).length_slots

/-! ## Levels -/

/-- An expansion that is not refused grows the tree. -/
theorem grow_of_expand {parent : Slot} {p : Production} {l : Lexeme} {a a' : Arena ParseNode}
    {slots : List (Option Slot)} (h : expand g maxDepth (some parent) p l a = (.ok slots, a')) :
    grow g parent.number (parent.level + 1) p.body a = (slots, a') := by
  simp only [expand] at h
  split at h
  · cases h
  · cases h
    rfl

/-- An expansion puts nodes one level below its own. -/
theorem level_of_mem_expand {slot : Option Slot} {p : Production} {l : Lexeme}
    {a a' : Arena ParseNode} {slots : List (Option Slot)}
    (h : expand g maxDepth slot p l a = (.ok slots, a')) {slot' : Slot}
    (hslot' : some slot' ∈ slots) :
    ∃ parent, slot = some parent ∧ slot'.level = parent.level + 1 := by
  cases slot with
  | none =>
    cases h
    obtain ⟨_, _, hnone⟩ := List.mem_map.1 hslot'
    cases hnone
  | some parent =>
    have hgrows := grows_grow g parent.number (parent.level + 1) p.body a
    rw [grow_of_expand h] at hgrows
    exact ⟨parent, rfl, hgrows.level_eq hslot'⟩

/-- Every node of the slots can get `n` levels below it. -/
def Within (maxDepth n : Nat) (slots : List (Option Slot)) : Prop :=
  ∀ slot, some slot ∈ slots → slot.level + n ≤ maxDepth

theorem Within.under {n : Nat} {top : Option Slot} {under : List (Option Slot)}
    (h : Within maxDepth (n + 1) (top :: under)) : Within maxDepth n under := by
  intro slot hslot
  have hlevel := h slot (List.mem_cons_of_mem _ hslot)
  omega

theorem within_step (n : Nat) (c c' : Config (Arena ParseNode) (Option Slot))
    (h : Within maxDepth (n + 1) c.slots)
    (heffect : Effect g t (recorder g maxDepth) c (.running c')) :
    Within maxDepth n c'.slots := by
  cases heffect with
  | epsilon => exact h.under
  | shift => exact h.under
  | expand hx hid hs =>
    intro slot hslot
    rcases List.mem_append.1 hslot with hslot | hslot
    · obtain ⟨⟨x, _⟩, hzip, rfl⟩ := List.mem_map.1 hslot
      obtain ⟨parent, rfl, hlevel⟩ := level_of_mem_expand hs (List.of_mem_zip hzip).2
      have hparent := h parent List.mem_cons_self
      omega
    · exact h.under slot hslot

/-- As long as nodes can get deeper, no expansion is refused. -/
theorem not_refused {n : Nat} {slot : Option Slot} {under : List (Option Slot)}
    (h : Within maxDepth (n + 1) (slot :: under)) {p : Production} {l : Lexeme}
    {a a' : Arena ParseNode} {e : ParseError} :
    expand g maxDepth slot p l a ≠ (.error e, a') := by
  intro hrefused
  unfold expand at hrefused
  split at hrefused
  · cases hrefused
  · rename_i parent level
    have hlevel : level + (n + 1) ≤ maxDepth := h ⟨parent, level⟩ List.mem_cons_self
    rw [if_neg (by omega)] at hrefused
    cases hrefused

end TopDown.TreeBuilder
