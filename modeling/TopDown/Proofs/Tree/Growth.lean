import Mathlib.Data.List.ReduceOption
import TopDown.Proofs.Machine.Acceptance
import TopDown.Proofs.Tree.Building
import TopDown.Proofs.Tree.Unfolding

/-!
# Growing a tree without a bound

The nodes of the stack are leaves that wait for an expansion or a token. A move finishes the topmost
one and touches no other node, so a node that has left the stack keeps its label and its children.

* `TreeBuilder.boundless` : the tree builder that lets a tree get as deep as it may;
* `TreeBuilder.Planted` : every symbol of a stack but the empty one has a fresh leaf of its own, and
  the end marker lies below them;
* `TreeBuilder.Growing` : the invariant of a run; `Growing.fill`, `Growing.grow` : moves keep it;
* `TreeBuilder.Growing.accepted` : a run that accepts leaves the nodes alone that have left the
  stack;
* `TreeBuilder.Growing.unfolds_fill`, `TreeBuilder.Growing.unfolds_grow` : so what a move has made
  of a node is what the node unfolds to in the end.
-/

namespace TopDown.TreeBuilder

open Grammar Machine

/-! ## Without a bound -/

/-- The slots of a body, and the arena with its nodes, however deep they get. -/
def plant (g : Grammar) (slot : Option Slot) (p : Production) (a : Arena ParseNode) :
    List (Option Slot) × Arena ParseNode :=
  match slot with
  | none => (p.body.map fun _ => none, a)
  | some ⟨parent, level⟩ => grow g parent (level + 1) p.body a

/-- Grows a tree that may get as deep as it likes. -/
def boundless (g : Grammar) : Recorder (Arena ParseNode) (Option Slot) :=
  { recorder g 0 with
    expand := fun slot p _ a => (.ok (plant g slot p a).1, (plant g slot p a).2) }

theorem boundless_fillsBodies (g : Grammar) : (boundless g).FillsBodies := by
  intro slot p l a slots a' h
  cases h
  cases slot with
  | none => exact List.length_map _
  | some parent => exact (grows_grow g _ _ p.body a).length_slots

theorem boundless_agrees (g : Grammar) : (boundless g).Agrees := fun _ _ _ _ => ⟨_, _, rfl⟩

/-! ## Leaves of the stack -/

/-- Every symbol of a stack but the empty one has a leaf of its own, on which nothing has happened
yet. The end marker lies at the bottom. -/
inductive Planted (g : Grammar) (a : Arena ParseNode) :
    List StackEntry → List (Option Slot) → List Symbol → List Slot → Prop
  | finish {slot} : Planted g a [.finish] [slot] [] []
  | empty {stack beside s slots} : Planted g a stack beside s slots →
      Planted g a (.symbol .empty :: stack) (none :: beside) (.empty :: s) slots
  | node {x slot stack beside s slots} : x ≠ .empty →
      a[slot.number]? = some ⟨.ofSymbol g x, []⟩ → slot.number ∉ slots.map Slot.number →
      Planted g a stack beside s slots →
      Planted g a (.symbol x :: stack) (some slot :: beside) (x :: s) (slot :: slots)

variable {g : Grammar} {a a' : Arena ParseNode}

section Planted

variable {stack : List StackEntry} {beside : List (Option Slot)} {s : List Symbol}
  {slots : List Slot}

theorem Planted.length_eq (h : Planted g a stack beside s slots) :
    stack.length = beside.length := by
  induction h with
  | finish => rfl
  | empty _ ih => exact congrArg Nat.succ ih
  | node _ _ _ _ ih => exact congrArg Nat.succ ih

theorem Planted.lt_size (h : Planted g a stack beside s slots) : ∀ i ∈ slots.map Slot.number,
    i < a.size := by
  induction h with
  | finish => exact fun _ hi => absurd hi List.not_mem_nil
  | empty _ ih => exact ih
  | node _ hslot _ _ ih =>
    exact List.forall_mem_cons.2 ⟨(Array.getElem?_eq_some_iff.1 hslot).1, ih⟩

/-- Nothing but the leaves of the stack matters. -/
theorem Planted.congr (h : Planted g a stack beside s slots)
    (hsame : ∀ i ∈ slots.map Slot.number, a'[i]? = a[i]?) : Planted g a' stack beside s slots := by
  induction h with
  | finish => exact .finish
  | empty _ ih => exact .empty (ih hsame)
  | node hx hslot hfresh _ ih =>
    obtain ⟨hhead, htail⟩ := List.forall_mem_cons.1 hsame
    exact .node hx (hhead.trans hslot) hfresh (ih htail)

end Planted

section Grows

variable {parent level : Nat} {body : List Symbol} {children : List (Option Slot)}

theorem Grows.size_le (h : Grows g parent level body a children a') : a.size ≤ a'.size := by
  induction h with
  | nil => exact Nat.le_refl _
  | empty _ ih => exact ih
  | node _ _ ih =>
    rw [Arena.size_attach] at ih
    exact Nat.le_of_succ_le ih

theorem Grows.kept (h : Grows g parent level body a children a') {i : Nat} (hi : i < a.size)
    (hne : i ≠ parent) : a'[i]? = a[i]? := by
  induction h with
  | nil => rfl
  | empty _ ih => exact ih hi
  | node _ _ ih =>
    rw [ih (by rw [Arena.size_attach]; omega), Arena.getElem?_attach_of_ne _ hi hne]

theorem Grows.hierarchy (h : Grows g parent level body a children a') (ha : a.Hierarchy)
    (hparent : parent < a.size) : a'.Hierarchy := by
  induction h with
  | nil => exact ha
  | empty _ ih => exact ih ha hparent
  | node _ _ ih => exact ih (ha.attach hparent) (by rw [Arena.size_attach]; omega)

/-- The new nodes become the last children of `parent`, in order. -/
theorem Grows.adopts (h : Grows g parent level body a children a') {d : Draft ParseNode}
    (hd : a[parent]? = some d) :
    a'[parent]? = some ⟨d.label, d.children ++ children.reduceOption.map Slot.number⟩ := by
  induction h generalizing d with
  | nil => simpa using hd
  | empty _ ih => exact ih hd
  | node _ _ ih =>
    rw [ih (Arena.getElem?_attach_parent _ hd)]
    simp [List.reduceOption_cons_of_some]

/-- One node for every symbol but the empty one. -/
theorem Grows.length_eq (h : Grows g parent level body a children a') :
    children.reduceOption.length = (bare body).length := by
  induction h with
  | nil => rfl
  | empty _ ih => exact ih
  | node hx _ ih =>
    rw [List.reduceOption_cons_of_some, bare, List.filter_cons_of_pos (by simpa using hx),
      List.length_cons, List.length_cons, ih, bare]

/-- A body is planted above what has been planted before, unless that is its own parent. -/
theorem Grows.planted (h : Grows g parent level body a children a')
    {stack : List StackEntry} {beside : List (Option Slot)} {s : List Symbol} {slots : List Slot}
    (hplanted : Planted g a stack beside s slots) (hparent : parent < a.size)
    (hfresh : parent ∉ slots.map Slot.number) :
    Planted g a' ((body.zip children).map (fun x => .symbol x.1) ++ stack)
      ((body.zip children).map Prod.snd ++ beside) (body ++ s) (children.reduceOption ++ slots) ∧
      ∀ i ∈ children.reduceOption.map Slot.number, a.size ≤ i := by
  induction h with
  | nil => exact ⟨hplanted, fun _ hi => absurd hi List.not_mem_nil⟩
  | empty _ ih =>
    obtain ⟨hbody, hle⟩ := ih hplanted hparent
    exact ⟨.empty hbody, hle⟩
  | @node x body a children a' hx hgrows ih =>
    have hsize := Arena.size_attach a parent (.ofSymbol g x)
    have hbelow : Planted g (a.attach parent (.ofSymbol g x)).2 stack beside s slots :=
      hplanted.congr fun i hi => Arena.getElem?_attach_of_ne _ (hplanted.lt_size i hi)
        (by rintro rfl; exact hfresh hi)
    obtain ⟨hbody, hle⟩ := ih hbelow (by omega)
    have hleaf : a'[a.size]? = some ⟨.ofSymbol g x, []⟩ := by
      rw [hgrows.kept (by omega) (by omega), Arena.getElem?_attach_size _ hparent]
    have hnew : a.size ∉ (children.reduceOption ++ slots).map Slot.number := by
      rw [List.map_append, List.mem_append, not_or]
      refine ⟨fun hi => ?_, fun hi => Nat.lt_irrefl _ (hplanted.lt_size _ hi)⟩
      have hlt := hle _ hi
      omega
    refine ⟨.node hx hleaf hnew hbody, List.forall_mem_cons.2 ⟨Nat.le_refl _, fun i hi => ?_⟩⟩
    have hlt := hle i hi
    omega

end Grows

/-! ## The invariant -/

/-- The nodes form a hierarchy, and the symbols of the stack are planted in it. -/
structure Growing (g : Grammar) (c : Config (Arena ParseNode) (Option Slot)) (s : List Symbol)
    (slots : List Slot) : Prop where
  hierarchy : c.record.Hierarchy
  planted : Planted g c.record c.stack c.slots s slots

theorem Growing.paired {c : Config (Arena ParseNode) (Option Slot)} {s : List Symbol}
    {slots : List Slot} (h : Growing g c s slots) : c.Paired := h.planted.length_eq

theorem growing_start (g : Grammar) (l : Lexeme) (rest : List Pull) :
    Growing g (start g (boundless g) l rest #[]) [.nonterminal g.start] [⟨0, 1⟩] where
  hierarchy := Arena.hierarchy_root _
  planted := .node (by rintro ⟨⟩) rfl List.not_mem_nil .finish

section Moves

variable {s : List Symbol} {slots : List Slot} {stack : List StackEntry}
  {beside : List (Option Slot)} {l l' : Lexeme} {rest rest' : List Pull}

theorem Growing.of_empty {slot : Option Slot}
    (h : Growing g ⟨.symbol .empty :: stack, slot :: beside, l, rest, a⟩ s slots) :
    ∃ s', s = .empty :: s' ∧ Growing g ⟨stack, beside, l, rest, a⟩ s' slots := by
  have hplanted := h.planted
  cases hplanted with
  | empty hbelow => exact ⟨_, rfl, h.hierarchy, hbelow⟩
  | node hx => exact absurd rfl hx

theorem Growing.of_symbol {x : Symbol} {slot : Option Slot}
    (h : Growing g ⟨.symbol x :: stack, slot :: beside, l, rest, a⟩ s slots) (hx : x ≠ .empty) :
    ∃ leaf s' slots', slot = some leaf ∧ s = x :: s' ∧ slots = leaf :: slots' := by
  have hplanted := h.planted
  cases hplanted with
  | empty => exact absurd rfl hx
  | node => exact ⟨_, _, _, rfl, rfl, rfl⟩

variable {x : Symbol} {leaf : Slot}

/-- The leaf on top is fresh, and no other symbol has it. -/
theorem Growing.top
    (h : Growing g ⟨.symbol x :: stack, some leaf :: beside, l, rest, a⟩ (x :: s)
      (leaf :: slots)) :
    a[leaf.number]? = some ⟨.ofSymbol g x, []⟩ ∧ leaf.number ∉ slots.map Slot.number ∧
      Planted g a stack beside s slots := by
  have hplanted := h.planted
  cases hplanted with
  | node _ hleaf hfresh hbelow => exact ⟨hleaf, hfresh, hbelow⟩

theorem Growing.lt_size
    (h : Growing g ⟨.symbol x :: stack, some leaf :: beside, l, rest, a⟩ (x :: s)
      (leaf :: slots)) : leaf.number < a.size :=
  (Array.getElem?_eq_some_iff.1 h.top.1).1

theorem getElem?_fill_of_ne (token : Token) {i : Nat} (hi : i ≠ leaf.number) :
    (fill (some leaf) token a)[i]? = a[i]? :=
  Arena.getElem?_relabel_of_ne _ hi

theorem Growing.fill
    (h : Growing g ⟨.symbol x :: stack, some leaf :: beside, l, rest, a⟩ (x :: s)
      (leaf :: slots)) (token : Token) :
    Growing g ⟨stack, beside, l', rest', fill (some leaf) token a⟩ s slots := by
  obtain ⟨-, hfresh, hbelow⟩ := h.top
  have ha : a.Hierarchy := h.hierarchy
  refine ⟨?_, hbelow.congr fun i hi => getElem?_fill_of_ne token ?_⟩
  · simp only [TreeBuilder.fill]
    exact ha.relabel
  · rintro rfl
    exact hfresh hi

theorem Growing.grow {level : Nat} {body : List Symbol} {children : List (Option Slot)}
    (h : Growing g ⟨.symbol x :: stack, some leaf :: beside, l, rest, a⟩ (x :: s)
      (leaf :: slots))
    (hgrows : Grows g leaf.number level body a children a') :
    Growing g ⟨(body.zip children).map (fun x => .symbol x.1) ++ stack,
        (body.zip children).map Prod.snd ++ beside, l, rest, a'⟩ (body ++ s)
      (children.reduceOption ++ slots) := by
  obtain ⟨-, hfresh, hbelow⟩ := h.top
  exact ⟨hgrows.hierarchy h.hierarchy h.lt_size, (hgrows.planted hbelow h.lt_size hfresh).1⟩

/-- A body takes no node that is there already. -/
theorem Growing.not_mem_grow {level : Nat} {body : List Symbol} {children : List (Option Slot)}
    (h : Growing g ⟨.symbol x :: stack, some leaf :: beside, l, rest, a⟩ (x :: s)
      (leaf :: slots))
    (hgrows : Grows g leaf.number level body a children a') {i : Nat} (hi : i < a.size)
    (hslots : i ∉ slots.map Slot.number) :
    i ∉ (children.reduceOption ++ slots).map Slot.number := by
  obtain ⟨-, hfresh, hbelow⟩ := h.top
  rw [List.map_append, List.mem_append, not_or]
  refine ⟨fun hmem => ?_, hslots⟩
  have hle := (hgrows.planted hbelow h.lt_size hfresh).2 i hmem
  omega

end Moves

/-! ## A whole run -/

variable {t : Table} {c : Config (Arena ParseNode) (Option Slot)} {s : List Symbol}
  {slots : List Slot}

/-- The nodes of a run that accepts form a hierarchy, and those that have left the stack stay as
they are. -/
theorem Growing.accepted (h : Growing g c s slots) {n : Nat}
    (hrun : run g t (boundless g) n c = .accepted a) :
    a.Hierarchy ∧ c.record.size ≤ a.size ∧
      ∀ i < c.record.size, i ∉ slots.map Slot.number → a[i]? = c.record[i]? := by
  induction n generalizing c s slots with
  | zero => cases hrun
  | succ n ih =>
    rcases moves_or_ends h.paired with ⟨c', heffect⟩ | ⟨outcome, hfinal, heffect⟩
    · rw [run_succ_of_move heffect] at hrun
      cases heffect with
      | epsilon =>
        obtain ⟨s, rfl, hbelow⟩ := h.of_empty
        obtain ⟨hierarchy, hsize, hkept⟩ := ih hbelow hrun
        exact ⟨hierarchy, hsize, hkept⟩
      | @shift id slot below under token rest a₀ l' rest' _ _ =>
        obtain ⟨leaf, s, slots, rfl, rfl, rfl⟩ := h.of_symbol (by rintro ⟨⟩)
        obtain ⟨hierarchy, hsize, hkept⟩ := ih (h.fill token) hrun
        have hfill : (TreeBuilder.fill (some leaf) token a₀).size = a₀.size :=
          Arena.size_relabel _ _ _
        refine ⟨hierarchy, Nat.le_trans (Nat.le_of_eq hfill.symm) hsize, fun i hi hslots => ?_⟩
        rw [List.map_cons, List.mem_cons, not_or] at hslots
        exact (hkept i (Nat.lt_of_lt_of_eq hi hfill.symm) hslots.2).trans
          (getElem?_fill_of_ne token hslots.1)
      | @expand b slot below under l rest a₀ x id children a₁ _ _ hchildren =>
        obtain ⟨leaf, s, slots, rfl, rfl, rfl⟩ := h.of_symbol (by rintro ⟨⟩)
        cases hchildren
        have hgrows := grows_grow g leaf.number (leaf.level + 1)
          (g.productions.getD id ⟨g.start, []⟩).body a₀
        obtain ⟨hierarchy, hsize, hkept⟩ := ih (h.grow hgrows) hrun
        refine ⟨hierarchy, Nat.le_trans hgrows.size_le hsize, fun i hi hslots => ?_⟩
        rw [List.map_cons, List.mem_cons, not_or] at hslots
        exact (hkept i (Nat.lt_of_lt_of_le hi hgrows.size_le)
          (h.not_mem_grow hgrows hi hslots.2)).trans (hgrows.kept hi hslots.1)
    · rw [run_succ_of_end hfinal heffect] at hrun
      subst hrun
      cases heffect with
      | exhausted => exact ⟨h.hierarchy, Nat.le_refl _, fun _ _ _ => rfl⟩
      | accept => exact ⟨h.hierarchy, Nat.le_refl _, fun _ _ _ => rfl⟩

section Unfolding

variable {x : Symbol} {leaf : Slot} {stack : List StackEntry} {beside : List (Option Slot)}
  {l l' : Lexeme} {rest rest' : List Pull} {n : Nat} {f : List ParseTree}

/-- In the end, a leaf that has been filled is a tree of its own. -/
theorem Growing.unfolds_fill
    (h : Growing g ⟨.symbol x :: stack, some leaf :: beside, l, rest, a⟩ (x :: s)
      (leaf :: slots)) {token : Token}
    (hrun : run g t (boundless g) n
      ⟨stack, beside, l', rest', TreeBuilder.fill (some leaf) token a⟩ = .accepted a')
    (hf : a'.Unfolds ((leaf :: slots).map Slot.number) f) :
    ∃ f', f = .node ⟨token.text, x, some token.text⟩ [] :: f' ∧
      a'.Unfolds (slots.map Slot.number) f' := by
  obtain ⟨-, -, hkept⟩ := (h.fill token).accepted hrun
  have hsize : (TreeBuilder.fill (some leaf) token a).size = a.size := Arena.size_relabel _ _ _
  have hleaf : a'[leaf.number]? = some ⟨⟨token.text, x, some token.text⟩, []⟩ :=
    (hkept leaf.number (Nat.lt_of_lt_of_eq h.lt_size hsize.symm) h.top.2.1).trans
      (Arena.getElem?_relabel_self _ h.top.1)
  cases hf with
  | cons hd hchildren hrest =>
    cases hd.symm.trans hleaf
    cases hchildren
    exact ⟨_, rfl, hrest⟩

/-- In the end, a leaf under which a body has been put is the root of the body's trees. -/
theorem Growing.unfolds_grow
    (h : Growing g ⟨.symbol x :: stack, some leaf :: beside, l, rest, a⟩ (x :: s)
      (leaf :: slots))
    {level : Nat} {body : List Symbol} {children : List (Option Slot)} {a₁ : Arena ParseNode}
    (hgrows : Grows g leaf.number level body a children a₁)
    (hrun : run g t (boundless g) n ⟨(body.zip children).map (fun x => .symbol x.1) ++ stack,
      (body.zip children).map Prod.snd ++ beside, l, rest, a₁⟩ = .accepted a')
    (hf : a'.Unfolds ((leaf :: slots).map Slot.number) f) :
    ∃ trees f', f = .node (.ofSymbol g x) trees :: f' ∧
      a'.Unfolds (children.reduceOption.map Slot.number) trees ∧
      a'.Unfolds (slots.map Slot.number) f' := by
  obtain ⟨-, -, hkept⟩ := (h.grow hgrows).accepted hrun
  obtain ⟨hdraft, hfresh, -⟩ := h.top
  have hold := h.not_mem_grow hgrows h.lt_size hfresh
  have hleaf : a'[leaf.number]? =
      some ⟨.ofSymbol g x, [] ++ children.reduceOption.map Slot.number⟩ :=
    (hkept leaf.number (Nat.lt_of_lt_of_le h.lt_size hgrows.size_le) hold).trans
      (hgrows.adopts hdraft)
  cases hf with
  | cons hd hchildren hrest =>
    cases hd.symm.trans hleaf
    exact ⟨_, _, rfl, hchildren, hrest⟩

end Unfolding

/-- A run that accepts has grown one tree. -/
theorem exists_tree_of_accepted {l : Lexeme} {rest : List Pull} {n : Nat}
    (hrun : run g t (boundless g) n (start g (boundless g) l rest #[]) = .accepted a) :
    ∃ tree, a.assemble? = some tree ∧ a.Unfolds [0] [tree] := by
  obtain ⟨hierarchy, hsize, -⟩ := (growing_start g l rest).accepted hrun
  exact Arena.assemble?_unfolds hierarchy (Nat.lt_of_lt_of_le Nat.zero_lt_one hsize)

end TopDown.TreeBuilder
