import Mathlib.Data.List.Nodup
import TopDown.Proofs.Tree.Unfolding
import TopDown.Proofs.Tree.Walks
import TopDown.Tree.Parse

/-!
# Every draft is used once

To see which drafts a tree is made of, its labels are replaced by their numbers. Every number in the
tree but the root's is that of a child of another one, so each draft turns up as often as the one
draft that has it for a child, and that is once.

* `Arena.Rooted` : every draft but the first is a child once, of a draft before it;
  `Rooted.hierarchy` : so assembly is right;
* `Arena.numbered`, `assemble?_numbered` : the arena with numbers for labels, and its tree;
* `Unfolds.numbers_perm` : the numbers in a tree are those it starts from and those of all children;
* `Rooted.numbers_perm` : the numbers in the tree of the first draft are those of all drafts;
* `iterative_eq_recursive` : what the walks over a tree and the assembly of an arena compute.
-/

namespace TopDown

namespace Arena

variable {α : Type} {a : Arena α}

/-! ## Parents -/

/-- The numbers of all children, list after list. -/
def childNumbers (a : Arena α) : List Nat := a.toList.flatMap Draft.children

/-- There is a first draft, and every other one is a child once, of a draft before it. -/
structure Rooted (a : Arena α) : Prop where
  size_pos : 0 < a.size
  once : ∀ j < a.size, 0 < j → a.childNumbers.count j = 1
  behind : ∀ i (hi : i < a.size), ∀ j ∈ a[i].children, i < j ∧ j < a.size

/-- The children of a draft by its number. -/
def childrenOf (a : Arena α) (i : Nat) : List Nat := (a[i]?.map Draft.children).getD []

theorem childrenOf_eq {i : Nat} {d : Draft α} (h : a[i]? = some d) :
    a.childrenOf i = d.children := by
  rw [childrenOf, h]
  rfl

/-- What occurs once among lists occurs once in one of them and not in the others. -/
theorem exists_count_eq_one {β : Type} {f : β → List Nat} {j : Nat} {xs : List β}
    (h : (xs.flatMap f).count j = 1) :
    ∃ p < xs.length, ∀ i x, xs[i]? = some x → (f x).count j = if i = p then 1 else 0 := by
  induction xs with
  | nil => cases h
  | cons x xs ih =>
    rw [List.flatMap_cons, List.count_append] at h
    by_cases hx : (f x).count j = 0
    · obtain ⟨p, hp, hothers⟩ := ih (by omega)
      refine ⟨p + 1, Nat.succ_lt_succ hp, fun i y hy => ?_⟩
      cases i with
      | zero =>
        cases hy
        rw [hx, if_neg (by omega)]
      | succ i =>
        rw [hothers i y hy]
        simp only [Nat.add_right_cancel_iff]
    · refine ⟨0, Nat.succ_pos _, fun i y hy => ?_⟩
      cases i with
      | zero =>
        cases hy
        rw [if_pos rfl]
        omega
      | succ i =>
        have hrest : j ∉ xs.flatMap f := List.count_eq_zero.1 (by omega)
        have hy : j ∉ f y := fun hmem =>
          hrest (List.mem_flatMap.2 ⟨y, List.mem_of_getElem? hy, hmem⟩)
        rw [if_neg (by omega), List.count_eq_zero.2 hy]

namespace Rooted

variable (ha : a.Rooted) {i j : Nat} {d : Draft α}

include ha

theorem behind_of_getElem? (hd : a[i]? = some d) (hj : j ∈ d.children) : i < j ∧ j < a.size := by
  obtain ⟨hi, rfl⟩ := Array.getElem?_eq_some_iff.1 hd
  exact ha.behind i hi j hj

theorem behind_of_childrenOf (hj : j ∈ a.childrenOf i) : i < j ∧ j < a.size := by
  cases hd : a[i]? with
  | none =>
    rw [childrenOf, hd] at hj
    cases hj
  | some d =>
    rw [childrenOf_eq hd] at hj
    exact ha.behind_of_getElem? hd hj

/-- Every draft but the first has one parent, which stands before it. -/
theorem exists_parent (hpos : 0 < j) (hj : j < a.size) :
    ∃ p < j, ∀ i, (a.childrenOf i).count j = if i = p then 1 else 0 := by
  obtain ⟨p, hp, hcount⟩ := exists_count_eq_one (ha.once j hj hpos)
  rw [Array.length_toList] at hp
  have hchildren (i : Nat) : (a.childrenOf i).count j = if i = p then 1 else 0 := by
    cases hd : a[i]? with
    | none =>
      have hi : a.size ≤ i := Array.getElem?_eq_none_iff.1 hd
      rw [childrenOf, hd, if_neg (by omega)]
      rfl
    | some d =>
      rw [childrenOf_eq hd]
      exact hcount i d (by rw [Array.getElem?_toList, hd])
  have hmem : j ∈ a.childrenOf p := by
    rw [← List.count_pos_iff, hchildren, if_pos rfl]
    exact Nat.one_pos
  exact ⟨p, (ha.behind_of_childrenOf hmem).1, hchildren⟩

theorem hierarchy : a.Hierarchy where
  lt_child hd hj := (ha.behind_of_getElem? hd hj).1
  child_lt hd hj := (ha.behind_of_getElem? hd hj).2
  unique {i i' j d d'} hd hd' hj hj' := by
    obtain ⟨hpos, hlt⟩ := ha.behind_of_getElem? hd hj
    obtain ⟨p, -, hcount⟩ := ha.exists_parent (Nat.zero_lt_of_lt hpos) hlt
    have hparent {k : Nat} {e : Draft α} (he : a[k]? = some e) (hk : j ∈ e.children) : k = p := by
      by_contra hne
      have hzero := hcount k
      rw [if_neg hne, childrenOf_eq he, List.count_eq_zero] at hzero
      exact hzero hk
    rw [hparent hd hj, hparent hd' hj']
  nodup {i d} hd := by
    rw [List.nodup_iff_count_le_one]
    intro j
    by_cases hj : j ∈ d.children
    · obtain ⟨hpos, hlt⟩ := ha.behind_of_getElem? hd hj
      obtain ⟨p, -, hcount⟩ := ha.exists_parent (Nat.zero_lt_of_lt hpos) hlt
      rw [← childrenOf_eq hd, hcount]
      split <;> omega
    · rw [List.count_eq_zero.2 hj]
      exact Nat.zero_le 1

end Rooted

/-! ## Numbers for labels -/

/-- The arena with the number of every draft for its label. -/
def numbered (a : Arena α) : Arena Nat := a.mapIdx fun i d => ⟨i, d.children⟩

/-- The label of a draft by its number. -/
def label? (a : Arena α) (i : Nat) : Option α := a[i]?.map Draft.label

@[simp] theorem size_numbered (a : Arena α) : a.numbered.size = a.size := Array.size_mapIdx

theorem getElem?_numbered (a : Arena α) (i : Nat) :
    a.numbered[i]? = a[i]?.map fun d => ⟨i, d.children⟩ :=
  Array.getElem?_mapIdx

theorem mapLabels_numbered (a : Arena α) :
    a.numbered.mapLabels a.label? = a.mapLabels some := by
  apply Array.ext_getElem?
  intro i
  simp only [mapLabels, Array.getElem?_map, getElem?_numbered, Option.map_map]
  cases hd : a[i]? with
  | none => rfl
  | some d => simp [Draft.map, label?, hd]

/-- The tree of an arena is the tree of its numbers with the labels put in. -/
theorem assemble?_numbered (a : Arena α) :
    a.assemble?.map (Tree.map some) = a.numbered.assemble?.map (Tree.map a.label?) := by
  rw [← assemble?_mapLabels, ← assemble?_mapLabels, mapLabels_numbered]

theorem Hierarchy.numbered (ha : a.Hierarchy) : a.numbered.Hierarchy := by
  refine ha.congr (size_numbered a) fun {i d} hd => ?_
  rw [getElem?_numbered, Option.map_eq_some_iff] at hd
  obtain ⟨d', hd', rfl⟩ := hd
  exact ⟨d', hd', rfl⟩

/-! ## The numbers in a tree -/

/-- The numbers in trees, left to right. -/
def numbersOf (ts : List (Tree Nat)) : List Nat := ts.flatMap (Tree.collect some)

/-- The numbers in trees are those of their roots and those of the children of all numbers. -/
theorem Unfolds.numbers_perm {is : List Nat} {ts : List (Tree Nat)}
    (h : a.numbered.Unfolds is ts) :
    (numbersOf ts).Perm (is ++ (numbersOf ts).flatMap a.childrenOf) := by
  induction h with
  | nil => exact .nil
  | @cons i d is children ts hd _ _ ihchildren ih =>
    rw [getElem?_numbered, Option.map_eq_some_iff] at hd
    obtain ⟨e, he, rfl⟩ := hd
    have hnumbers : numbersOf (.node i children :: ts) =
        i :: (numbersOf children ++ numbersOf ts) := by
      rw [numbersOf, List.flatMap_cons, Tree.collect_node]
      rfl
    rw [hnumbers, List.perm_iff_count]
    intro j
    have hbelow := ihchildren.count_eq j
    have hrest := ih.count_eq j
    simp only [List.count_append] at hbelow hrest
    simp only [List.cons_append, List.count_cons, List.flatMap_cons, List.flatMap_append,
      List.count_append, childrenOf_eq he]
    omega

/-- What one number only leads to, and once, is led to as often as that number occurs. -/
theorem count_flatMap_of_parent {f : Nat → List Nat} {j p : Nat}
    (h : ∀ i, (f i).count j = if i = p then 1 else 0) (is : List Nat) :
    (is.flatMap f).count j = is.count p := by
  induction is with
  | nil => rfl
  | cons i is ih =>
    rw [List.flatMap_cons, List.count_append, List.count_cons, ih, h]
    simp only [beq_iff_eq]
    omega

/-- The tree of the first draft has the number of every draft, each once. -/
theorem Rooted.numbers_perm (ha : a.Rooted) {t : Tree Nat} (h : a.numbered.Unfolds [0] [t]) :
    (t.collect some).Perm (List.range a.size) := by
  have hperm := h.numbers_perm
  rw [numbersOf, List.flatMap_singleton] at hperm
  have hroot : (t.collect some).count 0 = 1 := by
    have hnone : 0 ∉ (t.collect some).flatMap a.childrenOf := by
      intro hmem
      obtain ⟨i, -, hi⟩ := List.mem_flatMap.1 hmem
      exact Nat.not_lt_zero i (ha.behind_of_childrenOf hi).1
    rw [hperm.count_eq, List.count_append, List.count_eq_zero.2 hnone]
    rfl
  have hchild {j : Nat} (hj : 0 < j) :
      (t.collect some).count j = ((t.collect some).flatMap a.childrenOf).count j := by
    rw [hperm.count_eq, List.count_append, List.count_singleton]
    simp [Nat.ne_of_lt hj]
  -- a draft occurs as often as its parent, and the first one once
  have honce : ∀ j < a.size, (t.collect some).count j = 1 := by
    intro j
    induction j using Nat.strongRecOn with
    | ind j ih =>
      intro hj
      rcases Nat.eq_zero_or_pos j with rfl | hpos
      · exact hroot
      · obtain ⟨p, hp, hparent⟩ := ha.exists_parent hpos hj
        rw [hchild hpos, count_flatMap_of_parent hparent, ih p hp (Nat.lt_trans hp hj)]
  rw [List.perm_iff_count]
  intro j
  by_cases hj : j < a.size
  · rw [honce j hj, List.nodup_iff_count_eq_one.1 List.nodup_range j (List.mem_range.2 hj)]
  · have hpos : 0 < j := Nat.lt_of_lt_of_le ha.size_pos (Nat.le_of_not_lt hj)
    have hnone : j ∉ (t.collect some).flatMap a.childrenOf := by
      intro hmem
      obtain ⟨i, -, hi⟩ := List.mem_flatMap.1 hmem
      exact hj (ha.behind_of_childrenOf hi).2
    rw [hchild hpos, List.count_eq_zero.2 hnone, List.count_eq_zero.2 (by simpa using hj)]

/-- An arena that grows from its first draft is put together as what this one unfolds to. Every
draft becomes one node of the tree. -/
theorem Rooted.exists_assemble? (ha : a.Rooted) :
    ∃ (t : Tree α) (numbers : Tree Nat), a.assemble? = some t ∧ a.Unfolds [0] [t] ∧
      a.numbered.Unfolds [0] [numbers] ∧ t.map some = numbers.map a.label? ∧
      (numbers.collect some).Perm (List.range a.size) := by
  obtain ⟨t, ht, hunfolds⟩ := assemble?_unfolds ha.hierarchy ha.size_pos
  obtain ⟨numbers, hnumbers, hnumbered⟩ := assemble?_unfolds ha.hierarchy.numbered
    (by rw [size_numbered]; exact ha.size_pos)
  have hlabels := assemble?_numbered a
  rw [ht, hnumbers] at hlabels
  exact ⟨t, numbers, ht, hunfolds, hnumbered, Option.some.inj hlabels, ha.numbers_perm hnumbered⟩

end Arena

/-- The walks with a list of pending trees compute what is defined on a node by its children, and
assembly from the back makes the tree that the first draft unfolds to, its children in order, with
every draft for one node. -/
theorem iterative_eq_recursive :
    (∀ t : ParseTree, t.leaves = t.label.text.toList ++ t.children.flatMap Tree.leaves ∧
      t.depth = (t.children.map Tree.depth).foldr max 0 + 1) ∧
    ∀ a : Arena ParseNode, a.Rooted → ∃ (t : ParseTree) (numbers : Tree Nat),
      a.assemble? = some t ∧ a.Unfolds [0] [t] ∧ a.numbered.Unfolds [0] [numbers] ∧
        t.map some = numbers.map a.label? ∧ (numbers.collect some).Perm (List.range a.size) := by
  refine ⟨fun t => ?_, fun a ha => ha.exists_assemble?⟩
  obtain ⟨label, children⟩ := t
  exact ⟨Tree.collect_node ParseNode.text label children, Tree.depth_node label children⟩

/-- The drafts of a root with two children, the first of which has been given a child last. -/
def forkedDrafts : Arena ParseNode :=
  #[⟨⟨"S", .nonterminal 0, none⟩, [2, 1]⟩, ⟨⟨"a", .terminal 0, some "a"⟩, []⟩,
    ⟨⟨"A", .nonterminal 1, none⟩, [3]⟩, ⟨⟨"b", .terminal 1, some "b"⟩, []⟩]

theorem iterative_eq_recursive_forked :
    forkedDrafts.Rooted ∧ ∃ (t : ParseTree) (numbers : Tree Nat),
      forkedDrafts.assemble? = some t ∧ forkedDrafts.Unfolds [0] [t] ∧
        (numbers.collect some).Perm [0, 1, 2, 3] := by
  have hrooted : forkedDrafts.Rooted := ⟨by decide, by decide, by decide⟩
  obtain ⟨t, numbers, ht, hunfolds, -, -, hperm⟩ := iterative_eq_recursive.2 forkedDrafts hrooted
  exact ⟨hrooted, t, numbers, ht, hunfolds, hperm⟩

end TopDown
