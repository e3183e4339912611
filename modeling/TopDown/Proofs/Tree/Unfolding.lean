import TopDown.Proofs.Tree.Assembly

/-!
# The tree that an arena unfolds to

Assembly takes every finished tree once, so it is right as long as no node has two parents. Growth
keeps this: a new node has one parent, which stands before it.

* `Arena.Unfolds` : nodes with all that is below them, as trees;
* `Arena.Hierarchy` : children stand behind their parent, and have one only; `Hierarchy.congr`,
  `Hierarchy.attach`, `Hierarchy.relabel` : this only depends on children, and growth keeps it;
* `Arena.Finished`, `assembleFrom_finished` : what is finished from some number on;
* `Arena.assemble?_unfolds` : the tree of an arena is what its first node unfolds to.
-/

namespace TopDown.Arena

variable {α : Type} {a : Arena α}

/-! ## Unfolding -/

/-- The nodes of these numbers, with all that is below them, are these trees. -/
inductive Unfolds (a : Arena α) : List Nat → List (Tree α) → Prop
  | nil : Unfolds a [] []
  | cons {i d is children ts} : a[i]? = some d → Unfolds a d.children children → Unfolds a is ts →
      Unfolds a (i :: is) (.node d.label children :: ts)

variable {is js : List Nat} {ts us : List (Tree α)}

theorem Unfolds.append (h : Unfolds a is ts) (h' : Unfolds a js us) :
    Unfolds a (is ++ js) (ts ++ us) := by
  induction h with
  | nil => exact h'
  | cons hi hchildren _ _ ih => exact .cons hi hchildren ih

theorem Unfolds.length_eq (h : Unfolds a is ts) : ts.length = is.length := by
  induction h with
  | nil => rfl
  | cons _ _ _ _ ih => rw [List.length_cons, List.length_cons, ih]

/-! ## Parents -/

/-- Children stand behind their parent, and every node is a child of one node at most, and once. -/
structure Hierarchy (a : Arena α) : Prop where
  lt_child : ∀ {i j : Nat} {d : Draft α}, a[i]? = some d → j ∈ d.children → i < j
  child_lt : ∀ {i j : Nat} {d : Draft α}, a[i]? = some d → j ∈ d.children → j < a.size
  unique : ∀ {i i' j : Nat} {d d' : Draft α}, a[i]? = some d → a[i']? = some d' → j ∈ d.children →
    j ∈ d'.children → i = i'
  nodup : ∀ {i : Nat} {d : Draft α}, a[i]? = some d → d.children.Nodup

/-- Only children matter. -/
theorem Hierarchy.congr {β : Type} {b : Arena β} (ha : a.Hierarchy) (hsize : b.size = a.size)
    (h : ∀ {i : Nat} {d : Draft β}, b[i]? = some d →
      ∃ d' : Draft α, a[i]? = some d' ∧ d.children = d'.children) : b.Hierarchy where
  lt_child hd hj := by
    obtain ⟨d', hd', heq⟩ := h hd
    exact ha.lt_child hd' (heq ▸ hj)
  child_lt hd hj := by
    obtain ⟨d', hd', heq⟩ := h hd
    rw [hsize]
    exact ha.child_lt hd' (heq ▸ hj)
  unique hd hd' hj hj' := by
    obtain ⟨e, he, heq⟩ := h hd
    obtain ⟨e', he', heq'⟩ := h hd'
    exact ha.unique he he' (heq ▸ hj) (heq' ▸ hj')
  nodup hd := by
    obtain ⟨d', hd', heq⟩ := h hd
    exact heq ▸ ha.nodup hd'

theorem hierarchy_root (label : α) : Hierarchy (add #[] label) := by
  have hchildren : ∀ {i : Nat} {d : Draft α}, (add #[] label)[i]? = some d → d.children = [] := by
    intro i d hd
    obtain ⟨_, rfl⟩ := Array.getElem?_eq_some_iff.1 hd
    simp [add]
  refine ⟨fun hd hj => ?_, fun hd hj => ?_, fun hd _ hj _ => ?_, fun hd => ?_⟩
  · rw [hchildren hd] at hj
    cases hj
  · rw [hchildren hd] at hj
    cases hj
  · rw [hchildren hd] at hj
    cases hj
  · rw [hchildren hd]
    exact List.nodup_nil

section Attach

variable {parent : Nat} (label : α)

theorem getElem?_attach_of_ne {i : Nat} (hi : i < a.size) (hne : i ≠ parent) :
    (a.attach parent label).2[i]? = a[i]? := by
  simp only [attach, adopt, add]
  rw [Array.getElem?_modify, if_neg (Ne.symm hne), Array.getElem?_push_lt hi,
    Array.getElem?_eq_getElem hi]

theorem getElem?_attach_parent {d : Draft α} (hd : a[parent]? = some d) :
    (a.attach parent label).2[parent]? = some ⟨d.label, d.children ++ [a.size]⟩ := by
  obtain ⟨hlt, rfl⟩ := Array.getElem?_eq_some_iff.1 hd
  simp only [attach, adopt, add]
  rw [Array.getElem?_modify, if_pos rfl, Array.getElem?_push_lt hlt]
  rfl

theorem getElem?_attach_size (hparent : parent < a.size) :
    (a.attach parent label).2[a.size]? = some ⟨label, []⟩ := by
  simp only [attach, adopt, add]
  rw [Array.getElem?_modify, if_neg (Nat.ne_of_lt hparent), Array.getElem?_push_size]

variable {label}

/-- What has been attached is childless, and all other nodes have the children they had, but that
the parent has got a new one. -/
theorem children_of_attach (hparent : parent < a.size) {i : Nat} {d : Draft α}
    (h : (a.attach parent label).2[i]? = some d) :
    d.children = [] ∨ ∃ d', a[i]? = some d' ∧
      (d.children = d'.children ∨ i = parent ∧ d.children = d'.children ++ [a.size]) := by
  have hi : i < a.size + 1 := by
    rw [← size_attach a parent label]
    exact (Array.getElem?_eq_some_iff.1 h).1
  by_cases hsize : i = a.size
  · rw [hsize, getElem?_attach_size label hparent] at h
    cases h
    exact .inl rfl
  have hlt : i < a.size := by omega
  by_cases hne : i = parent
  · subst hne
    have hd := Array.getElem?_eq_getElem hlt
    rw [getElem?_attach_parent label hd] at h
    cases h
    exact .inr ⟨_, hd, .inr ⟨rfl, rfl⟩⟩
  · rw [getElem?_attach_of_ne label hlt hne] at h
    exact .inr ⟨d, h, .inl rfl⟩

/-- A child after an attachment was one before, or it is the new node. -/
theorem mem_children_of_attach (hparent : parent < a.size) {i j : Nat} {d : Draft α}
    (h : (a.attach parent label).2[i]? = some d) (hj : j ∈ d.children) :
    (∃ d', a[i]? = some d' ∧ j ∈ d'.children) ∨ i = parent ∧ j = a.size := by
  rcases children_of_attach hparent h with hnil | ⟨d', hd', hsame | ⟨hi, hnew⟩⟩
  · rw [hnil] at hj
    cases hj
  · rw [hsame] at hj
    exact .inl ⟨d', hd', hj⟩
  · rw [hnew, List.mem_append, List.mem_singleton] at hj
    rcases hj with hj | hj
    · exact .inl ⟨d', hd', hj⟩
    · exact .inr ⟨hi, hj⟩

theorem Hierarchy.attach (ha : a.Hierarchy) (hparent : parent < a.size) :
    (a.attach parent label).2.Hierarchy where
  lt_child hd hj := by
    rcases mem_children_of_attach hparent hd hj with ⟨d', hd', hj⟩ | ⟨rfl, rfl⟩
    · exact ha.lt_child hd' hj
    · exact hparent
  child_lt hd hj := by
    rw [size_attach]
    rcases mem_children_of_attach hparent hd hj with ⟨d', hd', hj⟩ | ⟨rfl, rfl⟩
    · exact Nat.lt_succ_of_lt (ha.child_lt hd' hj)
    · exact Nat.lt_succ_self _
  unique hd hd' hj hj' := by
    rcases mem_children_of_attach hparent hd hj with ⟨e, he, hej⟩ | ⟨rfl, rfl⟩
    · rcases mem_children_of_attach hparent hd' hj' with ⟨e', he', hej'⟩ | ⟨rfl, rfl⟩
      · exact ha.unique he he' hej hej'
      · exact absurd (ha.child_lt he hej) (Nat.lt_irrefl _)
    · rcases mem_children_of_attach hparent hd' hj' with ⟨e', he', hej'⟩ | ⟨rfl, -⟩
      · exact absurd (ha.child_lt he' hej') (Nat.lt_irrefl _)
      · rfl
  nodup hd := by
    rcases children_of_attach hparent hd with hnil | ⟨d', hd', hsame | ⟨-, hnew⟩⟩
    · rw [hnil]
      exact List.nodup_nil
    · rw [hsame]
      exact ha.nodup hd'
    · rw [hnew]
      refine List.nodup_append.2 ⟨ha.nodup hd', List.pairwise_singleton _ _, ?_⟩
      rintro j hj _ hsize rfl
      rw [List.mem_singleton.1 hsize] at hj
      exact absurd (ha.child_lt hd' hj) (Nat.lt_irrefl _)

end Attach

section Relabel

variable {number : Nat} (f : α → α)

theorem getElem?_relabel_of_ne {i : Nat} (h : i ≠ number) : (a.relabel number f)[i]? = a[i]? := by
  rw [relabel, Array.getElem?_modify, if_neg (Ne.symm h)]

theorem getElem?_relabel_self {d : Draft α} (h : a[number]? = some d) :
    (a.relabel number f)[number]? = some ⟨f d.label, d.children⟩ := by
  rw [relabel, Array.getElem?_modify, if_pos rfl, h]
  rfl

variable {f}

theorem children_of_relabel {i : Nat} {d : Draft α} (h : (a.relabel number f)[i]? = some d) :
    ∃ d', a[i]? = some d' ∧ d.children = d'.children := by
  by_cases hi : i = number
  · subst hi
    have hlt : i < a.size := by
      rw [← size_relabel a i f]
      exact (Array.getElem?_eq_some_iff.1 h).1
    have hd := Array.getElem?_eq_getElem hlt
    rw [getElem?_relabel_self f hd] at h
    cases h
    exact ⟨_, hd, rfl⟩
  · rw [getElem?_relabel_of_ne f hi] at h
    exact ⟨d, h, rfl⟩

theorem Hierarchy.relabel (ha : a.Hierarchy) : (a.relabel number f).Hierarchy :=
  ha.congr (size_relabel a number f) children_of_relabel

end Relabel

/-! ## Assembly -/

/-- The tree of this node is finished and has not been taken. -/
def Ready (a : Arena α) (built : Array (Option (Tree α))) (i : Nat) : Prop :=
  ∃ t, built[i]? = some (some t) ∧ Unfolds a [i] [t]

/-- Trees that are ready are taken in order, and all others stay as they are. -/
theorem takeBuilt_of_ready {built : Array (Option (Tree α))} (hnodup : is.Nodup)
    (h : ∀ i ∈ is, Ready a built i) :
    Unfolds a is (takeBuilt is built).1 ∧ ∀ j ∉ is, (takeBuilt is built).2[j]? = built[j]? := by
  induction is generalizing built with
  | nil => exact ⟨.nil, fun _ _ => rfl⟩
  | cons i is ih =>
    obtain ⟨hi, hnodup⟩ := List.nodup_cons.1 hnodup
    obtain ⟨t, ht, hunfolds⟩ := h i List.mem_cons_self
    have hkept : ∀ j, i ≠ j → (built.setIfInBounds i none)[j]? = built[j]? := fun j hj =>
      Array.getElem?_setIfInBounds_ne hj
    have hready : ∀ j ∈ is, Ready a (built.setIfInBounds i none) j := by
      intro j hj
      obtain ⟨u, hu, hunfolds'⟩ := h j (List.mem_cons_of_mem _ hj)
      exact ⟨u, by rw [hkept j (by rintro rfl; exact hi hj), hu], hunfolds'⟩
    obtain ⟨htaken, hrest⟩ := ih hnodup hready
    simp only [takeBuilt, ht]
    refine ⟨hunfolds.append htaken, fun j hj => ?_⟩
    rw [List.mem_cons, not_or] at hj
    rw [hrest j hj.2, hkept j (Ne.symm hj.1)]

/-- From number `n` on, every tree is ready but those that a parent has taken. -/
def Finished (a : Arena α) (n : Nat) (built : Array (Option (Tree α))) : Prop :=
  ∀ i, n ≤ i → i < a.size → (∀ j d, n ≤ j → a[j]? = some d → i ∉ d.children) → Ready a built i

theorem assembleFrom_finished (ha : a.Hierarchy) {n : Nat} (hn : n ≤ a.size)
    {built : Array (Option (Tree α))} (hsize : built.size = a.size) (h : Finished a n built) :
    Finished a 0 (assembleFrom a n built) := by
  induction n generalizing built with
  | zero => exact h
  | succ n ih =>
    have hd := Array.getElem?_eq_getElem (Nat.lt_of_succ_le hn)
    -- no other node has the children of this one
    have hchildren : ∀ i ∈ a[n].children, Ready a built i := by
      intro i hi
      refine h i (ha.lt_child hd hi) (ha.child_lt hd hi) fun j d hj hdj hmem => ?_
      have hnj := ha.unique hd hdj hi hmem
      omega
    obtain ⟨htaken, hrest⟩ := takeBuilt_of_ready (ha.nodup hd) hchildren
    have hsize' : (takeBuilt a[n].children built).2.size = a.size := by rw [size_takeBuilt, hsize]
    rw [assembleFrom, hd]
    refine ih (Nat.le_of_succ_le hn) (by rw [Array.size_setIfInBounds, hsize']) ?_
    intro i hi hlt hparents
    by_cases heq : i = n
    · subst heq
      refine ⟨.node a[i].label (takeBuilt a[i].children built).1, ?_, .cons hd htaken .nil⟩
      rw [Array.getElem?_setIfInBounds_self, if_pos (by omega)]
    · obtain ⟨t, ht, hunfolds⟩ := h i (by omega) hlt fun j d hj => hparents j d (by omega)
      refine ⟨t, ?_, hunfolds⟩
      rw [Array.getElem?_setIfInBounds_ne (Ne.symm heq), hrest i (hparents n _ (Nat.le_refl n) hd),
        ht]

/-- The tree of an arena is what its first node unfolds to. -/
theorem assemble?_unfolds (ha : a.Hierarchy) (hpos : 0 < a.size) :
    ∃ t, a.assemble? = some t ∧ Unfolds a [0] [t] := by
  have hfinished : Finished a 0 (assembleFrom a a.size (Array.replicate a.size none)) :=
    assembleFrom_finished ha (Nat.le_refl _) Array.size_replicate fun i hi hlt => by omega
  obtain ⟨t, ht, hunfolds⟩ := hfinished 0 (Nat.le_refl 0) hpos fun j d _ hd hmem =>
    absurd (ha.lt_child hd hmem) (Nat.not_lt_zero j)
  exact ⟨t, by rw [assemble?, ht]; rfl, hunfolds⟩

end TopDown.Arena
