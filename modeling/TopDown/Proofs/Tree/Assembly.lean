import TopDown.Tree.Arena

/-!
# Labels and assembly

Putting a tree together does not look at labels.

* `Tree.map` : a tree with every label changed; `Arena.mapLabels` : an arena with every label
  changed;
* `mapLabels_add`, `mapLabels_attach`, `mapLabels_relabel` : arenas grow alike under other labels;
* `assemble?_mapLabels` : so do the trees of arenas;
* `exists_assemble?` : an arena with a node has a tree.
-/

namespace TopDown

variable {α β : Type} (f : α → β)

namespace Tree

mutual

/-- The tree with every label changed. -/
def map : Tree α → Tree β
  | node label children => node (f label) (mapAll children)

def mapAll : List (Tree α) → List (Tree β)
  | [] => []
  | t :: ts => map t :: mapAll ts

end

theorem mapAll_eq (ts : List (Tree α)) : mapAll f ts = ts.map (map f) := by
  induction ts with
  | nil => rfl
  | cons t ts ih => rw [mapAll, ih, List.map_cons]

theorem map_node (label : α) (children : List (Tree α)) :
    map f (node label children) = node (f label) (children.map (map f)) := by
  rw [map, mapAll_eq]

end Tree

/-- The draft with its label changed. -/
def Draft.map (d : Draft α) : Draft β := ⟨f d.label, d.children⟩

namespace Arena

/-- The arena with every label changed. -/
def mapLabels (a : Arena α) : Arena β := a.map (Draft.map f)

/-! ## Growth -/

@[simp] theorem size_mapLabels (a : Arena α) : (a.mapLabels f).size = a.size := Array.size_map

theorem mapLabels_add (a : Arena α) (label : α) :
    (a.add label).mapLabels f = (a.mapLabels f).add (f label) :=
  Array.map_push

/-- A change of drafts that commutes with the change of labels does so in an arena. -/
theorem mapLabels_modify (a : Arena α) (i : Nat) {change : Draft α → Draft α}
    {change' : Draft β → Draft β} (h : ∀ d, (change d).map f = change' (d.map f)) :
    mapLabels f (a.modify i change) = (a.mapLabels f).modify i change' := by
  apply Array.ext
  · simp [mapLabels]
  · intro j hj hj'
    simp only [mapLabels, Array.getElem_map, Array.getElem_modify]
    split
    · exact h _
    · rfl

theorem mapLabels_adopt (a : Arena α) (parent child : Nat) :
    (a.adopt parent child).mapLabels f = (a.mapLabels f).adopt parent child :=
  mapLabels_modify f a parent fun _ => rfl

theorem mapLabels_relabel (a : Arena α) (i : Nat) (change : α → α) (change' : β → β)
    (h : ∀ x, f (change x) = change' (f x)) :
    (a.relabel i change).mapLabels f = (a.mapLabels f).relabel i change' :=
  mapLabels_modify f a i fun d => by simp [Draft.map, h]

theorem mapLabels_attach (a : Arena α) (parent : Nat) (label : α) :
    (a.mapLabels f).attach parent (f label) =
      ((a.attach parent label).1, (a.attach parent label).2.mapLabels f) := by
  simp only [attach, mapLabels_adopt, mapLabels_add, size_mapLabels]

theorem size_relabel (a : Arena α) (i : Nat) (change : α → α) :
    (a.relabel i change).size = a.size :=
  Array.size_modify

theorem size_attach (a : Arena α) (parent : Nat) (label : α) :
    (a.attach parent label).2.size = a.size + 1 := by
  simp [attach, adopt, add]

/-! ## Assembly -/

/-- Finished trees with every label changed. -/
def mapBuilt (built : Array (Option (Tree α))) : Array (Option (Tree β)) :=
  built.map (Option.map (Tree.map f))

theorem mapBuilt_setIfInBounds (built : Array (Option (Tree α))) (i : Nat) (t : Option (Tree α)) :
    mapBuilt f (built.setIfInBounds i t) =
      (mapBuilt f built).setIfInBounds i (t.map (Tree.map f)) :=
  Array.map_setIfInBounds

theorem takeBuilt_map (is : List Nat) (built : Array (Option (Tree α))) :
    takeBuilt is (mapBuilt f built) =
      ((takeBuilt is built).1.map (Tree.map f), mapBuilt f (takeBuilt is built).2) := by
  induction is generalizing built with
  | nil => rfl
  | cons i is ih =>
    have hlook : (mapBuilt f built)[i]? = built[i]?.map (Option.map (Tree.map f)) :=
      Array.getElem?_map
    rw [takeBuilt, takeBuilt, hlook]
    match built[i]? with
    | none => exact ih built
    | some none => exact ih built
    | some (some t) =>
      simp only [Option.map_some]
      have hset := mapBuilt_setIfInBounds f built i none
      rw [Option.map_none] at hset
      rw [← hset, ih]
      rfl

theorem assembleFrom_mapLabels (a : Arena α) (n : Nat) (built : Array (Option (Tree α))) :
    assembleFrom (a.mapLabels f) n (mapBuilt f built) = mapBuilt f (assembleFrom a n built) := by
  induction n generalizing built with
  | zero => rfl
  | succ i ih =>
    have hlook : (a.mapLabels f)[i]? = a[i]?.map (Draft.map f) := Array.getElem?_map
    rw [assembleFrom, assembleFrom, hlook]
    cases a[i]? with
    | none => exact ih built
    | some d =>
      simp only [Option.map_some, Draft.map]
      rw [takeBuilt_map, ← ih, mapBuilt_setIfInBounds, Option.map_some, Tree.map_node]

/-- The tree of an arena with other labels is the tree with these labels. -/
theorem assemble?_mapLabels (a : Arena α) :
    (a.mapLabels f).assemble? = a.assemble?.map (Tree.map f) := by
  have hnone : mapBuilt f (Array.replicate a.size none) = Array.replicate a.size none := by
    simp [mapBuilt]
  unfold assemble?
  rw [size_mapLabels, ← hnone, assembleFrom_mapLabels, mapBuilt, Array.getElem?_map]
  cases (assembleFrom a a.size (Array.replicate a.size none))[0]? with
  | none => rfl
  | some t => rfl

variable {f}

theorem size_takeBuilt (is : List Nat) (built : Array (Option (Tree α))) :
    (takeBuilt is built).2.size = built.size := by
  induction is generalizing built with
  | nil => rfl
  | cons i is ih =>
    rw [takeBuilt]
    split
    · simp only [ih, Array.size_setIfInBounds]
    · exact ih built

/-- The first draft is finished last, and so it stays finished. -/
theorem exists_assembleFrom {a : Arena α} (ha : 0 < a.size) (n : Nat)
    {built : Array (Option (Tree α))} (hbuilt : 0 < built.size) :
    ∃ t, (assembleFrom a (n + 1) built)[0]? = some (some t) := by
  induction n generalizing built with
  | zero =>
    obtain ⟨d, hd⟩ : ∃ d, a[0]? = some d := ⟨_, Array.getElem?_eq_getElem ha⟩
    refine ⟨.node d.label (takeBuilt d.children built).1, ?_⟩
    simp only [assembleFrom, hd]
    rw [Array.getElem?_setIfInBounds_self, if_pos (by rwa [size_takeBuilt])]
  | succ n ih =>
    rw [assembleFrom]
    split
    · exact ih hbuilt
    · exact ih (by rwa [Array.size_setIfInBounds, size_takeBuilt])

/-- An arena with a node has a tree. -/
theorem exists_assemble? {a : Arena α} (ha : 0 < a.size) : ∃ t, a.assemble? = some t := by
  obtain ⟨n, hn⟩ := Nat.exists_eq_add_one_of_ne_zero (Nat.ne_of_gt ha)
  have hbuilt : 0 < (Array.replicate a.size (none : Option (Tree α))).size := by simpa using ha
  obtain ⟨t, ht⟩ := exists_assembleFrom ha n hbuilt
  rw [← hn] at ht
  exact ⟨t, by rw [assemble?, ht]; rfl⟩

end Arena

end TopDown
