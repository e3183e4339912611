import Mathlib.Data.List.Forall2

/-!
# Traversals that can fail

* `bind_eq_ok`, `bind_eq_error` : two steps, one behind the other;
* `mapM_eq_ok`, `mapM_eq_some` : a list is mapped without a failure if and only if every element is;
* `mapM_eq_firstFailure`, `mapM_eq_error`, `foldlM_eq_error` : a traversal stops at the first of all
  its failures;
* `exists_of_mem_right` : every result comes from an element; `exists_mapM_iff` : all results are
  good if and only if every element has a good one;
* `foldlM_cons_eq_ok`, `foldlM_concat_eq_ok` : a fold without a failure, cut behind its first or in
  front of its last step;
* `foldlM_eq_some`, `mapM_eq_some_map` : a fold or a map whose steps are checked is the unchecked
  one, if no check fails;
* `forall_split_nil`, `forall_split_concat` : what holds of every element behind those before it,
  for a list that grows.
-/

namespace TopDown

variable {α β ε : Type}

/-- Two steps succeed if and only if the first does and then the second one. -/
theorem bind_eq_ok {x : Except ε α} {f : α → Except ε β} {b : β} :
    x >>= f = .ok b ↔ ∃ a, x = .ok a ∧ f a = .ok b := by
  cases x with
  | error e =>
    constructor
    · intro h
      cases h
    · rintro ⟨a, ha, -⟩
      cases ha
  | ok a =>
    constructor
    · exact fun h => ⟨a, rfl, h⟩
    · rintro ⟨a', ha, h⟩
      cases ha
      exact h

/-- Two steps fail at the first one, or behind it at the second one. -/
theorem bind_eq_error {x : Except ε α} {f : α → Except ε β} {e : ε} :
    x >>= f = .error e ↔ x = .error e ∨ ∃ a, x = .ok a ∧ f a = .error e := by
  cases x with
  | error e' =>
    constructor
    · intro h
      cases h
      exact .inl rfl
    · rintro (h | ⟨a, ha, -⟩)
      · cases h
        rfl
      · cases ha
  | ok a =>
    constructor
    · exact fun h => .inr ⟨a, rfl, h⟩
    · rintro (h | ⟨a', ha, h⟩)
      · cases h
      · cases ha
        exact h

theorem mapM_eq_ok {f : α → Except ε β} {xs : List α} {ys : List β} :
    xs.mapM f = .ok ys ↔ List.Forall₂ (fun x y => f x = .ok y) xs ys := by
  induction xs generalizing ys with
  | nil =>
    rw [List.mapM_nil, List.forall₂_nil_left_iff]
    exact ⟨fun h => (Except.ok.inj h).symm, fun h => by rw [h]; rfl⟩
  | cons x xs ih =>
    rw [List.mapM_cons, List.forall₂_cons_left_iff, bind_eq_ok]
    simp only [bind_eq_ok, ih]
    constructor
    · rintro ⟨y, hy, zs, hzs, h⟩
      exact ⟨y, zs, hy, hzs, (Except.ok.inj h).symm⟩
    · rintro ⟨y, zs, hy, hzs, rfl⟩
      exact ⟨y, hy, zs, hzs, rfl⟩

theorem mapM_eq_some {f : α → Option β} {xs : List α} {ys : List β} :
    xs.mapM f = some ys ↔ List.Forall₂ (fun x y => f x = some y) xs ys := by
  induction xs generalizing ys with
  | nil => simp [eq_comm]
  | cons x xs ih =>
    rw [List.mapM_cons, List.forall₂_cons_left_iff]
    simp only [Option.bind_eq_bind, Option.bind_eq_some_iff, Option.pure_def, Option.some.injEq]
    constructor
    · rintro ⟨y, hy, zs, hzs, rfl⟩
      exact ⟨y, zs, hy, ih.1 hzs, rfl⟩
    · rintro ⟨y, zs, hy, hzs, rfl⟩
      exact ⟨y, hy, zs, ih.2 hzs, rfl⟩

/-- The failure of an outcome. -/
def failure? : Except ε β → Option ε
  | .error e => some e
  | .ok _ => none

/-- A traversal stops at the first element that fails, and else collects all results. -/
theorem mapM_eq_firstFailure (f : α → Except ε β) (xs : List α) :
    xs.mapM f = match ((xs.map f).filterMap failure?).head? with
      | some e => .error e
      | none => .ok ((xs.map f).filterMap Except.toOption) := by
  induction xs with
  | nil => rfl
  | cons x xs ih =>
    rw [List.mapM_cons, List.map_cons, ih]
    cases hx : f x with
    | error e => rfl
    | ok y =>
      cases hfailures : ((xs.map f).filterMap failure?).head? with
      | some e =>
        simp only [List.filterMap_cons, failure?, hfailures]
        rfl
      | none =>
        simp only [List.filterMap_cons, failure?, hfailures, Except.toOption]
        rfl

/-- A list is split at its head, or behind it. -/
theorem exists_split_cons {P : List α → α → Prop} {x : α} {xs : List α} :
    (∃ before y after, x :: xs = before ++ y :: after ∧ P before y) ↔
      P [] x ∨ ∃ before y after, xs = before ++ y :: after ∧ P (x :: before) y := by
  constructor
  · rintro ⟨_ | ⟨z, before⟩, y, after, h, hy⟩
    · cases h
      exact .inl hy
    · cases h
      exact .inr ⟨before, y, after, rfl, hy⟩
  · rintro (hx | ⟨before, y, after, rfl, hy⟩)
    · exact ⟨[], x, xs, rfl, hx⟩
    · exact ⟨x :: before, y, after, rfl, hy⟩

/-- A traversal fails at an element that fails, if all elements in front of it succeed. -/
theorem mapM_eq_error {f : α → Except ε β} {xs : List α} {e : ε} :
    xs.mapM f = .error e ↔ ∃ before x after, xs = before ++ x :: after ∧
      (∀ y ∈ before, ∃ z, f y = .ok z) ∧ f x = .error e := by
  induction xs with
  | nil =>
    constructor
    · intro h
      cases h
    · rintro ⟨before, x, after, h, -⟩
      exact absurd h.symm (by simp)
  | cons x xs ih =>
    have htail (y : β) : (do let ys ← xs.mapM f; pure (y :: ys)) = Except.error e ↔
        xs.mapM f = .error e := by
      rw [bind_eq_error, or_iff_left]
      rintro ⟨ys, -, h⟩
      cases h
    rw [List.mapM_cons, bind_eq_error, exists_split_cons]
    simp only [htail, ih, List.forall_mem_cons]
    refine or_congr ⟨fun hfail => ⟨nofun, hfail⟩, And.right⟩ ?_
    constructor
    · rintro ⟨y, hx, before, x', after, hxs, hbefore, hfail⟩
      exact ⟨before, x', after, hxs, ⟨⟨y, hx⟩, hbefore⟩, hfail⟩
    · rintro ⟨before, x', after, hxs, ⟨⟨y, hx⟩, hbefore⟩, hfail⟩
      exact ⟨y, hx, before, x', after, hxs, hbefore, hfail⟩

theorem exists_of_mem_right {R : α → β → Prop} {xs : List α} {ys : List β}
    (h : List.Forall₂ R xs ys) {y : β} (hy : y ∈ ys) : ∃ x ∈ xs, R x y := by
  induction h with
  | nil => cases hy
  | cons hxy _ ih =>
    rcases List.mem_cons.1 hy with rfl | hy
    · exact ⟨_, List.mem_cons_self, hxy⟩
    · obtain ⟨x, hx, hxy⟩ := ih hy
      exact ⟨x, List.mem_cons_of_mem _ hx, hxy⟩

/-- A list is mapped to good results if and only if every element is. -/
theorem exists_mapM_iff {Q : β → Prop} {f : α → Except ε β} {xs : List α} :
    (∃ ys, xs.mapM f = .ok ys ∧ ∀ y ∈ ys, Q y) ↔ ∀ x ∈ xs, ∃ y, f x = .ok y ∧ Q y := by
  simp only [mapM_eq_ok]
  constructor
  · rintro ⟨ys, hys, hgood⟩ x hx
    obtain ⟨y, hy, hxy⟩ := exists_of_mem_right hys.flip hx
    exact ⟨y, hxy, hgood y hy⟩
  · intro h
    induction xs with
    | nil => exact ⟨[], .nil, fun y hy => absurd hy List.not_mem_nil⟩
    | cons x xs ih =>
      obtain ⟨hx, hxs⟩ := List.forall_mem_cons.1 h
      obtain ⟨y, hxy, hy⟩ := hx
      obtain ⟨ys, hys, hgood⟩ := ih hxs
      exact ⟨y :: ys, .cons hxy hys, List.forall_mem_cons.2 ⟨hy, hgood⟩⟩

theorem foldlM_cons_eq_ok {f : β → α → Except ε β} {x : α} {xs : List α} {b b' : β} :
    (x :: xs).foldlM f b = .ok b' ↔ ∃ c, f b x = .ok c ∧ xs.foldlM f c = .ok b' := by
  rw [List.foldlM_cons, bind_eq_ok]

theorem foldlM_concat_eq_ok {f : β → α → Except ε β} {x : α} {xs : List α} {b b' : β} :
    (xs ++ [x]).foldlM f b = .ok b' ↔ ∃ c, xs.foldlM f b = .ok c ∧ f c x = .ok b' := by
  rw [List.foldlM_append, bind_eq_ok]
  refine exists_congr fun c => and_congr_right fun _ => ?_
  rw [foldlM_cons_eq_ok]
  constructor
  · rintro ⟨d, hd, h⟩
    cases h
    exact hd
  · exact fun h => ⟨b', h, rfl⟩

/-- A fold fails at a step that fails, if all steps in front of it succeed. -/
theorem foldlM_eq_error {f : β → α → Except ε β} {xs : List α} {b : β} {e : ε} :
    xs.foldlM f b = .error e ↔ ∃ before x after c, xs = before ++ x :: after ∧
      before.foldlM f b = .ok c ∧ f c x = .error e := by
  simp only [exists_and_left]
  induction xs generalizing b with
  | nil =>
    constructor
    · intro h
      cases h
    · rintro ⟨before, x, after, h, -⟩
      exact absurd h.symm (by simp)
  | cons x xs ih =>
    rw [List.foldlM_cons, bind_eq_error, exists_split_cons]
    simp only [ih, foldlM_cons_eq_ok]
    refine or_congr ?_ ?_
    · constructor
      · exact fun hfail => ⟨b, rfl, hfail⟩
      · rintro ⟨c, hc, hfail⟩
        cases hc
        exact hfail
    · constructor
      · rintro ⟨b', hx, before, y, after, hxs, c, hc, hfail⟩
        exact ⟨before, y, after, hxs, c, ⟨b', hx, hc⟩, hfail⟩
      · rintro ⟨before, y, after, hxs, c, ⟨b', hx, hc⟩, hfail⟩
        exact ⟨b', hx, before, y, after, hxs, c, hc, hfail⟩

theorem foldlM_eq_some (Inv : β → Prop) {f : β → α → Option β} {f' : β → α → β} {xs : List α}
    (hstep : ∀ b, Inv b → ∀ x ∈ xs, f b x = some (f' b x) ∧ Inv (f' b x)) {b : β} (hb : Inv b) :
    xs.foldlM f b = some (xs.foldl f' b) ∧ Inv (xs.foldl f' b) := by
  induction xs generalizing b with
  | nil => exact ⟨rfl, hb⟩
  | cons x xs ih =>
    obtain ⟨hx, hxs⟩ := hstep b hb x List.mem_cons_self
    rw [List.foldlM_cons, hx, List.foldl_cons]
    exact ih (fun c hc y hy => hstep c hc y (List.mem_cons_of_mem x hy)) hxs

theorem mapM_eq_some_map {f : α → Option β} {f' : α → β} {xs : List α}
    (h : ∀ x ∈ xs, f x = some (f' x)) : xs.mapM f = some (xs.map f') := by
  rw [mapM_eq_some, List.forall₂_map_right_iff, List.forall₂_same]
  exact h

theorem forall_split_nil {P : List α → α → Prop} :
    ∀ before y after, [] = before ++ y :: after → P before y := by
  intro before y after h
  cases before <;> cases h

/-- Every element of a list that grows stands behind what stood there before it. -/
theorem forall_split_concat {P : List α → α → Prop} {xs : List α} {x : α}
    (hxs : ∀ before y after, xs = before ++ y :: after → P before y) (hx : P xs x) :
    ∀ before y after, xs ++ [x] = before ++ y :: after → P before y := by
  intro before y after h
  rcases List.eq_nil_or_concat after with rfl | ⟨after, z, rfl⟩
  · obtain ⟨rfl, hy⟩ := List.append_inj' h rfl
    cases hy
    exact hx
  · rw [List.concat_eq_append, ← List.cons_append, ← List.append_assoc] at h
    exact hxs before y after (List.append_inj' h rfl).1

end TopDown
