/-!
# Ascending lists as sets of numbers

* `Ascending.insert`, `Ascending.union` : insertion and union, which keep a list ascending;
* `mem_insert`, `mem_union`, `pairwise_insert`, `pairwise_union` : what they do.
-/

namespace TopDown.Ascending

/-- Inserts a number in its place, unless it is there already. -/
def insert (t : Nat) : List Nat → List Nat
  | [] => [t]
  | x :: xs => if t < x then t :: x :: xs else if t = x then x :: xs else x :: insert t xs

/-- All numbers of both lists; `t` must be ascending. -/
def union (s t : List Nat) : List Nat := s.foldr insert t

@[simp] theorem mem_insert {t u : Nat} {s : List Nat} : u ∈ insert t s ↔ u = t ∨ u ∈ s := by
  induction s with
  | nil => simp [insert]
  | cons x xs ih =>
    simp only [insert]
    split
    · simp
    · split
      · rename_i h
        subst h
        simp
      · simp only [List.mem_cons, ih]
        constructor <;> (rintro (h | h | h) <;> simp [h])

@[simp] theorem mem_union {u : Nat} {s t : List Nat} : u ∈ union s t ↔ u ∈ s ∨ u ∈ t := by
  induction s with
  | nil => simp [union]
  | cons x xs ih =>
    have : union (x :: xs) t = insert x (union xs t) := rfl
    simp only [this, mem_insert, ih, List.mem_cons, or_assoc]

theorem pairwise_insert {t : Nat} {s : List Nat} (h : s.Pairwise (· < ·)) :
    (insert t s).Pairwise (· < ·) := by
  induction s with
  | nil => simp [insert]
  | cons x xs ih =>
    obtain ⟨hx, hxs⟩ := List.pairwise_cons.1 h
    simp only [insert]
    split
    · rename_i htx
      exact List.pairwise_cons.2 ⟨fun y hy => by
        rcases List.mem_cons.1 hy with rfl | hy
        · exact htx
        · exact Nat.lt_trans htx (hx y hy), h⟩
    · split
      · exact h
      · refine List.pairwise_cons.2 ⟨fun y hy => ?_, ih hxs⟩
        rcases mem_insert.1 hy with rfl | hy
        · omega
        · exact hx y hy

theorem pairwise_union {s t : List Nat} (h : t.Pairwise (· < ·)) :
    (union s t).Pairwise (· < ·) := by
  induction s with
  | nil => exact h
  | cons x xs ih => exact pairwise_insert ih

end TopDown.Ascending
