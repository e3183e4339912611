import Mathlib.Data.List.Perm.Basic
import TopDown.Tree.Basic

/-!
# What the walks over a tree compute

The walks keep a list of what is still to be visited. What they make of a list is put together from
what they make of its parts, and so what they make of a node from what they make of its children.

* `Tree.collectFrom_append`, `Tree.collect_node` : a node's own label comes before what the children
  hold, from left to right;
* `Tree.depthFrom_append`, `Tree.depthFrom_raise`, `Tree.depth_node` : a node is one level deeper
  than the deepest of its children; `Tree.succ_lt_depth_node` : so one of them is deep if it is.
-/

namespace TopDown.Tree

variable {α β : Type}

/-! ## Labels -/

theorem collectFrom_append (f : α → Option β) (xs ys : List (Tree α)) :
    collectFrom f (xs ++ ys) = collectFrom f xs ++ collectFrom f ys := by
  fun_induction collectFrom f xs with
  | case1 => rfl
  | case2 label children rest b hb ih =>
    rw [List.cons_append, collectFrom, hb, ← List.append_assoc]
    simp only [ih, List.cons_append]
  | case3 label children rest hb ih =>
    rw [List.cons_append, collectFrom, hb, ← List.append_assoc]
    exact ih

theorem collectFrom_eq (f : α → Option β) (ts : List (Tree α)) :
    collectFrom f ts = ts.flatMap (collect f) := by
  induction ts with
  | nil => rw [collectFrom, List.flatMap_nil]
  | cons t ts ih => rw [← List.singleton_append, collectFrom_append, ih]; rfl

/-- A node's own label comes before what its children hold, from left to right. -/
theorem collect_node (f : α → Option β) (label : α) (children : List (Tree α)) :
    collect f (node label children) = (f label).toList ++ children.flatMap (collect f) := by
  rw [collect, collectFrom, List.append_nil, collectFrom_eq]
  cases f label <;> rfl

/-! ## Levels -/

theorem depthFrom_append (deepest : Nat) (xs ys : List (Tree α × Nat)) :
    depthFrom deepest (xs ++ ys) = depthFrom (depthFrom deepest xs) ys := by
  fun_induction depthFrom deepest xs with
  | case1 => rfl
  | case2 deepest label children level rest ih =>
    rw [List.cons_append, depthFrom, ← List.append_assoc]
    exact ih

theorem depthFrom_max (least deepest : Nat) (pending : List (Tree α × Nat)) :
    depthFrom (max least deepest) pending = max least (depthFrom deepest pending) := by
  fun_induction depthFrom deepest pending with
  | case1 => rw [depthFrom]
  | case2 deepest label children level rest ih => rw [depthFrom, Nat.max_assoc, ih]

/-- Trees that all stand some levels further down reach that many levels deeper. -/
theorem depthFrom_raise (k deepest : Nat) (pending : List (Tree α × Nat)) :
    depthFrom (deepest + k) (pending.map fun (t, level) => (t, level + k)) =
      depthFrom deepest pending + k := by
  fun_induction depthFrom deepest pending with
  | case1 => rw [List.map_nil, depthFrom]
  | case2 deepest label children level rest ih =>
    have hlevel : (onLevel (level + 1) children).map (fun (t, level) => (t, level + k)) =
        onLevel (level + k + 1) children := by
      simp only [onLevel, List.map_map, Function.comp_def, Nat.add_right_comm]
    rw [List.map_append, List.map_reverse, hlevel, ← Nat.add_max_add_right] at ih
    rw [List.map_cons, depthFrom, ih]

theorem depthFrom_onLevel_one (ts : List (Tree α)) :
    depthFrom 0 (onLevel 1 ts) = (ts.map depth).foldr max 0 := by
  induction ts with
  | nil => rw [onLevel, List.map_nil, depthFrom]; rfl
  | cons t ts ih =>
    have hcons : onLevel 1 (t :: ts) = [(t, 1)] ++ onLevel 1 ts := rfl
    rw [hcons, depthFrom_append, ← Nat.max_zero (depthFrom 0 [(t, 1)]), depthFrom_max, ih]
    rfl

/-- A node is one level deeper than the deepest of its children. -/
theorem depth_node (label : α) (children : List (Tree α)) :
    depth (node label children) = (children.map depth).foldr max 0 + 1 := by
  have hraise := depthFrom_raise 1 0 (onLevel 1 children.reverse)
  have hlevel : (onLevel 1 children.reverse).map (fun (t, level) => (t, level + 1)) =
      (onLevel 2 children).reverse := by
    simp only [onLevel, List.map_map, List.map_reverse, Function.comp_def]
  rw [hlevel, depthFrom_onLevel_one, (children.reverse_perm.map depth).foldr_op_eq] at hraise
  rw [depth, depthFrom, List.append_nil]
  exact hraise

theorem lt_foldr_max_depth {n : Nat} {ts : List (Tree α)} :
    n < (ts.map depth).foldr max 0 ↔ ∃ t ∈ ts, n < depth t := by
  induction ts with
  | nil => simp
  | cons t ts ih =>
    simp only [List.map_cons, List.foldr_cons, List.mem_cons, exists_eq_or_imp, ← ih]
    omega

/-- A node has levels below `n + 1` if and only if one of its children has levels below `n`. -/
theorem succ_lt_depth_node {n : Nat} {label : α} {children : List (Tree α)} :
    n + 1 < depth (node label children) ↔ ∃ t ∈ children, n < depth t := by
  rw [depth_node, Nat.add_lt_add_iff_right, lt_foldr_max_depth]

theorem depth_pos (t : Tree α) : 0 < depth t := by
  cases t
  rw [depth_node]
  exact Nat.succ_pos _

end TopDown.Tree
