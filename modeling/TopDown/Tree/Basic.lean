/-!
# Ordered trees

* `Tree` : a tree with a label at every node;
* `Tree.collect` : what the labels hold, from left to right, a node before its children;
* `Tree.depth` : the number of levels;
* `Tree.preorder` : the labels with their levels, each before those below it.

All three walks keep the trees that are still to be visited in a list, so a deep tree needs no deep
recursion.
-/

namespace TopDown

/-- A node with its label and the trees below it. -/
inductive Tree (α : Type) where
  | node (label : α) (children : List (Tree α))

namespace Tree

variable {α β : Type}

def label : Tree α → α
  | node label _ => label

def children : Tree α → List (Tree α)
  | node _ children => children

/-- The number of nodes in a list of trees. -/
def total : List (Tree α) → Nat
  | [] => 0
  | node _ children :: rest => total children + total rest + 1

theorem total_append (xs ys : List (Tree α)) : total (xs ++ ys) = total xs + total ys := by
  induction xs with
  | nil => simp [total]
  | cons x xs ih =>
    cases x
    simp only [List.cons_append, total, ih]
    omega

theorem total_reverse (xs : List (Tree α)) : total xs.reverse = total xs := by
  induction xs with
  | nil => rfl
  | cons x xs ih =>
    cases x
    simp only [List.reverse_cons, total_append, ih, total]
    omega

/-- What the labels in `pending` and below hold, left to right. -/
def collectFrom (f : α → Option β) (pending : List (Tree α)) : List β :=
  match pending with
  | [] => []
  | node label children :: rest =>
    match f label with
    | some b => b :: collectFrom f (children ++ rest)
    | none => collectFrom f (children ++ rest)
termination_by total pending
decreasing_by all_goals simp only [total_append, total]; omega

/-- What the labels of a tree hold, left to right. -/
def collect (f : α → Option β) (t : Tree α) : List β := collectFrom f [t]

/-- Trees that all stand on one level. -/
def onLevel (level : Nat) (ts : List (Tree α)) : List (Tree α × Nat) := ts.map (·, level)

@[simp] theorem map_fst_onLevel (level : Nat) (ts : List (Tree α)) :
    (onLevel level ts).map Prod.fst = ts := by
  simp [onLevel, Function.comp_def]

/-- The larger of `deepest` and the deepest level at or below the trees in `pending`, which stand on
the levels given with them. Of the children of a node the last is visited first. -/
def depthFrom (deepest : Nat) (pending : List (Tree α × Nat)) : Nat :=
  match pending with
  | [] => deepest
  | (node _ children, level) :: rest =>
    depthFrom (max deepest level) ((onLevel (level + 1) children).reverse ++ rest)
termination_by total (pending.map Prod.fst)
decreasing_by
  simp only [List.map_append, List.map_reverse, map_fst_onLevel, List.map_cons, total_append,
    total_reverse, total]
  omega

/-- The levels from the root down to its deepest leaf. -/
def depth (t : Tree α) : Nat := depthFrom 0 [(t, 1)]

/-- The labels in `pending` and below, with their levels, each before those below it. -/
def preorderFrom (pending : List (Tree α × Nat)) : List (α × Nat) :=
  match pending with
  | [] => []
  | (node label children, level) :: rest =>
    (label, level) :: preorderFrom (onLevel (level + 1) children ++ rest)
termination_by total (pending.map Prod.fst)
decreasing_by
  simp only [List.map_append, map_fst_onLevel, List.map_cons, total_append, total]
  omega

/-- All labels with their levels, the root on level one. -/
def preorder (t : Tree α) : List (α × Nat) := preorderFrom [(t, 1)]

end Tree

end TopDown
