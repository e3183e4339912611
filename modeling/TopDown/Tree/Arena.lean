import TopDown.Tree.Basic

/-!
# Trees under construction

A tree that is still growing is an array of drafts, which know their children by number. A child
always comes behind its parent, and the root is the first draft, so a finished tree is put together
from the back.

* `Draft`, `Arena` : labels with the numbers of their children;
* `Arena.add`, `Arena.adopt`, `Arena.attach` : how an arena grows;
* `Arena.assemble?` : the tree of an arena.
-/

namespace TopDown

/-- A node whose children are given by number. -/
structure Draft (α : Type) where
  label : α
  children : List Nat
  deriving DecidableEq

abbrev Arena (α : Type) := Array (Draft α)

namespace Arena

variable {α : Type}

/-- Adds a node without children. -/
def add (a : Arena α) (label : α) : Arena α := a.push ⟨label, []⟩

/-- Makes the node `child` the last child of `parent`. -/
def adopt (a : Arena α) (parent child : Nat) : Arena α :=
  a.modify parent fun d => { d with children := d.children ++ [child] }

/-- Adds a node as the last child of `parent`, and gives its number. -/
def attach (a : Arena α) (parent : Nat) (label : α) : Nat × Arena α :=
  let child := a.size
  (child, (a.add label).adopt parent child)

/-- Changes the label of a node. -/
def relabel (a : Arena α) (number : Nat) (f : α → α) : Arena α :=
  a.modify number fun d => { d with label := f d.label }

/-- Takes finished trees out of `built`, in order. -/
def takeBuilt : List Nat → Array (Option (Tree α)) → List (Tree α) × Array (Option (Tree α))
  | [], built => ([], built)
  | i :: is, built =>
    match built[i]? with
    | some (some t) =>
      let (ts, built) := takeBuilt is (built.setIfInBounds i none)
      (t :: ts, built)
    | _ => takeBuilt is built

/-- Finishes the drafts below number `n`, from the last to the first. -/
def assembleFrom (a : Arena α) : Nat → Array (Option (Tree α)) → Array (Option (Tree α))
  | 0, built => built
  | i + 1, built =>
    match a[i]? with
    | none => assembleFrom a i built
    | some d =>
      let (children, built) := takeBuilt d.children built
      assembleFrom a i (built.setIfInBounds i (some (.node d.label children)))

/-- The tree whose root is the first draft. -/
def assemble? (a : Arena α) : Option (Tree α) :=
  ((assembleFrom a a.size (Array.replicate a.size none))[0]?).join

end Arena

end TopDown
