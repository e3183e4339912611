import TopDown.Analysis.First

/-!
# FOLLOW sets

* `FollowSet` : the terminals that can stand behind a nonterminal, and whether the end can;
* `occurrences` : the nonterminals of a body, each with what stands behind it;
* `followSets` : the sets of all nonterminals, grown in rounds like the FIRST sets.
-/

namespace TopDown

/-- What can stand behind a nonterminal. -/
structure FollowSet where
  /-- Ascending numbers of terminals. -/
  terms : List Nat
  atEnd : Bool
  deriving DecidableEq

namespace FollowSet

def empty : FollowSet := ⟨[], false⟩

def union (s t : FollowSet) : FollowSet :=
  ⟨Ascending.union s.terms t.terms, s.atEnd || t.atEnd⟩

end FollowSet

/-- Every nonterminal of a body with the symbols behind it. -/
def occurrences : List Symbol → List (Nat × List Symbol)
  | [] => []
  | .nonterminal a :: rest => (a, rest) :: occurrences rest
  | _ :: rest => occurrences rest

namespace Grammar

/-- What an occurrence in a production of `lhs` adds to FOLLOW of its nonterminal: FIRST of what
stands behind it and, if that may vanish, all that follows `lhs`. -/
def addFollow (first : List FirstSet) (lhs : Nat) (follow : List FollowSet)
    (occurrence : Nat × List Symbol) : List FollowSet :=
  let behind := firstOf first occurrence.2
  let inherited :=
    if behind.nullable ∧ occurrence.1 ≠ lhs then follow.getD lhs .empty else .empty
  follow.modify occurrence.1 fun s => (s.union ⟨behind.terms, false⟩).union inherited

/-- One round over all occurrences in all productions. -/
def followRound (g : Grammar) (first : List FirstSet) (follow : List FollowSet) : List FollowSet :=
  g.productions.foldl (fun follow p => (occurrences p.body).foldl (addFollow first p.lhs) follow)
    follow

/-- The FOLLOW sets of all nonterminals. At first only the end follows the start symbol. -/
def followSets (g : Grammar) (first : List FirstSet) : List FollowSet :=
  settle (g.followRound first) g.rounds
    ((List.replicate g.nonterminals.length FollowSet.empty).modify g.start fun _ => ⟨[], true⟩)

end Grammar

end TopDown
