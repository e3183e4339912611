import TopDown.Analysis.Ascending
import TopDown.Grammar.Basic

/-!
# FIRST sets

* `FirstSet` : the terminals that can start what a sequence derives, and whether it derives the
  empty text;
* `firstOf` : the set of a sequence, given those of the nonterminals;
* `settle` : repeats a step until nothing changes;
* `firstSets` : the sets of all nonterminals. Every round but the last adds a terminal or a
  nullable mark to some set, so there are at most as many rounds as there are such facts.
-/

namespace TopDown

/-- What a sequence can start with. -/
structure FirstSet where
  /-- Ascending numbers of terminals. -/
  terms : List Nat
  nullable : Bool
  deriving DecidableEq

namespace FirstSet

def empty : FirstSet := ⟨[], false⟩

def union (s t : FirstSet) : FirstSet :=
  ⟨Ascending.union s.terms t.terms, s.nullable || t.nullable⟩

end FirstSet

/-- FIRST of a sequence of symbols. The empty sequence is nullable. -/
def firstOf (first : List FirstSet) : List Symbol → FirstSet
  | [] => ⟨[], true⟩
  | .terminal t :: _ => ⟨[t], false⟩
  | .nonterminal a :: rest =>
    let s := first.getD a .empty
    if s.nullable then
      let r := firstOf first rest
      ⟨Ascending.union s.terms r.terms, r.nullable⟩
    else ⟨s.terms, false⟩
  | .empty :: rest => firstOf first rest

/-- Repeats `f` until it changes nothing, at most `n` times. -/
def settle {α : Type} [DecidableEq α] (f : α → α) : Nat → α → α
  | 0, a => a
  | n + 1, a => if f a = a then a else settle f n (f a)

namespace Grammar

/-- Adds FIRST of a production's body to the set of its left-hand side. -/
def addFirst (first : List FirstSet) (p : Production) : List FirstSet :=
  first.modify p.lhs (·.union (firstOf first p.body))

/-- One round over all productions. -/
def firstRound (g : Grammar) (first : List FirstSet) : List FirstSet :=
  g.productions.foldl addFirst first

/-- One more than the number of facts that FIRST or FOLLOW sets can hold. -/
def rounds (g : Grammar) : Nat := g.nonterminals.length * (g.terminals.length + 1) + 1

/-- The FIRST sets of all nonterminals. -/
def firstSets (g : Grammar) : List FirstSet :=
  settle g.firstRound g.rounds (List.replicate g.nonterminals.length .empty)

end Grammar

end TopDown
