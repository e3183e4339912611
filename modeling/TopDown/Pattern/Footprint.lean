import TopDown.Pattern.Expr
import TopDown.Pattern.Octets

/-!
# The space that a pattern takes

A pattern is good for use only if the automata for it, one that reads forwards and one that reads
backwards, fit into a limited space. Both read octets and have repetitions written out. Neither is
built here: what counts is how many states they have, and how many transitions and branches those
hold.

* `Footprint` : the number of states and the space taken so far;
* `Footprint.addState`, `Footprint.addBranches` : more of it, unless the limit is passed;
* `Memo` : states that may be shared, found again by a checksum. Of two with one checksum only the
  later is remembered;
* `Footprint.addSet` : the states for one character of a set;
* `Footprint.addWords` : the states for a choice between literals, which share what they start with;
* `Footprint.addExpr` : the states for an expression. The result also says whether they end in a
  branching state, since going on from there takes one branch more;
* `Expr.fits` : both automata are within the limit.
-/

namespace TopDown.Pattern

/-- The largest space that the states of an automaton may take. -/
def spaceLimit : Nat := 10 * Nat.pow 2 20

/-- The space of a state, of a transition and of a branch. -/
def stateSpace : Nat := 32

def transitionSpace : Nat := 8

def branchSpace : Nat := 4

/-- The states of an automaton and the space that they take. -/
structure Footprint where
  states : Nat := 0
  space : Nat := 0

namespace Footprint

/-- A footprint that is within the limit. -/
def check (f : Footprint) : Option Footprint := if f.space ≤ spaceLimit then some f else none

/-- Adds some states with as many transitions in all. -/
def addStates (count transitions : Nat) (f : Footprint) : Option Footprint :=
  check ⟨f.states + count, f.space + stateSpace * count + transitionSpace * transitions⟩

def addState (transitions : Nat) (f : Footprint) : Option Footprint := f.addStates 1 transitions

def addBranches (count : Nat) (f : Footprint) : Option Footprint :=
  check { f with space := f.space + branchSpace * count }

/-- Adds the branch by which a branching state goes on. -/
def goOn (branching : Bool) (f : Footprint) : Option Footprint :=
  f.addBranches (if branching then 1 else 0)

end Footprint

/-! ## Shared states -/

/-- A checksum of some numbers, from zero up to `slots`. -/
def checksum (slots : UInt64) (ns : List Nat) : Nat :=
  (ns.foldl (fun h n => (h ^^^ n.toUInt64) * 1099511628211) 14695981039346656037 % slots).toNat

/-- States by what they are made of. -/
abbrev Memo := Array (Option (List Nat × Nat))

namespace Memo

def empty (slots : Nat) : Memo := Array.replicate slots none

def find? (memo : Memo) (slot : Nat) (key : List Nat) : Option Nat :=
  match memo[slot]? with
  | some (some (k, state)) => if k = key then some state else none
  | _ => none

def remember (memo : Memo) (slot : Nat) (key : List Nat) (state : Nat) : Memo :=
  memo.setIfInBounds slot (some (key, state))

end Memo

/-- A footprint and the states that may be shared. -/
structure Sharing where
  footprint : Footprint
  memo : Memo

namespace Sharing

/-- The number of a state with these transitions. -/
def state (transitions : List (Nat × Nat × Nat)) (s : Sharing) : Option (Nat × Sharing) :=
  let key := transitions.flatMap fun (lo, hi, next) => [lo, hi, next]
  let slot := checksum 10000 key
  match s.memo.find? slot key with
  | some n => some (n, s)
  | none =>
    match s.footprint.addState transitions.length with
    | some f => some (s.footprint.states, ⟨f, s.memo.remember slot key s.footprint.states⟩)
    | none => none

/-- The number of the state from which the sequences lead to `target`. Sequences that start with the
same range share the state behind it. -/
def node (target : Nat) : Nat → List OctetRanges → Sharing → Option (Nat × Sharing)
  | 0, _, s => some (target, s)
  | depth + 1, sequences, s =>
    let groups := sequences.splitBy fun a b => a.head? == b.head?
    let step := fun (acc : Option (List (Nat × Nat × Nat) × Sharing)) (group : List OctetRanges) =>
      match acc, group with
      | some (transitions, s), ((lo, hi) :: rest) :: _ =>
        let next :=
          if rest.isEmpty then some (target, s)
          else node target depth (group.map List.tail) s
        next.map fun (n, s) => ((lo, hi, n) :: transitions, s)
      | acc, _ => acc
    match groups.foldl step (some ([], s)) with
    | some (transitions, s) => s.state transitions.reverse
    | none => none

/-- The number of a state that reads one octet in a range and goes on with `next`. -/
def octet (range : Nat × Nat) (next : Nat) (s : Sharing) : Option (Nat × Sharing) :=
  let key := [next, range.1, range.2]
  let slot := checksum 1000 key
  match s.memo.find? slot key with
  | some n => some (n, s)
  | none =>
    match s.footprint.addState 0 with
    | some f => some (s.footprint.states, ⟨f, s.memo.remember slot key s.footprint.states⟩)
    | none => none

/-- The states that read a sequence from its end to its start. -/
def reversed : OctetRanges → Nat → Sharing → Option Sharing
  | [], _, s => some s
  | range :: rest, next, s => do
    let (n, s) ← s.octet range next
    reversed rest n s

/-- The states that read one of the sequences backwards, each with a branch that leads to it. -/
def allReversed (target : Nat) : List OctetRanges → Sharing → Option Sharing
  | [], s => some s
  | sequence :: rest, s => do
    let s ← reversed sequence target s
    let f ← s.footprint.addBranches 1
    allReversed target rest { s with footprint := f }

end Sharing

namespace Footprint

/-- The states for one character of a set. -/
def addSet (backwards : Bool) (set : CharSet) (f : Footprint) : Option Footprint :=
  if set.isBelow 128 then f.addStates 2 set.length
  else if backwards then do
    let f ← f.addStates 2 0
    let s ← Sharing.allReversed (f.states - 1) set.octetRanges ⟨f, .empty 1000⟩
    return s.footprint
  else do
    let target := f.states
    let f ← f.addState 0
    let (_, s) ← Sharing.node target 4 set.octetRanges ⟨f, .empty 10000⟩
    return s.footprint

/-! ## Choices between literals -/

/-- The words up to each end of a word, in order. What comes behind an end is less preferred than
the word that ends there, so it stands apart. `seen` says whether a word went on before, `ended`
whether one ended. -/
def splitAtEnds (seen ended : Bool) (now : List (List Nat)) :
    List (List Nat) → List (List (List Nat))
  | [] => [now.reverse]
  | [] :: words =>
    if ended && !seen then splitAtEnds seen ended now words
    else now.reverse :: splitAtEnds seen true [] words
  | word :: words => splitAtEnds true ended (word :: now) words

/-- The states behind a common start of words, given what follows it in each. -/
def addWordNode : Nat → List (List Nat) → Footprint → Option Footprint
  | 0, _, f => some f
  | depth + 1, words, f => do
    let chunks := splitAtEnds false false [] words
    let f ← chunks.foldlM (fun f chunk => do
      let heads := (chunk.filterMap List.head?).eraseDups
      let f ← heads.foldlM (fun f head =>
        let rests := (chunk.filter (·.head? == some head)).map List.tail
        if rests.all List.isEmpty then some f else addWordNode depth rests f) f
      match heads.length with
      | 0 => some f
      | 1 => f.addState 0
      | n => f.addState n) f
    let f ← f.addState 0
    f.addBranches ((chunks.filter (!·.isEmpty)).length + (chunks.length - 1))

/-- The states for a choice between literals. -/
def addWords (backwards : Bool) (words : List (List Char)) (f : Footprint) : Option Footprint := do
  let words := words.map fun w => if backwards then (w.flatMap octets).reverse else w.flatMap octets
  let f ← f.addState 0
  addWordNode (words.foldl (fun n w => max n w.length) 0 + 1) words f

/-! ## Repetitions -/

/-- Adds the states for something, and says whether they end in a branching state. -/
abbrev Step := Footprint → Option (Bool × Footprint)

/-- Something `n` times over. -/
def times (body : Step) : Nat → Step
  | 0, f => do
    let f ← f.addState 0
    return (false, f)
  | 1, f => body f
  | n + 2, f => do
    let (branching, f) ← body f
    let f ← f.goOn branching
    times body (n + 1) f

/-- Something up to `n` times, behind a state that is branching or not. -/
def optionalTurns (body : Step) : Nat → Bool → Step
  | 0, branching, f => some (branching, f)
  | n + 1, branching, f => do
    let f ← f.addState 0
    let (next, f) ← body f
    let f ← f.goOn branching
    let f ← f.addBranches 2
    optionalTurns body n next f

/-- Something once or not at all. -/
def optional (body : Step) : Step := fun f => do
  let f ← f.addState 0
  let (branching, f) ← body f
  let f ← f.addState 0
  let f ← f.addBranches 2
  let f ← f.goOn branching
  return (false, f)

/-- Something from `min` to `max` times. -/
def bounded (body : Step) (min max : Nat) : Step := fun f => do
  let (branching, f) ← times body min f
  let f ← f.addState 0
  let (branching, f) ← optionalTurns body (max - min) branching f
  let f ← f.goOn branching
  return (false, f)

/-- Something at least `min` times. If it can be empty, a loop that need not be entered has a state
of its own to pass it by. -/
def unbounded (body : Step) (consumes : Bool) : Nat → Step
  | 0, f => do
    if consumes then
      let f ← f.addState 0
      let (branching, f) ← body f
      let f ← f.addBranches 1
      let f ← f.goOn branching
      return (true, f)
    else
      let (branching, f) ← body f
      let f ← f.goOn branching
      let f ← f.addStates 3 0
      let f ← f.addBranches 4
      return (false, f)
  | 1, f => do
    let (branching, f) ← body f
    let f ← f.addState 0
    let f ← f.goOn branching
    let f ← f.addBranches 1
    return (true, f)
  | n + 2, f => do
    let (before, f) ← times body (n + 1) f
    let (branching, f) ← body f
    let f ← f.addState 0
    let f ← f.goOn before
    let f ← f.goOn branching
    let f ← f.addBranches 1
    return (true, f)

/-- A repetition. -/
def loop (body : Step) (consumes : Bool) (min : Nat) : Option Nat → Step
  | none => unbounded body consumes min
  | some max =>
    if min = 0 && max = 1 then optional body
    else if min = max then times body min
    else bounded body min max

end Footprint

/-! ## Expressions -/

/-- The characters of a literal. -/
def Expr.literal? : Expr → Option (List Char)
  | .literal cs => some cs
  | _ => none

namespace Footprint

mutual

/-- The states for an expression. -/
def addExpr (backwards : Bool) : Expr → Step
  | .empty, f => do
    let f ← f.addState 0
    return (false, f)
  | .literal cs, f => do
    let f ← f.addStates (cs.flatMap octets).length 0
    return (false, f)
  | .set s, f => do
    let f ← f.addSet backwards s
    return (false, f)
  | .look _, f => do
    let f ← f.addState 0
    return (false, f)
  | .group e, f => do
    if backwards then addExpr backwards e f
    else
      let f ← f.addState 0
      let (branching, f) ← addExpr backwards e f
      let f ← f.addState 0
      let f ← f.goOn branching
      return (false, f)
  | .loop e min max _, f => loop (addExpr backwards e) e.consumes min max f
  | .cat es, f => if backwards then addSequenceBackwards es f else addSequence es f
  | .alt es, f => do
    match es.mapM Expr.literal? with
    | some words =>
      let f ← f.addWords backwards words
      return (false, f)
    | none => addBranchesOf backwards 0 es f

def addSequence : List Expr → Step
  | [], f => do
    let f ← f.addState 0
    return (false, f)
  | [e], f => addExpr false e f
  | e :: es, f => do
    let (branching, f) ← addExpr false e f
    let f ← f.goOn branching
    addSequence es f

/-- A sequence read backwards begins with its last part. -/
def addSequenceBackwards : List Expr → Step
  | [], f => do
    let f ← f.addState 0
    return (false, f)
  | [e], f => addExpr true e f
  | e :: es, f => do
    let (branching, f) ← addSequenceBackwards es f
    let (last, f) ← addExpr true e f
    let f ← f.goOn branching
    return (last, f)

/-- The branches of a choice of which `made` are there already. The states that they start from and
come together in follow the second one. -/
def addBranchesOf (backwards : Bool) (made : Nat) : List Expr → Step
  | [], f => some (false, f)
  | e :: es, f => do
    let (branching, f) ← addExpr backwards e f
    let f ← if made = 1 then f.addStates 2 0 else some f
    let f ← f.addBranches 1
    let f ← f.goOn branching
    addBranchesOf backwards (made + 1) es f

end

/-- The footprint of the automaton for an expression. Unless a match must start where the automaton
does, it begins with a loop over all octets. Forwards, it also marks where the match starts and
ends. -/
def ofExpr? (backwards : Bool) (e : Expr) : Option Footprint := do
  let anchored := if backwards then e.endsAtEnd else e.startsAtStart
  let f : Footprint := {}
  let f ← if anchored then f.addState 0 else f.addStates 3 1
  let f ← if anchored then some f else f.addBranches 2
  let f ← if backwards then some f else f.addState 0
  let (branching, f) ← addExpr backwards e f
  let f ← f.addStates (if backwards then 1 else 2) 0
  f.goOn branching

end Footprint

/-- The automata for the expression are within the limit. -/
def Expr.fits (e : Expr) : Bool :=
  (Footprint.ofExpr? false e).isSome && (Footprint.ofExpr? true e).isSome

end TopDown.Pattern
