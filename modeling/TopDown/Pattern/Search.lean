import TopDown.Pattern.Parse
import TopDown.Pattern.Program

/-!
# Searching with patterns

All ways to match are followed at once, character by character, in order of preference. Of two
ways that meet in one instruction at one place only the preferred one goes on, so a search takes
time in proportion to the text and the program.

* `Program.follow` : the instructions that wait for a character, reached from a list of
  instructions without reading any, in order of preference; nothing after an accepting one counts;
* `Program.matchAt` : the end of the preferred match that begins at a place;
* `Program.find` : the end of the preferred match that begins at the first possible place;
* `anchoredText`, `compile?` : the program of a pattern that is to match at the start;
* `Engine` : any way to compile and search; `engine` : the one by programs.
-/

namespace TopDown.Pattern

/-- What is reached without reading: the sets and targets that wait for a character, last first,
and whether a match ends here. -/
structure Reached where
  waiting : List (CharSet × Nat)
  accepted : Bool
  /-- The instructions seen at this place are marked with its number. -/
  marks : Array Nat

/-- Follows the instructions on `stack`. Each instruction is followed once a place, which takes at
most one step for every entry of the stack and two for every instruction. -/
def Program.follow (p : Program) (before after : Option Char) (place : Nat) :
    Nat → List Nat → Reached → Reached
  | 0, _, r => r
  | _, [], r => r
  | n + 1, i :: stack, r =>
    if r.marks[i]?.getD place = place then p.follow before after place n stack r
    else
      let r := { r with marks := r.marks.setIfInBounds i place }
      match p.code[i]? with
      | none => p.follow before after place n stack r
      | some .accept => { r with accepted := true }
      | some (.one s next) =>
        p.follow before after place n stack { r with waiting := (s, next) :: r.waiting }
      | some (.test l next) =>
        if l.holds before after then p.follow before after place n (next :: stack) r
        else p.follow before after place n stack r
      | some (.choose first second) =>
        p.follow before after place n (first :: second :: stack) r

/-- What the instructions in `live` reach at a place. -/
def Program.reach (p : Program) (before after : Option Char) (place : Nat) (live : List Nat)
    (marks : Array Nat) : Reached :=
  p.follow before after (place + 1) (live.length + 2 * p.code.size) live ⟨[], false, marks⟩

/-- The instructions that go on after reading `c`. -/
def Reached.after (r : Reached) (c : Char) : List Nat :=
  r.waiting.reverse.filterMap fun (s, next) => if s.has c then some next else none

/-- Reads on from a place with the instructions in `live`; `best` is the end of the best match so
far, in characters. -/
def Program.advance (p : Program) (before : Option Char) (place : Nat) (live : List Nat)
    (marks : Array Nat) (best : Option Nat) : List Char → Option Nat
  | [] => if (p.reach before none place live marks).accepted then some place else best
  | c :: cs =>
    if live.isEmpty then best
    else
      let r := p.reach before (some c) place live marks
      p.advance (some c) (place + 1) (r.after c) r.marks
        (if r.accepted then some place else best) cs

/-- The end of the preferred match that begins at `place`. -/
def Program.matchAt (p : Program) (before : Option Char) (place : Nat) (rest : List Char) :
    Option Nat :=
  p.advance before place [p.entry] (Array.replicate p.code.size 0) none rest

/-- The end of the preferred match that begins at `place` or, failing that, at the next place. -/
def Program.findFrom (p : Program) (before : Option Char) (place : Nat) : List Char → Option Nat
  | [] => p.matchAt before place []
  | c :: cs =>
    match p.matchAt before place (c :: cs) with
    | some stop => some stop
    | none => p.findFrom (some c) (place + 1) cs

/-- The end of the match in a text, in characters. -/
def Program.find (p : Program) (text : List Char) : Option Nat :=
  if p.isAnchored then p.matchAt none 0 text else p.findFrom none 0 text

/-- The text of a pattern that is to match at the start only. It is put together before it is
read, so an unbalanced parenthesis in the pattern can close the group. -/
def anchoredText (pattern : String) : String := "^(?:" ++ pattern ++ ")"

/-- The program of a pattern text, unless that is malformed. -/
def compileText? (text : String) : Option Program := (Expr.parse? text.toList).map Program.ofExpr

/-- The program of a pattern, anchored, unless that is malformed. -/
def compile? (pattern : String) : Option Program := compileText? (anchoredText pattern)

/-- A way to compile the text of a pattern, unless that is malformed, to the search for it: the end
of the match in a text, in characters. -/
abbrev Engine := String → Option (List Char → Option Nat)

/-- Searches with the program of the pattern. -/
def engine : Engine := fun text => (compileText? text).map Program.find

end TopDown.Pattern
