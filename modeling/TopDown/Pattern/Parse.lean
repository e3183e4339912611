import TopDown.Pattern.Class
import TopDown.Pattern.Footprint
import TopDown.Unicode.Property

/-!
# Reading patterns

A pattern is read from left to right with a stack of the groups that are still open.

* `Item` : an expression, how deep it nests, and whether it only sets flags;
* `PatternState` : the items of the current branch, the finished branches and the open groups;
* `patternStep` : reads one item, bracket, bar or repetition;
* `Expr.parse?` : the expression of a pattern. Refused are unbalanced brackets, repetitions of
  nothing, malformed counts, unknown escapes, classes and flags, look-around, references to groups,
  group names used twice, patterns that nest deeper than `nestLimit` and patterns whose automata
  take too much space.
-/

namespace TopDown.Pattern

open Text

/-- An expression in a branch. -/
structure Item where
  expr : Expr
  height : Nat
  /-- The item only switches flags, so there is nothing to repeat. -/
  isSwitch : Bool := false

/-- The items of a branch, last first, as one item. -/
def Item.ofBranch : List Item → Item
  | [] => ⟨.empty, 0, false⟩
  | [i] => { i with isSwitch := false }
  | is =>
    ⟨.sequence (is.reverse.map (·.expr)), is.foldl (fun h i => max h i.height) 0 + 1, false⟩

/-- The branches of a group, last first, as one item. -/
def Item.ofBranches : List Item → Item
  | [] => ⟨.empty, 0, false⟩
  | [i] => i
  | is =>
    ⟨.choice (is.reverse.map (·.expr)), is.foldl (fun h i => max h i.height) 0 + 1, false⟩

/-- A group that is still open: what stood before it, and the flags to go back to. -/
structure GroupFrame where
  items : List Item
  branches : List Item
  flags : Flags
  /-- The match of the group is kept. -/
  keeps : Bool

structure PatternState where
  flags : Flags := {}
  /-- The items of the current branch, last first. -/
  items : List Item := []
  /-- The finished branches of the current group, last first. -/
  branches : List Item := []
  /-- The open groups, innermost first. -/
  stack : List GroupFrame := []
  /-- The group names seen so far. -/
  names : List (List Char) := []

namespace PatternState

def push (st : PatternState) (i : Item) : PatternState := { st with items := i :: st.items }

/-- The current group as one item. -/
def group (st : PatternState) : Item := Item.ofBranches (Item.ofBranch st.items :: st.branches)

/-- Opens a group in which `flags` hold. -/
def openGroup (st : PatternState) (flags : Flags) (keeps : Bool) : PatternState :=
  { st with
    flags := flags, items := [], branches := [],
    stack := ⟨st.items, st.branches, st.flags, keeps⟩ :: st.stack }

def closeGroup (st : PatternState) : Option PatternState :=
  match st.stack with
  | [] => none
  | frame :: stack =>
    let inner := st.group
    let expr := if frame.keeps then .group inner.expr else inner.expr
    some { st with
      flags := frame.flags, branches := frame.branches, stack := stack,
      items := ⟨expr, inner.height + 1, false⟩ :: frame.items }

end PatternState

/-- The letters of a flag group up to `:` or `)`, and the rest from there on. -/
def takeFlagLetters : List Char → Option (List Char × List Char)
  | [] => none
  | c :: s =>
    if c = ':' || c = ')' then some ([], c :: s)
    else (takeFlagLetters s).map fun (t, rest) => (c :: t, rest)

/-- Switches one flag. -/
def Flags.setLetter (f : Flags) (value : Bool) : Char → Option Flags
  | 'i' => some { f with ignoreCase := value }
  | 'm' => some { f with multiLine := value }
  | 's' => some { f with dotNewline := value }
  | 'U' => some { f with swapGreed := value }
  | 'u' => some { f with unicode := value }
  | 'R' => some { f with crlf := value }
  | 'x' => some { f with ignoreBlanks := value }
  | _ => none

/-- Applies flag letters: those behind a hyphen are switched off. No letter may come twice, and a
hyphen needs a letter behind it. -/
def Flags.setLetters (f : Flags) (value : Bool) : List Char → Option Flags
  | [] => some f
  | '-' :: [] => none
  | '-' :: s => if value then f.setLetters false s else none
  | c :: s => if s.contains c then none else (f.setLetter value c).bind (·.setLetters value s)

/-- A character of a group name; the first one must be a letter or an underscore. -/
def isGroupNameChar (first : Bool) (c : Char) : Bool :=
  c == '_' || (if first then Unicode.isAlphabetic c
    else Unicode.isAlphanumeric c || c == '.' || c == '[' || c == ']')

/-- A group name and the rest after its closing angle bracket. -/
def readGroupName (s : List Char) : Option (List Char × List Char) :=
  let name := s.takeWhile (· != '>')
  match s.dropWhile (· != '>'), name with
  | '>' :: rest, c :: cs =>
    if isGroupNameChar true c && cs.all (isGroupNameChar false) then some (name, rest) else none
  | _, _ => none

/-- A group, or a switch of flags, behind its opening parenthesis. -/
def readGroup (st : PatternState) (s : List Char) : Option (PatternState × List Char) :=
  let named := fun (s : List Char) =>
    match readGroupName s with
    | some (name, rest) =>
      if st.names.contains name then none
      else some ({ st.openGroup st.flags true with names := name :: st.names }, rest)
    | none => none
  match st.flags.skip s with
  | '?' :: '=' :: _ | '?' :: '!' :: _ | '?' :: '<' :: '=' :: _ | '?' :: '<' :: '!' :: _ => none
  | '?' :: 'P' :: '<' :: rest => named rest
  | '?' :: '<' :: rest => named rest
  | '?' :: rest =>
    match takeFlagLetters rest with
    | some (letters, ':' :: rest) =>
      (st.flags.setLetters true letters).map fun flags => (st.openGroup flags false, rest)
    | some (letters, _ :: rest) =>
      if letters.isEmpty then none
      else
        (st.flags.setLetters true letters).map fun flags =>
          ({ st with flags := flags }.push ⟨.empty, 0, true⟩, rest)
    | _ => none
  | rest => some (st.openGroup st.flags true, rest)

/-- Repeats the last item. -/
def repeatLast (st : PatternState) (min : Nat) (max : Option Nat) (lazy : Bool) :
    Option PatternState :=
  match st.items with
  | [] => none
  | i :: is =>
    if i.isSwitch then none
    else
      let greedy := lazy == st.flags.swapGreed
      some { st with items := ⟨.repeated i.expr min max greedy, i.height + 1, false⟩ :: is }

/-- The largest count that a repetition may name. -/
def countLimit : Nat := 4294967295

/-- The digits at the start of a text, ignored text dropped. -/
def takeDigits (f : Flags) : Nat → List Char → List Char × List Char
  | 0, s => ([], s)
  | n + 1, s =>
    match s with
    | [] => ([], [])
    | c :: rest =>
      if c.isDigit then
        let (ds, rest) := takeDigits f n (f.skip rest)
        (c :: ds, rest)
      else ([], c :: rest)

/-- A count between blanks. -/
def readCount (f : Flags) (s : List Char) : Option (Nat × List Char) :=
  let s := s.dropWhile isBlank
  let (digits, rest) := takeDigits f (s.length + 1) s
  let n := digits.foldl (fun n c => 10 * n + (c.toNat - '0'.toNat)) 0
  if digits.isEmpty || countLimit < n then none else some (n, f.skip (rest.dropWhile isBlank))

/-- The bounds of a counted repetition and the rest after its closing brace. -/
def readCounts (f : Flags) (s : List Char) : Option ((Nat × Option Nat) × List Char) :=
  match readCount f (f.skip s) with
  | none => none
  | some (min, '\x7d' :: rest) => some ((min, some min), rest)
  | some (min, ',' :: rest) =>
    match f.skip rest with
    | '\x7d' :: rest => some ((min, none), rest)
    | rest =>
      match readCount f rest with
      | some (max, '\x7d' :: rest) => if min ≤ max then some ((min, some max), rest) else none
      | _ => none
  | _ => none

/-- A repetition, lazy if a question mark follows it. -/
def readRepetition (st : PatternState) (min : Nat) (max : Option Nat) :
    List Char → Option (PatternState × List Char)
  | '?' :: rest => (repeatLast st min max true).map (·, rest)
  | rest => (repeatLast st min max false).map (·, rest)

/-- One character as an expression. -/
def literalExpr (f : Flags) (c : Char) : Expr :=
  if f.ignoreCase then .ofSet (f.foldChar c) else .literal [c]

/-- The item of an escape. -/
def Item.ofPrimitive (f : Flags) : Primitive → Item
  | .literal c => ⟨literalExpr f c, 0, false⟩
  | .look l => ⟨.look l, 0, false⟩
  | .set s => ⟨.ofSet s, 0, false⟩

/-- What the dot matches; without Unicode it would match half characters and is refused. -/
def dotSet? (f : Flags) : Option CharSet :=
  if !f.unicode then none
  else if f.dotNewline then some .all
  else if f.crlf then some (.compl [(10, 10), (13, 13)])
  else some .notNewline

/-- Reads one item, bracket, bar or repetition. -/
def patternStep (st : PatternState) : List Char → Option (PatternState × List Char)
  | [] => none
  | c :: s =>
    let f := st.flags
    match c with
    | '(' => readGroup st s
    | ')' => st.closeGroup.map (·, s)
    | '|' => some ({ st with items := [], branches := Item.ofBranch st.items :: st.branches }, s)
    | '[' =>
      (readClass f (c :: s)).map fun (i, rest) => (st.push ⟨.ofSet i.set, i.height, false⟩, rest)
    | '?' => readRepetition st 0 (some 1) s
    | '*' => readRepetition st 0 none s
    | '+' => readRepetition st 1 none s
    | '\x7b' =>
      match readCounts f s with
      | some ((min, max), rest) => readRepetition st min max (f.skip rest)
      | none => none
    | '\\' => (readEscape f s).map fun (p, rest) => (st.push (Item.ofPrimitive f p), rest)
    | '.' => (dotSet? f).map fun set => (st.push ⟨.ofSet set, 0, false⟩, s)
    | '^' =>
      let l := if !f.multiLine then Look.start else if f.crlf then .crlfLineStart else .lineStart
      some (st.push ⟨.look l, 0, false⟩, s)
    | '$' =>
      let l := if !f.multiLine then Look.finish else if f.crlf then .crlfLineEnd else .lineEnd
      some (st.push ⟨.look l, 0, false⟩, s)
    | c => some (st.push ⟨literalExpr f c, 0, false⟩, s)

/-- Repeats `patternStep` to the end of the text, where no group may be open. -/
def readPattern : Nat → PatternState → List Char → Option Item
  | n, st, s =>
    match st.flags.skip s with
    | [] => if st.stack.isEmpty then some st.group else none
    | c :: cs =>
      match n with
      | 0 => none
      | n + 1 =>
        match patternStep st (c :: cs) with
        | some (st, rest) => readPattern n st rest
        | none => none

/-- How deep groups, classes, repetitions and branches may nest. -/
def nestLimit : Nat := 250

/-- The expression of a pattern, unless that is malformed. Every step takes a character off, so
there are at most as many steps as characters. -/
def Expr.parse? (text : List Char) : Option Expr :=
  match readPattern text.length {} text with
  | some i => if i.height ≤ nestLimit && i.expr.fits then some i.expr else none
  | none => none

end TopDown.Pattern
