import TopDown.Pattern.Escape

/-!
# Bracketed classes

A class in brackets is read with a stack of the classes and set operations that are still open.

* `ClassUnion` : the items read since the last bracket or operator;
* `ClassFrame` : an open bracket or a set operator that waits for its right side;
* `classStep` : reads one item, bracket or operator;
* `readClass` : a whole class, from its opening bracket on.
-/

namespace TopDown.Pattern

open Text

/-- A set and how deep the brackets and operators in it nest. -/
structure ClassItem where
  set : CharSet
  height : Nat

/-- Items standing side by side. -/
structure ClassUnion where
  set : CharSet := []
  count : Nat := 0
  height : Nat := 0

namespace ClassUnion

def push (u : ClassUnion) (i : ClassItem) : ClassUnion :=
  ⟨u.set.union i.set, u.count + 1, max u.height i.height⟩

def toItem (u : ClassUnion) : ClassItem := ⟨u.set, if u.count ≤ 1 then u.height else u.height + 1⟩

end ClassUnion

/-- A set operator. -/
inductive SetOp where
  | inter
  | diff
  | symmDiff

def SetOp.apply : SetOp → CharSet → CharSet → CharSet
  | inter => Unicode.Ranges.inter
  | diff => Unicode.Ranges.diff
  | symmDiff => Unicode.Ranges.symmDiff

/-- What is still open around the items being read. -/
inductive ClassFrame where
  | bracket (outer : ClassUnion) (negated : Bool)
  | op (kind : SetOp) (lhs : ClassItem)

/-- The open frames, innermost first, and the items read in the innermost one. -/
structure ClassState where
  stack : List ClassFrame
  items : ClassUnion

/-- A class such as `[:alpha:]` inside a bracket. -/
def readAsciiClass (f : Flags) : List Char → Option (CharSet × List Char)
  | '[' :: ':' :: s =>
    let (negated, s) :=
      match s with
      | '^' :: rest => (true, rest)
      | _ => (false, s)
    match s.dropWhile (· != ':') with
    | ':' :: ']' :: rest =>
      (CharSet.ofClassName? (s.takeWhile (· != ':'))).map fun set =>
        (CharSet.negateIf negated (f.foldSet set), rest)
    | _ => none
  | _ => none

/-- The hyphens at the start of a class, which stand for themselves. -/
def readHyphens (f : Flags) : Nat → ClassUnion → List Char → ClassUnion × List Char
  | 0, u, s => (u, s)
  | n + 1, u, s =>
    match f.skip s with
    | '-' :: rest => readHyphens f n (u.push ⟨.ofChar '-', 0⟩) rest
    | rest => (u, rest)

/-- The start of a class behind its bracket: a caret, hyphens, and a closing bracket that comes
first and so stands for itself. -/
def openClass (f : Flags) (s : List Char) : Bool × ClassUnion × List Char :=
  let (negated, s) :=
    match f.skip s with
    | '^' :: rest => (true, rest)
    | rest => (false, rest)
  let (u, s) := readHyphens f (s.length + 1) {} s
  match u.count, s with
  | 0, ']' :: rest => (negated, u.push ⟨.ofChar ']', 0⟩, rest)
  | _, _ => (negated, u, s)

/-- Closes the operator that waits for a right side, if one does. -/
def closeOp (f : Flags) (rhs : ClassItem) : List ClassFrame → ClassItem × List ClassFrame
  | .op kind lhs :: stack =>
    (⟨kind.apply (f.foldSet lhs.set) (f.foldSet rhs.set), max lhs.height rhs.height + 1⟩, stack)
  | stack => (rhs, stack)

/-- A set that a class may hold: without Unicode only ASCII. -/
def allowSet? (f : Flags) (s : CharSet) : Option CharSet :=
  if f.unicode || s.isBelow 128 then some s else none

/-- One item of a class: an escape or a character. -/
def readClassPrimitive (f : Flags) (s : List Char) : Option (Primitive × List Char) :=
  let item :=
    match s with
    | [] => none
    | '\\' :: s => readEscape f s
    | c :: s => some (.literal c, s)
  match item with
  | some (.literal c, rest) =>
    if !f.unicode && c.toNat > 127 then none else some (.literal c, rest)
  | item => item

/-- The character that stands behind the hyphen at the start of a text. -/
def behindHyphen (f : Flags) (s : List Char) : Option Char :=
  if f.ignoreBlanks then
    match s.dropWhile isBlank with
    | '#' :: rest => (rest.dropWhile isBlank).head?
    | rest => rest.head?
  else s.head?

/-- An item or a range of two characters. -/
def readClassRange (f : Flags) (s : List Char) : Option (CharSet × List Char) :=
  match readClassPrimitive f s with
  | none => none
  | some (first, rest) =>
    let single :=
      match first with
      | .literal c => some (CharSet.ofChar c, f.skip rest)
      | .set set => some (set, f.skip rest)
      | .look _ => none
    match f.skip rest with
    | [] => none
    | '-' :: after =>
      if behindHyphen f after = some ']' || behindHyphen f after = some '-' then single
      else
        match first, readClassPrimitive f (f.skip after) with
        | .literal lo, some (.literal hi, rest) =>
          if lo ≤ hi then some (.between lo.toNat hi.toNat, rest) else none
        | _, _ => none
    | _ => single

/-- Starts the right side of a set operator. -/
def pushOp (f : Flags) (kind : SetOp) (st : ClassState) : ClassState :=
  let (lhs, stack) := closeOp f st.items.toItem st.stack
  ⟨.op kind lhs :: stack, {}⟩

/-- Either the state after one more item, or the class that a bracket has closed; with the rest. -/
def classStep (f : Flags) (st : ClassState) (s : List Char) :
    Option ((ClassState ⊕ ClassItem) × List Char) :=
  match s with
  | '[' :: rest =>
    let ascii := if st.stack.isEmpty then none else readAsciiClass f s
    match ascii with
    | some (set, rest) =>
      (allowSet? f set).map fun set => (.inl { st with items := st.items.push ⟨set, 0⟩ }, rest)
    | none =>
      let (negated, items, rest) := openClass f rest
      some (.inl ⟨.bracket st.items negated :: st.stack, items⟩, rest)
  | ']' :: rest =>
    match closeOp f st.items.toItem st.stack with
    | (item, .bracket outer negated :: stack) =>
      match allowSet? f (CharSet.negateIf negated (f.foldSet item.set)), stack with
      | some set, [] => some (.inr ⟨set, item.height + 1⟩, rest)
      | some set, _ => some (.inl ⟨stack, outer.push ⟨set, item.height + 1⟩⟩, rest)
      | none, _ => none
    | _ => none
  | '&' :: '&' :: rest => some (.inl (pushOp f .inter st), rest)
  | '-' :: '-' :: rest => some (.inl (pushOp f .diff st), rest)
  | '~' :: '~' :: rest => some (.inl (pushOp f .symmDiff st), rest)
  | _ =>
    (readClassRange f s).map fun (set, rest) =>
      (.inl { st with items := st.items.push ⟨set, 0⟩ }, rest)

/-- Repeats `classStep` until the class is closed. -/
def readClassFrom (f : Flags) : Nat → ClassState → List Char → Option (ClassItem × List Char)
  | 0, _, _ => none
  | n + 1, st, s =>
    match classStep f st (f.skip s) with
    | none => none
    | some (.inr item, rest) => some (item, rest)
    | some (.inl st, rest) => readClassFrom f n st rest

/-- A class in brackets at the start of `s`. Every step takes a character off, so there are at most
as many steps as characters. -/
def readClass (f : Flags) (s : List Char) : Option (ClassItem × List Char) :=
  readClassFrom f (s.length + 1) ⟨[], {}⟩ s

end TopDown.Pattern
