import TopDown.Pattern.CharSet

/-!
# Pattern expressions

* `Look`, `Look.holds` : conditions on the characters to the left and right of a place;
* `Expr` : the expressions that patterns denote, flags already worked in;
* `Expr.ofSet`, `Expr.sequence`, `Expr.choice`, `Expr.repeated` : expressions in normal form. Nested
  sequences and choices are flat, literals that meet are one literal, a choice between characters is
  a set, and what all branches of a choice start with stands in front of it;
* `Expr.minLength?` : the length of the shortest match;
* `Expr.startsAtStart`, `Expr.endsAtEnd` : a match can only begin at the start of the text, or only
  end at its end.
-/

namespace TopDown.Pattern

open Unicode

/-- A condition on a place between two characters. -/
inductive Look where
  | start
  | finish
  | lineStart
  | lineEnd
  | crlfLineStart
  | crlfLineEnd
  | wordBoundary (unicode : Bool)
  | notWordBoundary (unicode : Bool)
  | wordStart (unicode : Bool)
  | wordEnd (unicode : Bool)
  | wordStartHalf (unicode : Bool)
  | wordEndHalf (unicode : Bool)
  deriving DecidableEq

/-- Whether a neighbour is a word character. -/
def isWordAt (unicode : Bool) : Option Char → Bool
  | none => false
  | some c => (CharSet.word unicode).has c

/-- Whether the condition holds between `before` and `after`. -/
def Look.holds (before after : Option Char) : Look → Bool
  | start => before.isNone
  | finish => after.isNone
  | lineStart => before.isNone || before == some '\n'
  | lineEnd => after.isNone || after == some '\n'
  | crlfLineStart =>
    before.isNone || before == some '\n' || (before == some '\r' && after != some '\n')
  | crlfLineEnd =>
    after.isNone || after == some '\r' || (after == some '\n' && before != some '\r')
  | wordBoundary u => isWordAt u before != isWordAt u after
  | notWordBoundary u => isWordAt u before == isWordAt u after
  | wordStart u => !isWordAt u before && isWordAt u after
  | wordEnd u => isWordAt u before && !isWordAt u after
  | wordStartHalf u => !isWordAt u before
  | wordEndHalf u => !isWordAt u after

/-- What a pattern matches. -/
inductive Expr where
  | empty
  /-- These characters, of which there is at least one. -/
  | literal (cs : List Char)
  | set (s : CharSet)
  | look (l : Look)
  /-- A group whose match is kept. -/
  | group (e : Expr)
  /-- Between `min` and `max` times, as often as possible if `greedy`, else as rarely. -/
  | loop (e : Expr) (min : Nat) (max : Option Nat) (greedy : Bool)
  | cat (es : List Expr)
  /-- An earlier branch is preferred to a later one. -/
  | alt (es : List Expr)

namespace Expr

/-! ## Lengths -/

mutual

/-- The length of the shortest match, unless some part can match nothing at all. -/
def minLength? : Expr → Option Nat
  | empty => some 0
  | literal cs => some cs.length
  | set s => if s.isEmpty then none else some 1
  | look _ => some 0
  | group e => e.minLength?
  | loop e min _ _ => e.minLength?.map (· * min)
  | cat es => sumLength? es
  | alt es => leastLength? es

def sumLength? : List Expr → Option Nat
  | [] => some 0
  | e :: es =>
    match e.minLength?, sumLength? es with
    | some m, some n => some (m + n)
    | _, _ => none

def leastLength? : List Expr → Option Nat
  | [] => none
  | e :: es =>
    match es, e.minLength?, leastLength? es with
    | [], m, _ => m
    | _, some m, some n => some (min m n)
    | _, _, _ => none

end

/-- The expression reads at least one character. -/
def consumes (e : Expr) : Bool :=
  match e.minLength? with
  | some n => 0 < n
  | none => false

mutual

/-- The expression never reads a character. -/
def isZeroWidth : Expr → Bool
  | empty => true
  | literal _ => false
  | set _ => false
  | look _ => true
  | group e => e.isZeroWidth
  | loop e _ _ _ => e.isZeroWidth
  | cat es => allZeroWidth es
  | alt es => allZeroWidth es

def allZeroWidth : List Expr → Bool
  | [] => true
  | e :: es => e.isZeroWidth && allZeroWidth es

end

/-! ## Anchors -/

mutual

/-- Every match of the expression passes the condition `l` before it reads a character. -/
def beginsWith (l : Look) : Expr → Bool
  | look k => k == l
  | group e => beginsWith l e
  | loop e min _ _ => 0 < min && beginsWith l e
  | cat es => someBeginsWith l es
  | alt es => allBeginWith l es
  | _ => false

/-- One of the expressions up to the first that may read a character begins with `l`. -/
def someBeginsWith (l : Look) : List Expr → Bool
  | [] => false
  | e :: es => beginsWith l e || (e.isZeroWidth && someBeginsWith l es)

def allBeginWith (l : Look) : List Expr → Bool
  | [] => true
  | e :: es => beginsWith l e && allBeginWith l es

end

mutual

/-- Every match of the expression passes the condition `l` after it has read its last character. -/
def finishesWith (l : Look) : Expr → Bool
  | look k => k == l
  | group e => finishesWith l e
  | loop e min _ _ => 0 < min && finishesWith l e
  | cat es => someFinishesWith l es
  | alt es => allFinishWith l es
  | _ => false

/-- One of the expressions from the last that may read a character on finishes with `l`. -/
def someFinishesWith (l : Look) : List Expr → Bool
  | [] => false
  | e :: es => someFinishesWith l es || (allZeroWidth es && finishesWith l e)

def allFinishWith (l : Look) : List Expr → Bool
  | [] => true
  | e :: es => finishesWith l e && allFinishWith l es

end

/-- A match can only begin where the text does. -/
def startsAtStart (e : Expr) : Bool := e.beginsWith .start

/-- A match can only end where the text does. -/
def endsAtEnd (e : Expr) : Bool := e.finishesWith .finish

/-! ## Comparison -/

mutual

/-- The expressions are the same. Two groups never are, as their matches are kept apart. -/
def same : Expr → Expr → Bool
  | empty, empty => true
  | literal s, literal t => s == t
  | set s, set t => s == t
  | look k, look l => k == l
  | loop e a b g, loop f c d h => same e f && a == c && b == d && g == h
  | cat es, cat fs => sameAll es fs
  | alt es, alt fs => sameAll es fs
  | _, _ => false

def sameAll : List Expr → List Expr → Bool
  | [], [] => true
  | e :: es, f :: fs => same e f && sameAll es fs
  | _, _ => false

end

/-! ## Normal forms -/

/-- The characters of a set; a set of one character is a literal. -/
def ofSet (s : CharSet) : Expr :=
  match s.only? with
  | some c => literal [c]
  | none => set s

/-- The parts of a sequence. -/
def parts : Expr → List Expr
  | empty => []
  | cat es => es
  | e => [e]

/-- Puts a part in front of others; two literals become one. -/
def glue : Expr → List Expr → List Expr
  | literal s, literal t :: es => literal (s ++ t) :: es
  | e, es => e :: es

/-- Expressions one after the other. -/
def sequence (es : List Expr) : Expr :=
  match (es.flatMap parts).foldr glue [] with
  | [] => empty
  | [e] => e
  | es => cat es

/-- The branches of a choice. -/
def branches : Expr → List Expr
  | alt es => es
  | e => [e]

/-- The characters that an expression stands for, if it always reads just one. -/
def chars? : Expr → Option CharSet
  | literal [c] => some (.ofChar c)
  | set s => some s
  | _ => none

/-- A choice between branches that do not all start alike. -/
def flatChoice (es : List Expr) : Expr :=
  match es.flatMap branches with
  | [] => set []
  | [e] => e
  | es =>
    match es.mapM chars? with
    | some sets => ofSet (Ranges.unions sets)
    | none => alt es

/-- What two lists start with alike. -/
def commonStart : List Expr → List Expr → List Expr
  | e :: es, f :: fs => if same e f then e :: commonStart es fs else []
  | _, _ => []

/-- The parts of a sequence of at least two. -/
def sequenceParts? : Expr → Option (List Expr)
  | cat es => some es
  | _ => none

/-- A choice between expressions. -/
def choice (es : List Expr) : Expr :=
  match (es.flatMap branches).mapM sequenceParts? with
  | some (first :: second :: rest) =>
    match (second :: rest).foldl commonStart first with
    | [] => flatChoice es
    | start =>
      let ends := (first :: second :: rest).map fun parts => sequence (parts.drop start.length)
      sequence (start ++ [flatChoice ends])
  | _ => flatChoice es

/-- An expression several times over. What reads no character need not be repeated. -/
def repeated (e : Expr) (min : Nat) (max : Option Nat) (greedy : Bool) : Expr :=
  let (min, max) :=
    if e.isZeroWidth then (Nat.min min 1, some (Nat.min (max.getD 1) 1)) else (min, max)
  match min, max with
  | 0, some 0 => empty
  | 1, some 1 => e
  | _, _ => loop e min max greedy

end Expr

end TopDown.Pattern
