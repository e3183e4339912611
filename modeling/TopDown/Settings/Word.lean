import TopDown.Text.Blank
import TopDown.Text.Hex

/-!
# Words of a settings file

Settings are written in the flat part of TOML: keys with strings or lists of strings. A settings
file is first cut into words; blanks and comments separate words and are dropped.

* `Word` : a bare key, a string, a mark or the end of a line;
* `readBasic` : a string with escapes, `readLiteral` : one without. Both stand on one line, or
  between tripled quotes on several;
* `words` : the words of a text, unless it holds something that can be no part of any.
-/

namespace TopDown.Settings

open Text

/-- A character that may stand in comments and strings. -/
def isPlain (c : Char) : Bool := c == '\t' || (' ' ≤ c && c != '\x7f')

/-- A character of a key without quotes. -/
def isBare (c : Char) : Bool := c.isAlphanum || c == '-' || c == '_'

/-- The characters that a backslash and a letter stand for. -/
def namedEscape? : Char → Option Char
  | 'b' => some '\x08'
  | 't' => some '\t'
  | 'n' => some '\n'
  | 'f' => some '\x0c'
  | 'r' => some '\r'
  | '"' => some '"'
  | '\\' => some '\\'
  | _ => none

/-- A text that was read and the rest after it. -/
abbrev Reading := Option (List Char × List Char)

/-- Puts a character in front of a text that was read. -/
def Reading.cons (c : Char) : Reading → Reading
  | some (t, rest) => some (c :: t, rest)
  | none => none

/-- The end of a string between tripled quotes, for an `s` that starts with a quote: up to two
quotes in front of the closing three belong to the string. -/
def closing? (q : Char) (s : List Char) : Reading :=
  let run := min (s.takeWhile (· == q)).length 5
  if run < 3 then none else some (List.replicate (run - 3) q, s.drop run)

/-- Where a string ends: at a quote, or at three of them if it may have several lines. -/
def ending? (q : Char) (multi : Bool) (s : List Char) : Reading :=
  if multi then closing? q (q :: s) else some ([], s)

/-- Whether nothing but a gap stands before the end of the line. -/
def breaksHere (s : List Char) : Bool :=
  match skipGap s with
  | '\n' :: _ | '\r' :: '\n' :: _ => true
  | _ => false

/-- The inside of a string with escapes. In a string of several lines a backslash at the end of a
line takes all blanks up to the next other character away; `skips` says whether this is going
on. -/
def readBasic (multi skips : Bool) : List Char → Reading
  | [] => none
  | '"' :: s =>
    match ending? '"' multi s with
    | some r => some r
    | none => (readBasic multi false s).cons '"'
  | '\\' :: 'u' :: a :: b :: c :: d :: s =>
    match charOfHex? [a, b, c, d] with
    | some x => (readBasic multi false s).cons x
    | none => none
  | '\\' :: 'U' :: a :: b :: c :: d :: e :: f :: g :: h :: s =>
    match charOfHex? [a, b, c, d, e, f, g, h] with
    | some x => (readBasic multi false s).cons x
    | none => none
  | '\\' :: c :: s =>
    match namedEscape? c with
    | some x => (readBasic multi false s).cons x
    | none => if multi && breaksHere (c :: s) then readBasic multi true (c :: s) else none
  | '\r' :: '\n' :: s =>
    if !multi then none
    else if skips then readBasic multi true s
    else (readBasic multi false s).cons '\n'
  | c :: s =>
    if skips && (isGap c || c == '\n') then readBasic multi true s
    else if (isPlain c && c != '\\') || (multi && c == '\n') then
      (readBasic multi false s).cons c
    else none

/-- The inside of a string without escapes. -/
def readLiteral (multi : Bool) : List Char → Reading
  | [] => none
  | '\'' :: s =>
    match ending? '\'' multi s with
    | some r => some r
    | none => (readLiteral multi s).cons '\''
  | '\r' :: '\n' :: s => if multi then (readLiteral multi s).cons '\n' else none
  | c :: s => if isPlain c || (multi && c == '\n') then (readLiteral multi s).cons c else none

/-- A line break right behind the opening quotes does not count. -/
def skipBreak : List Char → List Char
  | '\n' :: s => s
  | '\r' :: '\n' :: s => s
  | s => s

inductive Word where
  /-- A key without quotes. -/
  | bare (name : String)
  /-- A string on one line. -/
  | text (value : String)
  /-- A string between tripled quotes. -/
  | block (value : String)
  | equals
  | comma
  | opening
  | closing
  | newline
  deriving DecidableEq

/-- The inside of a string, with escapes between double quotes and without between single ones. -/
def readString (q : Char) (multi : Bool) (s : List Char) : Reading :=
  if q = '"' then readBasic multi false s else readLiteral multi s

/-- What stands behind two more quotes, which make the opening quote a tripled one. -/
def openBlock? (q : Char) : List Char → Option (List Char)
  | a :: b :: s => if a = q && b = q then some (skipBreak s) else none
  | _ => none

/-- A string behind its first quote, as a word, and the rest after it. -/
def readText (q : Char) (s : List Char) : Option (Word × List Char) :=
  match openBlock? q s with
  | some inside =>
    match readString q true inside with
    | some (v, rest) => some (.block (String.ofList v), rest)
    | none => none
  | none =>
    match readString q false s with
    | some (v, rest) => some (.text (String.ofList v), rest)
    | none => none

/-! ## Readers consume their input -/

theorem Reading.cons_eq_some {c : Char} {r : Reading} {t rest : List Char}
    (h : r.cons c = some (t, rest)) : ∃ u, r = some (u, rest) := by
  cases r with
  | none => simp [Reading.cons] at h
  | some p =>
    simp only [Reading.cons, Option.some.injEq, Prod.mk.injEq] at h
    exact ⟨p.1, by rw [← h.2]⟩

theorem length_ending {q : Char} {multi : Bool} {s t rest : List Char}
    (h : ending? q multi s = some (t, rest)) : rest.length ≤ s.length := by
  cases multi with
  | false =>
    simp only [ending?, Bool.false_eq_true, if_false, Option.some.injEq, Prod.mk.injEq] at h
    simp [h.2]
  | true =>
    simp only [ending?, if_true, closing?] at h
    split at h
    · simp at h
    · simp only [Option.some.injEq, Prod.mk.injEq] at h
      rw [← h.2, List.length_drop, List.length_cons]
      omega

theorem length_readBasic {multi skips : Bool} {s t rest : List Char}
    (h : readBasic multi skips s = some (t, rest)) : rest.length ≤ s.length := by
  fun_induction readBasic multi skips s generalizing t with
  | case1 => simp at h
  | case2 skips s r hr =>
    rw [h] at hr
    have := length_ending hr
    simp only [List.length_cons]
    omega
  | case3 skips s _ ih =>
    obtain ⟨u, hu⟩ := Reading.cons_eq_some h
    have := ih hu
    simp only [List.length_cons]
    omega
  | _ =>
    simp only [List.length_cons] at *
    grind [Reading.cons_eq_some]

theorem length_readLiteral {multi : Bool} {s t rest : List Char}
    (h : readLiteral multi s = some (t, rest)) : rest.length ≤ s.length := by
  fun_induction readLiteral multi s generalizing t with
  | case1 => simp at h
  | case2 s r hr =>
    rw [h] at hr
    have := length_ending hr
    simp only [List.length_cons]
    omega
  | _ =>
    simp only [List.length_cons] at *
    grind [Reading.cons_eq_some]

theorem length_skipBreak (s : List Char) : (skipBreak s).length ≤ s.length := by
  fun_cases skipBreak s <;> grind

theorem length_readString {q : Char} {multi : Bool} {s t rest : List Char}
    (h : readString q multi s = some (t, rest)) : rest.length ≤ s.length := by
  unfold readString at h
  split at h
  · exact length_readBasic h
  · exact length_readLiteral h

theorem length_openBlock {q : Char} {s t : List Char} (h : openBlock? q s = some t) :
    t.length ≤ s.length := by
  match s with
  | [] | [_] => simp [openBlock?] at h
  | _ :: _ :: s =>
    have := length_skipBreak s
    simp only [openBlock?] at h
    split at h
    · simp only [Option.some.injEq] at h
      rw [← h]
      simp only [List.length_cons]
      omega
    · simp at h

theorem length_readText {q : Char} {s rest : List Char} {w : Word}
    (h : readText q s = some (w, rest)) : rest.length ≤ s.length := by
  unfold readText at h
  split at h
  · rename_i inside hi
    have := length_openBlock hi
    split at h
    · rename_i hr
      have := length_readString hr
      simp only [Option.some.injEq, Prod.mk.injEq] at h
      rw [← h.2]
      omega
    · simp at h
  · split at h
    · rename_i hr
      simp only [Option.some.injEq, Prod.mk.injEq] at h
      rw [← h.2]
      exact length_readString hr
    · simp at h

/-! ## Words -/

/-- The words of a text. -/
def words (s : List Char) : Option (List Word) :=
  match s with
  | [] => some []
  | '\r' :: '\n' :: s => (words s).map (.newline :: ·)
  | c :: s =>
    if c = '\n' then (words s).map (.newline :: ·)
    else if isGap c then words s
    else if c = '=' then (words s).map (.equals :: ·)
    else if c = ',' then (words s).map (.comma :: ·)
    else if c = '[' then (words s).map (.opening :: ·)
    else if c = ']' then (words s).map (.closing :: ·)
    else if c = '#' then
      have := (List.dropWhile_sublist (l := s) isPlain).length_le
      words (s.dropWhile isPlain)
    else if isBare c then
      have := (List.dropWhile_sublist (l := s) isBare).length_le
      (words (s.dropWhile isBare)).map (.bare (String.ofList (c :: s.takeWhile isBare)) :: ·)
    else if c = '"' || c = '\'' then
      match h : readText c s with
      | some (w, rest) =>
        have := length_readText h
        (words rest).map (w :: ·)
      | none => none
    else none
termination_by s.length
decreasing_by all_goals simp only [List.length_cons] at *; omega

end TopDown.Settings
