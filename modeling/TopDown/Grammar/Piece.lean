import TopDown.Text.Blank
import TopDown.Text.Quoted

/-!
# Pieces of a production's body

The body of a production is written in quoted literals and bare words.

* `Piece.read` : the piece at the start of a text. A prime inside a word belongs to the word; only
  at the start of a piece can it open a literal;
* `pieces` : the pieces of a text, gaps between them dropped;
* `splitAlternatives` : a text cut at every `|` outside its literals.
-/

namespace TopDown.Grammar

open Text

/-- A quoted literal, its content verbatim, or a bare word. -/
inductive Piece where
  | literal (quote : Char) (content : List Char)
  | word (text : List Char)
  deriving DecidableEq

/-- A character that a bare word may hold. -/
def isWordChar (c : Char) : Bool := !isBlank c && c != '|' && c != '"'

namespace Piece

/-- The piece as it stands in the text. -/
def source : Piece → List Char
  | literal quote content => quote :: content ++ [quote]
  | word text => text

/-- The piece at the start of `s` and the rest after it. -/
def read (s : List Char) : Option (Piece × List Char) :=
  match Quoted.read '"' s with
  | some (content, rest) => some (literal '"' content, rest)
  | none =>
    match Quoted.read '\'' s with
    | some (content, rest) => some (literal '\'' content, rest)
    | none =>
      if (s.takeWhile isWordChar).isEmpty then none
      else some (word (s.takeWhile isWordChar), s.dropWhile isWordChar)

theorem length_read {s rest : List Char} {p : Piece} (h : read s = some (p, rest)) :
    rest.length < s.length := by
  unfold read at h
  split at h
  · rename_i content r hq
    simp only [Option.some.injEq, Prod.mk.injEq] at h
    have := Quoted.length_read hq
    rw [← h.2]
    omega
  · split at h
    · rename_i content r hq
      simp only [Option.some.injEq, Prod.mk.injEq] at h
      have := Quoted.length_read hq
      rw [← h.2]
      omega
    · split at h
      · simp at h
      · rename_i hne
        simp only [Option.some.injEq, Prod.mk.injEq] at h
        have hlen :=
          congrArg List.length (List.takeWhile_append_dropWhile (p := isWordChar) (l := s))
        have hpos : 0 < (s.takeWhile isWordChar).length := by
          cases ht : s.takeWhile isWordChar with
          | nil => simp [ht] at hne
          | cons c cs => simp
        rw [← h.2]
        simp only [List.length_append] at hlen
        omega

end Piece

/-- The pieces of one alternative, up to the first place where none starts. -/
def pieces (s : List Char) : List Piece :=
  match h : Piece.read (skipGap s) with
  | none => []
  | some (p, rest) =>
    have : rest.length < s.length :=
      Nat.lt_of_lt_of_le (Piece.length_read h) (length_skipGap_le s)
    p :: pieces rest
termination_by s.length

/-- Puts a text in front of the first part. -/
def prependPart (t : List Char) : List (List Char) → List (List Char)
  | [] => [t]
  | part :: parts => (t ++ part) :: parts

/-- The parts between the bars of a text that consists of pieces, gaps and bars; `none` if
something else stands in it. -/
def splitAlternatives (s : List Char) : Option (List (List Char)) :=
  match s with
  | [] => some [[]]
  | c :: cs =>
    if c = '|' then (splitAlternatives cs).map ([] :: ·)
    else if isGap c then (splitAlternatives cs).map (prependPart [c])
    else
      match h : Piece.read (c :: cs) with
      | none => none
      | some (p, rest) =>
        have : rest.length < (c :: cs).length := Piece.length_read h
        (splitAlternatives rest).map (prependPart p.source)
termination_by s.length
decreasing_by all_goals simp only [List.length_cons] at *; omega

end TopDown.Grammar
