import TopDown.Proofs.Grammar.Pieces
import TopDown.Proofs.Text.Quoted

/-!
# How a body is cut

A bar separates two alternatives unless it stands in a literal, and whether a quote opens a literal
depends on where the piece starts that it stands in. So a body is cut from its start, piece by
piece.

* `Piece.Stands`, `Piece.read_eq_some_iff`, `Piece.read_eq_none_iff` : which piece stands in front
  of a text, and where none does;
* `Cuts` : a text is cut into parts at its bars up to some place;
  `splitAlternatives_eq_some_iff` : a body is split into the parts that it is cut into as a whole;
* `Stuck`, `splitAlternatives_eq_none_iff` : the places where a body cannot be cut on;
* `Spans`, `Cuts.spans_pieces` : a text consists of pieces and gaps, and so does every part alone;
* `alternativesOf_eq_ok_iff`, `alternativesOf_eq_error_iff` : which alternatives a body has.
-/

namespace TopDown.Grammar

open Text

/-! ## Pieces -/

namespace Piece

/-- The piece stands in front of `rest`: it is a literal between its quotes, or a word that does not
go on in `rest` and that no single quote makes a literal. -/
inductive Stands : Piece → List Char → Prop
  | double {t rest : List Char} (body : Quoted.Body '"' t) : Stands (literal '"' t) rest
  | single {t rest : List Char} (body : Quoted.Body '\'' t) : Stands (literal '\'' t) rest
  | word {w rest : List Char} (ne_nil : w ≠ []) (chars : ∀ c ∈ w, isWordChar c = true)
    (stops : Stops isWordChar rest)
    (unquoted : ∀ t, w ++ rest = '\'' :: t → ¬ Quoted.Closes '\'' t) : Stands (word w) rest

variable {p : Piece} {s rest : List Char}

theorem read_eq_some_iff : read s = some (p, rest) ↔ s = p.source ++ rest ∧ p.Stands rest := by
  constructor
  · intro h
    refine ⟨(source_append_of_read h).symm, ?_⟩
    cases p with
    | word w =>
      obtain ⟨hs, hne, hchars, hstops, hquote⟩ := read_eq_word_iff.1 h
      rw [hs, Quoted.read_eq_none_iff (by decide)] at hquote
      exact .word hne hchars hstops hquote
    | literal quote content =>
      unfold read at h
      split at h
      · rename_i hread
        cases h
        exact .double ((Quoted.read_eq_some_iff (by decide)).1 hread).2
      · split at h
        · rename_i hread
          cases h
          exact .single ((Quoted.read_eq_some_iff (by decide)).1 hread).2
        · split at h <;> cases h
  · rintro ⟨rfl, hp⟩
    cases hp with
    | double hbody =>
      have hread := hbody.read (by decide) rest
      simp only [source, List.cons_append, List.append_assoc, List.nil_append, read, hread]
    | single hbody =>
      have hread := hbody.read (by decide) rest
      have hdouble : ∀ t, Quoted.read '"' ('\'' :: t) = none := fun _ => rfl
      simp only [source, List.cons_append, List.append_assoc, List.nil_append, read, hdouble, hread]
    | word hne hchars hstops hquote =>
      exact read_eq_word_iff.2 ⟨rfl, hne, hchars, hstops,
        (Quoted.read_eq_none_iff (by decide)).2 hquote⟩

/-- What cannot start a piece: a bar, a blank and a double quote that nothing closes. -/
theorem read_eq_none_iff {c : Char} : read (c :: s) = none ↔
    c = '|' ∨ isBlank c = true ∨ c = '"' ∧ ¬ Quoted.Closes '"' s := by
  by_cases hword : isWordChar c = true
  · have hc : c ≠ '|' ∧ isBlank c = false ∧ c ≠ '"' := by
      simpa [isWordChar, and_assoc, and_comm, and_left_comm] using hword
    simp [read_ne_none hword, hc]
  · have htake : (c :: s).takeWhile isWordChar = [] := List.takeWhile_cons_of_neg hword
    have hprime : c ≠ '\'' := by
      rintro rfl
      exact hword (by decide)
    have hsingle : Quoted.read '\'' (c :: s) = none := if_neg hprime
    have hread : read (c :: s) = none ↔ Quoted.read '"' (c :: s) = none := by
      rw [read, hsingle, htake]
      cases Quoted.read '"' (c :: s) <;> simp
    rw [hread, Quoted.read_eq_none_iff (by decide)]
    by_cases hc : c = '"'
    · simp [hc, show isBlank '"' = false by decide]
    · have hblank : isBlank c = true ∨ c = '|' := by
        simp only [isWordChar, Bool.and_eq_true, bne_iff_ne, Bool.not_eq_true'] at hword
        by_contra hne
        rw [not_or, Bool.not_eq_true] at hne
        exact hword ⟨⟨hne.1, hne.2⟩, hc⟩
      simp [hc, hblank.symm]

/-- A piece that stands in front of a text stands in front of every start of it. -/
theorem Stands.of_append {more : List Char} (h : p.Stands (rest ++ more)) : p.Stands rest := by
  cases h with
  | double hbody => exact .double hbody
  | single hbody => exact .single hbody
  | word hne hchars hstops hquote =>
    refine .word hne hchars (fun c hc => hstops c ?_) fun t ht hcloses => ?_
    · rw [List.head?_append, Option.mem_def.1 hc]
      rfl
    · refine hquote (t ++ more) ?_ (hcloses.append more)
      rw [← List.append_assoc, ht, List.cons_append]

end Piece

/-! ## Cutting -/

/-- The text is cut into parts at its bars up to `rest`. Between the bars stand pieces, spaces and
tabs. -/
inductive Cuts : List Char → List (List Char) → List Char → Prop
  | stop (rest : List Char) : Cuts rest [[]] rest
  | bar {s rest : List Char} {parts : List (List Char)} (tail : Cuts s parts rest) :
    Cuts ('|' :: s) ([] :: parts) rest
  | gap {c : Char} {s part rest : List Char} {parts : List (List Char)} (isGap : isGap c = true)
    (tail : Cuts s (part :: parts) rest) : Cuts (c :: s) ((c :: part) :: parts) rest
  | piece {p : Piece} {s part rest : List Char} {parts : List (List Char)} (stands : p.Stands s)
    (tail : Cuts s (part :: parts) rest) :
    Cuts (p.source ++ s) ((p.source ++ part) :: parts) rest

variable {s rest : List Char} {parts : List (List Char)}

theorem Cuts.exists_cons (h : Cuts s parts rest) : ∃ part parts', parts = part :: parts' := by
  cases h <;> exact ⟨_, _, rfl⟩

/-- A body is split into parts if and only if it is cut into them as a whole. -/
theorem splitAlternatives_eq_some_iff : splitAlternatives s = some parts ↔ Cuts s parts [] := by
  constructor
  · intro h
    fun_induction splitAlternatives s generalizing parts with
    | case1 =>
      cases h
      exact .stop []
    | case2 cs ih =>
      obtain ⟨parts, hparts, rfl⟩ := Option.map_eq_some_iff.1 h
      exact .bar (ih hparts)
    | case3 c cs _ hgap ih =>
      obtain ⟨parts, hparts, rfl⟩ := Option.map_eq_some_iff.1 h
      obtain ⟨part, parts, rfl⟩ := (ih hparts).exists_cons
      exact .gap hgap (ih hparts)
    | case4 => cases h
    | case5 c cs _ _ p rest hread _ ih =>
      obtain ⟨parts, hparts, rfl⟩ := Option.map_eq_some_iff.1 h
      obtain ⟨part, parts, rfl⟩ := (ih hparts).exists_cons
      obtain ⟨hs, hstands⟩ := Piece.read_eq_some_iff.1 hread
      rw [hs]
      exact .piece hstands (ih hparts)
  · intro h
    generalize hrest : [] = rest at h
    induction h with
    | stop =>
      subst hrest
      exact splitAlternatives_nil
    | bar _ ih => rw [splitAlternatives_bar_cons, ih hrest, Option.map_some]
    | gap hgap _ ih => rw [splitAlternatives_gap_cons hgap, ih hrest, Option.map_some]; rfl
    | piece hstands _ ih =>
      rw [splitAlternatives_of_read (Piece.read_eq_some_iff.2 ⟨rfl, hstands⟩), ih hrest,
        Option.map_some]
      rfl

/-- No piece, no space or tab and no bar starts the text: it starts with a double quote that nothing
closes or with a blank of another kind. -/
def Stuck (rest : List Char) : Prop :=
  ∃ c t, rest = c :: t ∧ (c = '"' ∧ ¬ Quoted.Closes '"' t ∨ isBlank c = true ∧ isGap c = false)

/-- A body is not split if it is cut up to a place where it cannot be cut on. -/
theorem splitAlternatives_eq_none_iff :
    splitAlternatives s = none ↔ ∃ parts rest, Cuts s parts rest ∧ Stuck rest := by
  constructor
  · intro h
    fun_induction splitAlternatives s with
    | case1 => cases h
    | case2 cs ih =>
      obtain ⟨parts, rest, hcuts, hstuck⟩ := ih (Option.map_eq_none_iff.1 h)
      exact ⟨_, rest, .bar hcuts, hstuck⟩
    | case3 c cs _ hgap ih =>
      obtain ⟨parts, rest, hcuts, hstuck⟩ := ih (Option.map_eq_none_iff.1 h)
      obtain ⟨part, parts, rfl⟩ := hcuts.exists_cons
      exact ⟨_, rest, .gap hgap hcuts, hstuck⟩
    | case4 c cs hbar hgap hread =>
      refine ⟨_, _, .stop _, c, cs, rfl, ?_⟩
      rcases Piece.read_eq_none_iff.1 hread with hc | hblank | hquote
      · exact absurd hc hbar
      · exact .inr ⟨hblank, Bool.not_eq_true _ ▸ hgap⟩
      · exact .inl hquote
    | case5 c cs _ _ p rest hread _ ih =>
      obtain ⟨parts, rest', hcuts, hstuck⟩ := ih (Option.map_eq_none_iff.1 h)
      obtain ⟨part, parts, rfl⟩ := hcuts.exists_cons
      obtain ⟨hs, hstands⟩ := Piece.read_eq_some_iff.1 hread
      rw [hs]
      exact ⟨_, rest', .piece hstands hcuts, hstuck⟩
  · rintro ⟨parts, rest, hcuts, hstuck⟩
    induction hcuts with
    | stop rest =>
      obtain ⟨c, t, rfl, hc⟩ := hstuck
      have hread : Piece.read (c :: t) = none :=
        Piece.read_eq_none_iff.2 (.inr (hc.symm.imp_left And.left))
      have hbar : c ≠ '|' := by
        rintro rfl
        rcases hc with ⟨hc, -⟩ | ⟨hc, -⟩ <;> exact absurd hc (by decide)
      have hgap : ¬ isGap c = true := by
        rcases hc with ⟨rfl, -⟩ | ⟨-, hc⟩
        · decide
        · simp [hc]
      rw [splitAlternatives, if_neg hbar, if_neg hgap]
      split
      · rfl
      · rename_i hsome
        rw [hread] at hsome
        cases hsome
    | bar _ ih => rw [splitAlternatives_bar_cons, ih hstuck, Option.map_none]
    | gap hgap _ ih => rw [splitAlternatives_gap_cons hgap, ih hstuck, Option.map_none]
    | piece hstands _ ih =>
      rw [splitAlternatives_of_read (Piece.read_eq_some_iff.2 ⟨rfl, hstands⟩), ih hstuck,
        Option.map_none]

/-! ## The pieces of a part -/

/-- The text consists of the pieces, with nothing but spaces and tabs in front of each of them. -/
inductive Spans : List Piece → List Char → Prop
  | nil : Spans [] []
  | cons {p : Piece} {gap s : List Char} {ps : List Piece} (before : Gap gap) (stands : p.Stands s)
    (tail : Spans ps s) : Spans (p :: ps) (gap ++ (p.source ++ s))

/-- A piece neither starts nor ends with a blank. -/
theorem Piece.Stands.exists_cons {p : Piece} (h : p.Stands rest) :
    ∃ c t, p.source = c :: t ∧ isBlank c = false ∧ Closed p.source := by
  obtain ⟨c, t, hsource, hc, hclosed⟩ := stands_of_read (read_eq_some_iff.2 ⟨rfl, h⟩)
  exact ⟨c, t, hsource, hc, hsource ▸ hclosed⟩

/-- The pieces that a text consists of are read off it. -/
theorem Spans.pieces_eq {ps : List Piece} (h : Spans ps s) : pieces s = ps := by
  induction h with
  | nil => exact pieces_nil
  | @cons p gap s ps hgap hstands _ ih =>
    obtain ⟨c, t, hsource, hc, -⟩ := hstands.exists_cons
    have hstops : Stops isGap (p.source ++ s) := by
      rw [hsource]
      refine stops_cons (Bool.eq_false_iff.2 fun hgap => ?_) _
      rw [isBlank_of_isGap hgap] at hc
      cases hc
    rw [Grammar.pieces_eq, skipGap_append hgap hstops, Piece.read_eq_some_iff.2 ⟨rfl, hstands⟩, ← ih]

theorem Spans.trimEnd_append {ps : List Piece} {gap : List Char} (h : Spans ps s)
    (hgap : Gap gap) : trimEnd (s ++ gap) = s := by
  induction h with
  | nil =>
    have hblank : ∀ c ∈ gap.reverse, isBlank c = true :=
      fun c hc => hgap.isBlank c (List.mem_reverse.1 hc)
    rw [List.nil_append, trimEnd, List.dropWhile_eq_nil_iff.2 hblank]
    rfl
  | @cons p front s ps _ hstands _ ih =>
    obtain ⟨-, -, -, -, hclosed⟩ := hstands.exists_cons
    rw [List.append_assoc, List.append_assoc, ← List.append_assoc, Text.trimEnd_append, ih,
      (hclosed.append front).trimEnd_eq]
    split
    · simp only [*, List.append_nil]
    · rw [List.append_assoc]

/-- Only spaces and tabs are trimmed off a text that consists of pieces. -/
theorem Spans.trim_append {ps : List Piece} {gap : List Char} (h : Spans ps s) (hgap : Gap gap) :
    Spans ps (trim (s ++ gap)) := by
  cases h with
  | nil =>
    rw [List.nil_append, trim_eq_nil_iff.2 hgap.isBlank]
    exact .nil
  | @cons p front s ps hfront hstands htail =>
    obtain ⟨c, t, hsource, hc, -⟩ := hstands.exists_cons
    have hspans : Spans (p :: ps) (p.source ++ s) := .cons gap_nil hstands htail
    have hstart : trimStart (front ++ (p.source ++ s) ++ gap) = p.source ++ s ++ gap := by
      rw [List.append_assoc, trimStart, dropWhile_append_stop hfront.isBlank]
      rw [hsource]
      exact stops_cons hc _
    rw [trim, hstart, hspans.trimEnd_append hgap]
    exact hspans

theorem Cuts.exists_append {part : List Char} (h : Cuts s (part :: parts) rest) :
    ∃ more, s = part ++ more := by
  generalize hparts : part :: parts = parts' at h
  induction h generalizing part parts with
  | stop rest => exact ⟨rest, by cases hparts; rfl⟩
  | bar => exact ⟨_, by cases hparts; rfl⟩
  | gap _ _ ih =>
    cases hparts
    obtain ⟨more, rfl⟩ := ih rfl
    exact ⟨more, rfl⟩
  | piece _ _ ih =>
    cases hparts
    obtain ⟨more, rfl⟩ := ih rfl
    exact ⟨more, (List.append_assoc _ _ _).symm⟩

/-- Every part consists of pieces and of a gap at its end. -/
theorem Cuts.spans (h : Cuts s parts rest) :
    ∀ part ∈ parts, ∃ ps t gap, part = t ++ gap ∧ Spans ps t ∧ Gap gap := by
  induction h with
  | stop => exact List.forall_mem_singleton.2 ⟨[], [], [], rfl, .nil, gap_nil⟩
  | bar _ ih => exact List.forall_mem_cons.2 ⟨⟨[], [], [], rfl, .nil, gap_nil⟩, ih⟩
  | @gap c s part rest parts hc _ ih =>
    obtain ⟨⟨ps, t, gap, rfl, hspans, hgap⟩, hparts⟩ := List.forall_mem_cons.1 ih
    refine List.forall_mem_cons.2 ⟨?_, hparts⟩
    cases hspans with
    | nil => exact ⟨[], [], c :: gap, rfl, .nil, List.forall_mem_cons.2 ⟨hc, hgap⟩⟩
    | cons hfront hstands htail =>
      exact ⟨_, _, gap, rfl, .cons (List.forall_mem_cons.2 ⟨hc, hfront⟩) hstands htail, hgap⟩
  | piece hstands htail ih =>
    obtain ⟨⟨ps, t, gap, rfl, hspans, hgap⟩, hparts⟩ := List.forall_mem_cons.1 ih
    obtain ⟨more, rfl⟩ := htail.exists_append
    exact List.forall_mem_cons.2 ⟨⟨_, _, gap, (List.append_assoc _ _ _).symm,
      .cons gap_nil hstands.of_append.of_append hspans, hgap⟩, hparts⟩

/-- A part consists of pieces also where it stands alone and trimmed. -/
theorem Cuts.spans_pieces (h : Cuts s parts rest) {part : List Char} (hpart : part ∈ parts) :
    Spans (pieces (trim part)) (trim part) := by
  obtain ⟨ps, t, gap, rfl, hspans, hgap⟩ := h.spans part hpart
  have htrim := hspans.trim_append hgap
  rwa [htrim.pieces_eq]

theorem Cuts.pieces_ne_nil (h : Cuts s parts rest) {part : List Char} (hpart : part ∈ parts)
    (hne : trim part ≠ []) : pieces (trim part) ≠ [] := by
  intro hnil
  have hspans := h.spans_pieces hpart
  rw [hnil] at hspans
  generalize trim part = t at hspans hne
  cases hspans
  exact hne rfl

/-! ## Alternatives -/

/-- The alternatives of a body are the parts that it is cut into, trimmed, if none is blank. -/
theorem alternativesOf_eq_ok_iff {texts : List String} : alternativesOf s = .ok texts ↔
    ∃ parts, Cuts s parts [] ∧ (∀ part ∈ parts, trim part ≠ []) ∧
      texts = parts.map fun part => String.ofList (trim part) := by
  simp only [← splitAlternatives_eq_some_iff, alternativesOf]
  cases splitAlternatives s with
  | none => simp
  | some parts =>
    simp only [Option.some.injEq, exists_eq_left']
    split
    · rename_i hblank
      have hblank : ∃ part ∈ parts, trim part = [] := by simpa using hblank
      obtain ⟨part, hpart, hnil⟩ := hblank
      simpa using fun hall => absurd hnil (hall part hpart)
    · rename_i hall
      have hall : ∀ part ∈ parts, trim part ≠ [] := by simpa using hall
      rw [and_iff_right hall, Except.ok.injEq, List.map_map, eq_comm]
      exact Iff.rfl

/-- A body has no alternatives if it cannot be cut as a whole or if a part is blank. -/
theorem alternativesOf_eq_error_iff {fault : LineFault} : alternativesOf s = .error fault ↔
    fault = .unterminatedQuote ∧ (¬ ∃ parts, Cuts s parts []) ∨
      fault = .emptyAlternative ∧ ∃ parts, Cuts s parts [] ∧ ∃ part ∈ parts, trim part = [] := by
  simp only [← splitAlternatives_eq_some_iff, alternativesOf]
  cases splitAlternatives s with
  | none =>
    constructor
    · rintro ⟨⟩
      exact .inl ⟨rfl, by simp⟩
    · rintro (⟨rfl, -⟩ | ⟨-, _, h, -⟩)
      · rfl
      · cases h
  | some parts =>
    simp only [Option.some.injEq, exists_eq', not_true_eq_false, and_false, false_or,
      exists_eq_left']
    split
    · rename_i hblank
      have hblank : ∃ part ∈ parts, trim part = [] := by simpa using hblank
      rw [and_iff_left hblank, Except.error.injEq, eq_comm]
    · rename_i hall
      have hall : ∀ part ∈ parts, trim part ≠ [] := by simpa using hall
      constructor
      · rintro ⟨⟩
      · rintro ⟨-, part, hpart, hnil⟩
        exact absurd hnil (hall part hpart)

end TopDown.Grammar
