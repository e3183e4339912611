import Mathlib.Data.List.TakeWhile
import TopDown.Grammar.Declarations
import TopDown.Proofs.Text.Lines

/-!
# Writing the pieces of a body and reading them again

A body is written with a space in front of every piece and a bar between two alternatives. Nothing
of this is lost if every literal holds a text that is read back whole, and if every word holds word
characters only and cannot be taken for a literal.

* `IsBare`, `Piece.Plain` : the words and pieces that can be written so;
* `Piece.read_eq_word_iff`, `Piece.read_source` : where a word is read; a plain piece is read back
  before all that cannot be read on into a word;
* `pieces_trim_spaced`, `alternativesOf_barred` : so are sequences of pieces and of alternatives;
* `Piece.read_ne_none`, `Piece.stands_of_read` : where a piece is read and how it starts and ends.
-/

namespace TopDown.Grammar

open Text

/-! ## Pieces -/

/-- A text of word characters that does not start like a literal. -/
def IsBare (w : List Char) : Prop := (∀ c ∈ w, isWordChar c = true) ∧ w.head? ≠ some '\''

instance (w : List Char) : Decidable (IsBare w) :=
  decidable_of_iff (w.all isWordChar = true ∧ w.head? ≠ some '\'') (by simp [IsBare])

theorem isBlank_of_isWordChar {c : Char} (h : isWordChar c = true) : isBlank c = false := by
  simp only [isWordChar, Bool.and_eq_true, Bool.not_eq_true'] at h
  exact h.1.1

namespace Piece

/-- The piece can be written and read back. -/
def Plain : Piece → Prop
  | literal quote content => quote = '"' ∧ Quoted.IsContent '"' content
  | word text => text ≠ [] ∧ IsBare text

/-- A text whose last character is no blank. -/
def Closed (s : List Char) : Prop := ∃ d, s.getLast? = some d ∧ isBlank d = false

theorem Closed.append {t : List Char} (ht : Closed t) (s : List Char) : Closed (s ++ t) := by
  obtain ⟨d, hd, hblank⟩ := ht
  exact ⟨d, by rw [List.getLast?_append, hd, Option.some_or], hblank⟩

theorem Closed.trimEnd_eq {s : List Char} (h : Closed s) : trimEnd s = s := by
  obtain ⟨d, hlast, hd⟩ := h
  obtain ⟨t, rfl⟩ := List.getLast?_eq_some_iff.1 hlast
  rw [trimEnd, List.reverse_append, List.reverse_singleton, List.singleton_append,
    List.dropWhile_cons_of_neg (by simp [hd]), List.reverse_cons, List.reverse_reverse]

variable {p : Piece}

theorem exists_head_source (hp : p.Plain) :
    ∃ c s, p.source = c :: s ∧ isBlank c = false ∧ c ≠ '|' := by
  cases p with
  | literal quote content =>
    cases hp.1
    exact ⟨_, _, rfl, by decide, by decide⟩
  | word text =>
    obtain ⟨hne, hchars, -⟩ := hp
    cases text with
    | nil => exact absurd rfl hne
    | cons c s =>
      have hc := hchars c List.mem_cons_self
      refine ⟨c, s, rfl, isBlank_of_isWordChar hc, ?_⟩
      rintro rfl
      exact absurd hc (by decide)

theorem closed_source (hp : p.Plain) : Closed p.source := by
  cases p with
  | literal quote content =>
    cases hp.1
    exact ⟨'"', by simp [source, List.getLast?_cons], by decide⟩
  | word text =>
    obtain ⟨hne, hchars, -⟩ := hp
    exact ⟨text.getLast hne, List.getLast?_eq_some_getLast hne,
      isBlank_of_isWordChar (hchars _ (List.getLast_mem hne))⟩

/-- Where a word is read: a run of word characters, unless a literal starts there. -/
theorem read_eq_word_iff {s w rest : List Char} : read s = some (word w, rest) ↔
    s = w ++ rest ∧ w ≠ [] ∧ (∀ c ∈ w, isWordChar c = true) ∧ Stops isWordChar rest ∧
      Quoted.read '\'' s = none := by
  constructor
  · intro h
    unfold read at h
    split at h
    · cases h
    · split at h
      · cases h
      · split at h
        · cases h
        · rename_i hquote hne
          cases h
          exact ⟨List.takeWhile_append_dropWhile.symm, fun hnil => hne (List.isEmpty_iff.2 hnil),
            fun _ hc => List.mem_takeWhile_imp hc, stops_dropWhile _, hquote⟩
  · rintro ⟨rfl, hne, hchars, hrest, hquote⟩
    have hdouble : Quoted.read '"' (w ++ rest) = none := by
      cases w with
      | nil => exact absurd rfl hne
      | cons c s => exact if_neg fun hc => absurd (hc ▸ hchars c List.mem_cons_self) (by decide)
    rw [read, hdouble, hquote, takeWhile_append_stop hchars hrest,
      dropWhile_append_stop hchars hrest]
    simp only [List.isEmpty_iff, hne, if_false]

/-- A plain piece is read back from in front of a text that does not go on with a word. -/
theorem read_source (hp : p.Plain) {rest : List Char} (hrest : Stops isWordChar rest) :
    read (p.source ++ rest) = some (p, rest) := by
  cases p with
  | literal quote content =>
    obtain ⟨rfl, hcontent⟩ := hp
    have hread : Quoted.read '"' ((literal '"' content).source ++ rest) = some (content, rest) := by
      rw [source, List.cons_append, List.cons_append, List.append_assoc, List.singleton_append]
      exact hcontent.read rest
    rw [read, hread]
  | word text =>
    obtain ⟨hne, hchars, hhead⟩ := hp
    refine read_eq_word_iff.2 ⟨rfl, hne, hchars, hrest, ?_⟩
    cases text with
    | nil => exact absurd rfl hne
    | cons c s => exact if_neg fun hc => hhead (congrArg some hc)

/-- No piece starts with a blank. -/
theorem read_blank_cons {c : Char} (hc : isBlank c = true) (s : List Char) :
    read (c :: s) = none := by
  have hdouble : c ≠ '"' := by
    rintro rfl
    exact absurd hc (by decide)
  have hprime : c ≠ '\'' := by
    rintro rfl
    exact absurd hc (by decide)
  simp [read, Quoted.read, isWordChar, hdouble, hprime, hc]

/-- A piece is cut off the start of the text. -/
theorem source_append_of_read {s rest : List Char} (h : read s = some (p, rest)) :
    p.source ++ rest = s := by
  unfold read at h
  split at h
  · rename_i hread
    cases h
    simp [source, (Quoted.read_eq_some (by decide) hread).1]
  · split at h
    · rename_i hread
      cases h
      simp [source, (Quoted.read_eq_some (by decide) hread).1]
    · split at h
      · cases h
      · cases h
        exact List.takeWhile_append_dropWhile

end Piece

theorem pieces_eq (s : List Char) :
    pieces s =
      match Piece.read (skipGap s) with
      | none => []
      | some (p, rest) => p :: pieces rest := by
  rw [pieces]
  split <;> simp only [*]

theorem pieces_nil : pieces [] = [] := by
  rw [pieces_eq]
  rfl

theorem skipGap_gap_cons {c : Char} (hc : isGap c = true) (s : List Char) :
    skipGap (c :: s) = skipGap s := List.dropWhile_cons_of_pos hc

theorem pieces_gap_cons {c : Char} (hc : isGap c = true) (s : List Char) :
    pieces (c :: s) = pieces s := by
  rw [pieces_eq, pieces_eq s, skipGap_gap_cons hc]

/-- A text that starts with no blank has no gap in front of it. -/
theorem skipGap_eq_self {c : Char} (hc : isBlank c = false) (s : List Char) :
    skipGap (c :: s) = c :: s := by
  refine List.dropWhile_cons_of_neg fun hgap => ?_
  rw [isBlank_of_isGap hgap] at hc
  cases hc

theorem pieces_of_read {p : Piece} {s rest : List Char} (h : Piece.read s = some (p, rest)) :
    pieces s = p :: pieces rest := by
  have hskip : skipGap s = s := by
    cases s with
    | nil => rfl
    | cons c s =>
      refine List.dropWhile_cons_of_neg fun hgap => ?_
      rw [Piece.read_blank_cons (isBlank_of_isGap hgap)] at h
      cases h
  rw [pieces_eq, hskip, h]

/-! ## Sequences of pieces -/

/-- Pieces with a space in front of each. -/
def spaced (ps : List Piece) : List Char := ps.flatMap fun p => ' ' :: p.source

theorem spaced_cons (p : Piece) (ps : List Piece) :
    spaced (p :: ps) = ' ' :: (p.source ++ spaced ps) := rfl

theorem stops_spaced (ps : List Piece) : Stops isWordChar (spaced ps) := by
  cases ps with
  | nil => exact stops_nil
  | cons p ps => exact stops_cons (by decide) _

theorem pieces_spaced {ps : List Piece} (hps : ∀ p ∈ ps, p.Plain) : pieces (spaced ps) = ps := by
  induction ps with
  | nil => exact pieces_nil
  | cons p ps ih =>
    obtain ⟨hp, hps⟩ := List.forall_mem_cons.1 hps
    rw [spaced_cons, pieces_gap_cons (by decide),
      pieces_of_read (Piece.read_source hp (stops_spaced ps)), ih hps]

theorem closed_spaced {p : Piece} {ps : List Piece} (hps : ∀ p' ∈ p :: ps, p'.Plain) :
    Piece.Closed (p.source ++ spaced ps) := by
  induction ps generalizing p with
  | nil => simpa [spaced] using Piece.closed_source (hps p List.mem_cons_self)
  | cons p' ps ih =>
    rw [spaced_cons]
    exact ((ih (List.forall_mem_cons.1 hps).2).append [' ']).append p.source

/-- Only the space in front of the first piece is trimmed. -/
theorem trim_spaced {p : Piece} {ps : List Piece} (hps : ∀ p' ∈ p :: ps, p'.Plain) :
    trim (spaced (p :: ps)) = p.source ++ spaced ps := by
  obtain ⟨d, hlast, hd⟩ := closed_spaced hps
  obtain ⟨c, s, hsource, hc, -⟩ := Piece.exists_head_source (hps p List.mem_cons_self)
  rw [hsource, List.cons_append] at hlast
  rw [spaced_cons, hsource, trim_blank_cons (by decide), List.cons_append,
    trim_eq_self hc hd hlast]

/-- A sequence of plain pieces is read back. -/
theorem pieces_trim_spaced {ps : List Piece} (hps : ∀ p ∈ ps, p.Plain) :
    pieces (trim (spaced ps)) = ps := by
  cases ps with
  | nil => exact pieces_nil
  | cons p ps =>
    have hpieces := pieces_spaced hps
    rw [spaced_cons, pieces_gap_cons (by decide)] at hpieces
    rw [trim_spaced hps, hpieces]

/-! ## Alternatives -/

theorem prependPart_append (s t : List Char) (parts : List (List Char)) :
    prependPart (s ++ t) parts = prependPart s (prependPart t parts) := by
  cases parts with
  | nil => rfl
  | cons part parts => simp [prependPart]

theorem splitAlternatives_gap_cons {c : Char} (hc : isGap c = true) (s : List Char) :
    splitAlternatives (c :: s) = (splitAlternatives s).map (prependPart [c]) := by
  have hbar : c ≠ '|' := by
    rintro rfl
    exact absurd hc (by decide)
  rw [splitAlternatives, if_neg hbar, if_pos hc]

theorem splitAlternatives_bar_cons (s : List Char) :
    splitAlternatives ('|' :: s) = (splitAlternatives s).map ([] :: ·) := by
  rw [splitAlternatives, if_pos rfl]

theorem splitAlternatives_nil : splitAlternatives [] = some [[]] := by
  rw [splitAlternatives]

/-- A piece belongs to the first part of what it stands in front of. -/
theorem splitAlternatives_of_read {p : Piece} {s rest : List Char}
    (h : Piece.read s = some (p, rest)) :
    splitAlternatives s = (splitAlternatives rest).map (prependPart p.source) := by
  fun_cases splitAlternatives s with
  | case1 => cases h
  | case2 cs => cases h
  | case3 c cs _ hgap =>
    rw [Piece.read_blank_cons (isBlank_of_isGap hgap)] at h
    cases h
  | case4 c cs _ _ hnone =>
    rw [hnone] at h
    cases h
  | case5 c cs _ _ p' rest' hread _ =>
    rw [hread] at h
    cases h
    rfl

/-- Plain pieces belong to the first part of what they stand in front of. -/
theorem splitAlternatives_spaced {p : Piece} {ps : List Piece} (hps : ∀ p' ∈ p :: ps, p'.Plain)
    {rest : List Char} (hrest : Stops isWordChar rest) :
    splitAlternatives (spaced (p :: ps) ++ rest) =
      (splitAlternatives rest).map (prependPart (spaced (p :: ps))) := by
  induction ps generalizing p with
  | nil =>
    rw [spaced_cons, show spaced [] = [] from rfl, List.append_nil, List.cons_append,
      splitAlternatives_gap_cons (by decide),
      splitAlternatives_of_read (Piece.read_source (hps p List.mem_cons_self) hrest),
      Option.map_map]
    exact congrArg (Option.map · _) (funext fun parts => (prependPart_append [' '] _ parts).symm)
  | cons p' ps ih =>
    obtain ⟨hp, hps⟩ := List.forall_mem_cons.1 hps
    have hends : Stops isWordChar (spaced (p' :: ps) ++ rest) := stops_cons (by decide) _
    rw [spaced_cons, List.cons_append, List.append_assoc, splitAlternatives_gap_cons (by decide),
      splitAlternatives_of_read (Piece.read_source hp hends), ih hps, Option.map_map,
      Option.map_map]
    refine congrArg (Option.map · _) (funext fun parts => ?_)
    simp only [Function.comp_apply, ← prependPart_append, List.singleton_append]

/-- Bodies with a bar between two of them. -/
def barred (bodies : List (List Piece)) : List Char :=
  [' ', '|'].intercalate (bodies.map spaced)

theorem barred_singleton (body : List Piece) : barred [body] = spaced body :=
  List.intercalate_singleton

theorem barred_cons_cons (body body' : List Piece) (bodies : List (List Piece)) :
    barred (body :: body' :: bodies) = spaced body ++ ' ' :: '|' :: barred (body' :: bodies) := by
  rw [barred, List.map_cons, List.map_cons, List.intercalate_cons_cons, List.append_assoc]
  rfl

/-- A body that can be written: it is not empty, and all its pieces are plain. -/
def PlainBody (body : List Piece) : Prop := body ≠ [] ∧ ∀ p ∈ body, p.Plain

/-- Bodies between bars are cut at just these bars. -/
theorem splitAlternatives_barred {body : List Piece} {bodies : List (List Piece)}
    (h : ∀ b ∈ body :: bodies, PlainBody b) :
    (splitAlternatives (barred (body :: bodies))).map (List.map trim) =
      some ((body :: bodies).map fun b => trim (spaced b)) := by
  induction bodies generalizing body with
  | nil =>
    obtain ⟨hne, hbody⟩ := h body List.mem_cons_self
    obtain ⟨p, ps, rfl⟩ := List.exists_cons_of_ne_nil hne
    have hsplit := splitAlternatives_spaced hbody stops_nil
    rw [List.append_nil, splitAlternatives_nil] at hsplit
    rw [barred_singleton, hsplit]
    simp [prependPart]
  | cons body' bodies ih =>
    obtain ⟨⟨hne, hbody⟩, hbodies⟩ := List.forall_mem_cons.1 h
    obtain ⟨p, ps, rfl⟩ := List.exists_cons_of_ne_nil hne
    obtain ⟨parts, hparts, htrim⟩ := Option.map_eq_some_iff.1 (ih hbodies)
    have hends : Stops isWordChar (' ' :: '|' :: barred (body' :: bodies)) :=
      stops_cons (by decide) _
    have hfirst := trim_append_blank (by decide : isBlank ' ' = true) (spaced (p :: ps))
    rw [barred_cons_cons, splitAlternatives_spaced hbody hends,
      splitAlternatives_gap_cons (by decide), splitAlternatives_bar_cons, hparts]
    simp [prependPart, hfirst, htrim]

theorem trim_spaced_ne_nil {body : List Piece} (h : PlainBody body) : trim (spaced body) ≠ [] := by
  obtain ⟨hne, hbody⟩ := h
  obtain ⟨p, ps, rfl⟩ := List.exists_cons_of_ne_nil hne
  obtain ⟨c, s, hsource, -, -⟩ := Piece.exists_head_source (hbody p List.mem_cons_self)
  rw [trim_spaced hbody, hsource]
  exact List.cons_ne_nil _ _

/-- The alternatives of written bodies are the texts of these bodies. -/
theorem alternativesOf_barred {bodies : List (List Piece)} (hne : bodies ≠ [])
    (h : ∀ b ∈ bodies, PlainBody b) :
    alternativesOf (barred bodies) =
      .ok (bodies.map fun b => String.ofList (trim (spaced b))) := by
  obtain ⟨body, bodies, rfl⟩ := List.exists_cons_of_ne_nil hne
  obtain ⟨parts, hparts, htrim⟩ := Option.map_eq_some_iff.1 (splitAlternatives_barred h)
  have hnone : ((body :: bodies).map fun b => trim (spaced b)).any List.isEmpty = false := by
    rw [List.any_map, List.any_eq_false]
    intro b hb
    rw [Function.comp_apply, List.isEmpty_iff]
    exact trim_spaced_ne_nil (h b hb)
  rw [alternativesOf, hparts]
  simp only [htrim, hnone, Bool.false_eq_true, if_false, List.map_map]
  rfl

theorem closed_barred {bodies : List (List Piece)} (hne : bodies ≠ [])
    (h : ∀ b ∈ bodies, PlainBody b) : Piece.Closed (barred bodies) := by
  induction bodies with
  | nil => exact absurd rfl hne
  | cons body bodies ih =>
    obtain ⟨⟨hne, hbody⟩, hbodies⟩ := List.forall_mem_cons.1 h
    obtain ⟨p, ps, rfl⟩ := List.exists_cons_of_ne_nil hne
    cases bodies with
    | nil =>
      rw [barred_singleton, spaced_cons]
      exact (closed_spaced hbody).append [' ']
    | cons body' bodies =>
      rw [barred_cons_cons]
      exact ((ih (List.cons_ne_nil _ _) hbodies).append [' ', '|']).append _

theorem not_mem_barred {c : Char} (hc : c ≠ ' ' ∧ c ≠ '|') {bodies : List (List Piece)}
    (h : ∀ b ∈ bodies, ∀ p ∈ b, c ∉ p.source) : c ∉ barred bodies := by
  have hspaced : ∀ b ∈ bodies, c ∉ spaced b := by
    intro b hb hmem
    obtain ⟨p, hp, hmem⟩ := List.mem_flatMap.1 hmem
    exact h b hb p hp ((List.mem_cons.1 hmem).resolve_left hc.1)
  induction bodies with
  | nil => exact List.not_mem_nil
  | cons body bodies ih =>
    obtain ⟨hbody, hbodies⟩ := List.forall_mem_cons.1 hspaced
    cases bodies with
    | nil => rwa [barred_singleton]
    | cons body' bodies =>
      have hrest := ih (fun b hb => h b (List.mem_cons_of_mem _ hb)) hbodies
      simp [barred_cons_cons, hbody, hrest, hc]

/-! ## Pieces of any line -/

/-- Where a word character stands, a piece starts. -/
theorem Piece.read_ne_none {c : Char} (hc : isWordChar c = true) (s : List Char) :
    read (c :: s) ≠ none := by
  unfold read
  split
  · simp
  · split
    · simp
    · rw [List.takeWhile_cons_of_pos hc]
      simp

/-- A piece that was read neither starts nor ends with a blank. -/
theorem Piece.stands_of_read {s rest : List Char} {p : Piece} (h : read s = some (p, rest)) :
    ∃ c t, p.source = c :: t ∧ isBlank c = false ∧ Closed (c :: t) := by
  unfold read at h
  split at h
  · rename_i content _ hread
    cases h
    obtain ⟨-, hcontent⟩ := Quoted.read_eq_some (by decide) hread
    have hplain : (literal '"' content).Plain := ⟨rfl, hcontent⟩
    exact ⟨_, _, rfl, by decide, closed_source hplain⟩
  · split at h
    · cases h
      exact ⟨_, _, rfl, by decide, '\'', by simp [List.getLast?_cons], by decide⟩
    · split at h
      · cases h
      · rename_i hne
        cases h
        have hchars : ∀ c ∈ s.takeWhile isWordChar, isWordChar c = true :=
          fun _ hc => List.mem_takeWhile_imp hc
        have hne : s.takeWhile isWordChar ≠ [] := fun hnil => hne (List.isEmpty_iff.2 hnil)
        obtain ⟨c, t, hword⟩ := List.exists_cons_of_ne_nil hne
        rw [hword] at hchars
        refine ⟨c, t, hword, isBlank_of_isWordChar (hchars c List.mem_cons_self), _,
          List.getLast?_eq_some_getLast (List.cons_ne_nil c t), ?_⟩
        exact isBlank_of_isWordChar (hchars _ (List.getLast_mem _))

/-- No piece that is read is empty. -/
theorem source_ne_nil_of_mem_pieces {s : List Char} {p : Piece} (h : p ∈ pieces s) :
    p.source ≠ [] := by
  fun_induction pieces s with
  | case1 => cases h
  | case2 s p' rest hread _ ih =>
    rcases List.mem_cons.1 h with rfl | h
    · obtain ⟨c, t, hsource, -⟩ := Piece.stands_of_read hread
      rw [hsource]
      exact List.cons_ne_nil c t
    · exact ih h

/-- A text that is not blank at its ends stays in front when the text behind it is trimmed. -/
theorem trim_append_of_closed {c : Char} {t : List Char} (hc : isBlank c = false)
    (ht : Piece.Closed (c :: t)) (s : List Char) : trim (c :: t ++ s) = c :: t ++ trimEnd s := by
  have hstart : trimStart (c :: t ++ s) = c :: t ++ s :=
    List.dropWhile_cons_of_neg (by simp [hc])
  rw [trim, hstart, trimEnd_append, ht.trimEnd_eq]
  split
  · simp only [*, List.append_nil]
  · rfl

end TopDown.Grammar
