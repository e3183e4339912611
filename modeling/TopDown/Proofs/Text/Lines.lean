import Mathlib.Data.List.TakeWhile
import TopDown.Text.Blank
import TopDown.Text.Lines
import TopDown.Text.Quoted

/-!
# Reading back what is written

* `Stops`, `takeWhile_append_stop`, `dropWhile_append_stop` : a run of characters is read up to what
  it cannot go on into;
* `newline_not_mem_lines` : no line holds a line feed;
* `lines_append`, `lines_eq_singleton` : what holds no line feed stays on one line;
* `lines_flatMap` : lines with a line feed behind each are cut at just these line feeds;
* `trim_eq_self` : a text that neither starts nor ends with a blank is not trimmed;
  `trim_blank_cons`, `trim_append_blank` : a blank at an end of a text is trimmed;
  `trimEnd_append` : the end of a text is trimmed within its last part that is not blank;
  `exists_blanks_trim`, `eq_nil_of_trim_eq_append`, `stops_trim`, `trim_eq_nil_iff` : what trimming
  takes off;
* `Gap`, `Gap.stops`, `skipGap_append`, `exists_gap_append_skipGap` : the spaces and tabs in front
  of a text;
* `Quoted.IsContent` : a text that is read back whole between quotes; `Quoted.inside_eq_some`,
  `Quoted.read_eq_some` : what is read between quotes is such a text;
* `isContent_escape`, `unescape_escape` : an escaped text is read back whole, as it was before.
-/

namespace TopDown.Text

/-! ## Runs -/

/-- No run of these characters can go on into the text. -/
def Stops (p : Char → Bool) (rest : List Char) : Prop := ∀ c ∈ rest.head?, p c = false

section Runs

variable {p : Char → Bool} {c : Char} {run rest : List Char}

theorem stops_nil : Stops p [] := fun _ h => absurd h (by simp)

theorem stops_cons (hc : p c = false) (s : List Char) : Stops p (c :: s) := by
  intro d hd
  cases hd
  exact hc

theorem takeWhile_append_stop (hrun : ∀ c ∈ run, p c = true) (hrest : Stops p rest) :
    (run ++ rest).takeWhile p = run := by
  rw [List.takeWhile_append_of_pos hrun]
  cases rest with
  | nil => exact List.append_nil run
  | cons c s => rw [List.takeWhile_cons_of_neg (by simp [hrest c rfl]), List.append_nil]

theorem dropWhile_append_stop (hrun : ∀ c ∈ run, p c = true) (hrest : Stops p rest) :
    (run ++ rest).dropWhile p = rest := by
  rw [List.dropWhile_append_of_pos hrun]
  cases rest with
  | nil => rfl
  | cons c s => exact List.dropWhile_cons_of_neg (by simp [hrest c rfl])

theorem stops_dropWhile (s : List Char) : Stops p (s.dropWhile p) := by
  intro c hc
  have hhead := List.head?_dropWhile_not p s
  rw [Option.mem_def.1 hc] at hhead
  exact hhead

end Runs

/-! ## Lines -/

theorem newline_not_mem_consLine {c : Char} {ls : List (List Char)} (hc : c ≠ '\n')
    (h : ∀ l ∈ ls, '\n' ∉ l) : ∀ l ∈ consLine c ls, '\n' ∉ l := by
  cases ls with
  | nil => simpa [consLine] using hc.symm
  | cons l ls =>
    obtain ⟨hl, hls⟩ := List.forall_mem_cons.1 h
    refine List.forall_mem_cons.2 ⟨fun hmem => ?_, hls⟩
    rcases List.mem_cons.1 hmem with heq | hmem
    · exact hc heq.symm
    · exact hl hmem

/-- No line holds a line feed. -/
theorem newline_not_mem_lines {s : List Char} : ∀ l ∈ lines s, '\n' ∉ l := by
  fun_induction lines s with
  | case1 => exact fun l hl => absurd hl List.not_mem_nil
  | case2 s ih => exact List.forall_mem_cons.2 ⟨List.not_mem_nil, ih⟩
  | case3 s ih => exact List.forall_mem_cons.2 ⟨List.not_mem_nil, ih⟩
  | case4 c s hc _ ih => exact newline_not_mem_consLine (fun h => hc h) ih

/-- What holds no line feed and does not end in a carriage return belongs to the line that it stands
in front of. -/
theorem lines_append {l l' s : List Char} {ls : List (List Char)} (hl : '\n' ∉ l)
    (hlast : l.getLast? ≠ some '\r') (h : lines s = l' :: ls) :
    lines (l ++ s) = (l ++ l') :: ls := by
  induction l with
  | nil => exact h
  | cons c l ih =>
    rw [List.mem_cons, not_or] at hl
    have hlast' : l.getLast? ≠ some '\r' := by
      cases l with
      | nil => simp
      | cons d l => simpa using hlast
    have hrest := ih hl.2 hlast'
    rw [List.cons_append, lines, hrest]
    · rfl
    · exact fun hc => hl.1 hc.symm
    · -- a carriage return is dropped only if the line feed comes next, and so the text would end
      intro s' hc hs'
      cases l with
      | nil => exact hlast (by rw [hc]; rfl)
      | cons d l =>
        cases hs'
        exact hl.2 List.mem_cons_self

/-- A line without a line feed that does not end in a carriage return is read back. -/
theorem lines_append_newline {l : List Char} (hl : '\n' ∉ l) (hlast : l.getLast? ≠ some '\r')
    (s : List Char) : lines (l ++ '\n' :: s) = l :: lines s := by
  have hlines := lines_append hl hlast (s := '\n' :: s) rfl
  rwa [List.append_nil] at hlines

theorem lines_ne_nil {s : List Char} (h : s ≠ []) : lines s ≠ [] := by
  fun_cases lines s with
  | case1 => exact absurd rfl h
  | case2 => exact List.cons_ne_nil _ _
  | case3 => exact List.cons_ne_nil _ _
  | case4 c s =>
    cases hs : lines s with
    | nil => exact List.cons_ne_nil _ _
    | cons l ls => exact List.cons_ne_nil _ _

/-- A text without a line feed is one line. -/
theorem lines_eq_singleton {s : List Char} (hs : s ≠ []) (hnewline : '\n' ∉ s) :
    lines s = [s] := by
  induction s with
  | nil => exact absurd rfl hs
  | cons c s ih =>
    rw [List.mem_cons, not_or] at hnewline
    have hline : lines (c :: s) = consLine c (lines s) := by
      rw [lines]
      · exact fun hc => hnewline.1 hc.symm
      · rintro s' - rfl
        exact hnewline.2 List.mem_cons_self
    cases s with
    | nil => exact hline
    | cons d s => rw [hline, ih (List.cons_ne_nil d s) hnewline.2, consLine]

/-- Lines with a line feed behind each are read back, whatever follows. -/
theorem lines_flatMap_append {ls : List (List Char)}
    (h : ∀ l ∈ ls, '\n' ∉ l ∧ l.getLast? ≠ some '\r') (s : List Char) :
    lines (ls.flatMap (· ++ ['\n']) ++ s) = ls ++ lines s := by
  induction ls with
  | nil => rfl
  | cons l ls ih =>
    obtain ⟨hl, hls⟩ := List.forall_mem_cons.1 h
    rw [List.flatMap_cons, List.append_assoc, List.append_assoc, List.singleton_append,
      lines_append_newline hl.1 hl.2, ih hls, List.cons_append]

theorem lines_flatMap {ls : List (List Char)}
    (h : ∀ l ∈ ls, '\n' ∉ l ∧ l.getLast? ≠ some '\r') : lines (ls.flatMap (· ++ ['\n'])) = ls := by
  simpa [lines] using lines_flatMap_append h []

theorem map_snd_numberedLines (s : List Char) : (numberedLines s).map Prod.snd = lines s := by
  rw [numberedLines, List.map_map]
  exact List.zipIdx_map_fst 0 (lines s)

/-- A numbered line has its number from the lines in front of it. -/
theorem lines_of_numberedLines {s : List Char} {before after : List (Nat × List Char)}
    {line : Nat × List Char} (h : numberedLines s = before ++ line :: after) :
    lines s = before.map Prod.snd ++ line.2 :: after.map Prod.snd ∧
      line.1 = before.length + 1 := by
  have hlines := map_snd_numberedLines s
  rw [h, List.map_append, List.map_cons] at hlines
  have hline : (numberedLines s)[before.length]? = some line := by
    rw [h, List.getElem?_append_right (Nat.le_refl _), Nat.sub_self]
    rfl
  refine ⟨hlines.symm, ?_⟩
  rw [numberedLines, List.getElem?_map, Option.map_eq_some_iff] at hline
  obtain ⟨⟨l, i⟩, hi, rfl⟩ := hline
  rw [List.getElem?_zipIdx, Option.map_eq_some_iff] at hi
  obtain ⟨_, -, hi⟩ := hi
  cases hi
  simp

/-- A line is numbered by the lines in front of it. -/
theorem numberedLines_of_lines {s raw : List Char} {before after : List (List Char)}
    (h : lines s = before ++ raw :: after) : ∃ front back,
      numberedLines s = front ++ (before.length + 1, raw) :: back ∧ front.map Prod.snd = before := by
  rw [numberedLines, h, List.zipIdx_append, List.zipIdx_cons, List.map_append, List.map_cons]
  refine ⟨_, _, by rw [Nat.zero_add], ?_⟩
  rw [List.map_map]
  exact List.zipIdx_map_fst 0 before

/-! ## Blanks -/

/-- A text whose first and last characters are no blanks is not trimmed. -/
theorem trim_eq_self {c d : Char} {s : List Char} (hc : isBlank c = false)
    (hd : isBlank d = false) (h : (c :: s).getLast? = some d) : trim (c :: s) = c :: s := by
  have hstart : trimStart (c :: s) = c :: s := by
    rw [trimStart, List.dropWhile_cons_of_neg (by simp [hc])]
  obtain ⟨s', hs'⟩ := List.getLast?_eq_some_iff.1 h
  rw [trim, hstart, trimEnd, hs', List.reverse_append, List.reverse_singleton,
    List.singleton_append, List.dropWhile_cons_of_neg (by simp [hd]), List.reverse_cons,
    List.reverse_reverse]

theorem trim_blank_cons {b : Char} (hb : isBlank b = true) (s : List Char) :
    trim (b :: s) = trim s := by
  rw [trim, trim, trimStart, List.dropWhile_cons_of_pos hb, trimStart]

/-- The end of a text is trimmed within its last part that is not blank. -/
theorem trimEnd_append (t s : List Char) :
    trimEnd (t ++ s) = if trimEnd s = [] then trimEnd t else t ++ trimEnd s := by
  rw [trimEnd, List.reverse_append, List.dropWhile_append]
  by_cases hs : s.reverse.dropWhile isBlank = []
  · simp [trimEnd, hs]
  · simp [trimEnd, hs]

theorem trim_append_blank {b : Char} (hb : isBlank b = true) (s : List Char) :
    trim (s ++ [b]) = trim s := by
  have hblank : trimEnd [b] = [] := by
    rw [trimEnd, List.reverse_singleton, List.dropWhile_cons_of_pos hb]
    rfl
  rw [trim, trimStart, List.dropWhile_append]
  split
  · rename_i hempty
    rw [trim, trimStart, List.isEmpty_iff.1 hempty, List.dropWhile_cons_of_pos hb]
    rfl
  · rw [trimEnd_append, if_pos hblank, trim, trimStart]

/-- Trimming takes blanks off both ends of a text. -/
theorem exists_blanks_trim (s : List Char) : ∃ front back, s = front ++ (trim s ++ back) ∧
    (∀ c ∈ front, isBlank c = true) ∧ ∀ c ∈ back, isBlank c = true := by
  have hback : trimStart s = trim s ++ ((trimStart s).reverse.takeWhile isBlank).reverse := by
    rw [trim, trimEnd, ← List.reverse_append, List.takeWhile_append_dropWhile,
      List.reverse_reverse]
  refine ⟨s.takeWhile isBlank, ((trimStart s).reverse.takeWhile isBlank).reverse, ?_,
    fun c hc => List.mem_takeWhile_imp hc,
    fun c hc => List.mem_takeWhile_imp (List.mem_reverse.1 hc)⟩
  rw [← hback]
  exact List.takeWhile_append_dropWhile.symm

/-- No blank is left at the end of a trimmed text. -/
theorem eq_nil_of_trim_eq_append {raw s back : List Char} (h : trim raw = s ++ back)
    (hback : ∀ c ∈ back, isBlank c = true) : back = [] := by
  by_contra hne
  have hlast : (trim raw).getLast? = some (back.getLast hne) := by
    rw [h, List.getLast?_append, List.getLast?_eq_some_getLast hne, Option.some_or]
  rw [trim, trimEnd, List.getLast?_reverse] at hlast
  have hblank := stops_dropWhile (p := isBlank) _ _ hlast
  rw [hback _ (List.getLast_mem hne)] at hblank
  cases hblank

/-- No blank is left at the start of a trimmed text. -/
theorem stops_trim (s : List Char) : Stops isBlank (trim s) := by
  have hprefix : trim s <+: trimStart s := by
    rw [← List.reverse_suffix, trim, trimEnd, List.reverse_reverse]
    exact List.dropWhile_suffix isBlank
  obtain ⟨back, hback⟩ := hprefix
  intro c hc
  refine stops_dropWhile (p := isBlank) s c ?_
  change c ∈ (trimStart s).head?
  rw [← hback, List.head?_append, Option.mem_def.1 hc]
  rfl

theorem trim_eq_nil_iff {s : List Char} : trim s = [] ↔ ∀ c ∈ s, isBlank c = true := by
  constructor
  · intro h
    obtain ⟨front, back, hs, hfront, hback⟩ := exists_blanks_trim s
    rw [h, List.nil_append] at hs
    rw [hs]
    exact List.forall_mem_append.2 ⟨hfront, hback⟩
  · intro h
    rw [trim, trimStart, List.dropWhile_eq_nil_iff.2 h]
    rfl

theorem mem_of_mem_trim {c : Char} {s : List Char} (h : c ∈ trim s) : c ∈ s := by
  rw [trim, trimEnd, List.mem_reverse] at h
  have h := (List.dropWhile_sublist _).subset h
  rw [List.mem_reverse] at h
  exact (List.dropWhile_sublist _).subset h

theorem mem_of_mem_skipGap {c : Char} {s : List Char} (h : c ∈ skipGap s) : c ∈ s :=
  (List.dropWhile_sublist _).subset h

/-- A run of spaces and tabs, or nothing. -/
def Gap (s : List Char) : Prop := ∀ c ∈ s, isGap c = true

theorem gap_nil : Gap [] := List.forall_mem_nil _

theorem Gap.isBlank {gap : List Char} (h : Gap gap) : ∀ c ∈ gap, isBlank c = true :=
  fun c hc => isBlank_of_isGap (h c hc)

/-- A reader of neither spaces nor tabs stops in front of a gap too. -/
theorem Gap.stops {p : Char → Bool} {gap s : List Char} (hgap : Gap gap) (hspace : p ' ' = false)
    (htab : p '\t' = false) (hs : Stops p s) : Stops p (gap ++ s) := by
  cases gap with
  | nil => exact hs
  | cons c gap =>
    have hc := hgap c List.mem_cons_self
    rw [isGap, Bool.or_eq_true, beq_iff_eq, beq_iff_eq] at hc
    rcases hc with rfl | rfl
    · exact stops_cons hspace _
    · exact stops_cons htab _

theorem skipGap_append {gap s : List Char} (hgap : Gap gap) (hs : Stops isGap s) :
    skipGap (gap ++ s) = s := dropWhile_append_stop hgap hs

theorem exists_gap_append_skipGap (s : List Char) : ∃ gap, Gap gap ∧ s = gap ++ skipGap s :=
  ⟨s.takeWhile isGap, fun _ hc => List.mem_takeWhile_imp hc,
    List.takeWhile_append_dropWhile.symm⟩

/-! ## Quoted texts -/

namespace Quoted

/-- The text is read back whole if it stands before a quote. -/
def IsContent (q : Char) (t : List Char) : Prop :=
  ∀ rest, inside q (t ++ q :: rest) = some (t, rest)

variable {q c : Char} {s t rest : List Char}

theorem isContent_nil (hq : q ≠ '\\') : IsContent q [] := by
  intro rest
  rw [List.nil_append, inside, if_pos rfl]
  exact fun _ _ h => absurd h hq

theorem IsContent.escape (h : IsContent q t) (c : Char) : IsContent q ('\\' :: c :: t) := by
  intro rest
  rw [List.cons_append, List.cons_append, inside, h rest]
  rfl

theorem IsContent.cons (h : IsContent q t) (hq : c ≠ q) (hc : c ≠ '\\') : IsContent q (c :: t) := by
  intro rest
  rw [List.cons_append, inside, if_neg hq, if_neg hc, h rest]
  · rfl
  · exact fun _ _ h => absurd h hc

/-- What stands before the closing quote is read back before any other. -/
theorem inside_eq_some (hq : q ≠ '\\') (h : inside q s = some (t, rest)) :
    s = t ++ q :: rest ∧ IsContent q t := by
  fun_induction inside q s generalizing t with
  | case1 => cases h
  | case2 c s ih =>
    obtain ⟨⟨u, r⟩, hu, he⟩ := Option.map_eq_some_iff.1 h
    cases he
    obtain ⟨rfl, hcontent⟩ := ih hu
    exact ⟨rfl, hcontent.escape c⟩
  | case3 =>
    cases h
    exact ⟨rfl, isContent_nil hq⟩
  | case4 => cases h
  | case5 c s _ hcq hc ih =>
    obtain ⟨⟨u, r⟩, hu, he⟩ := Option.map_eq_some_iff.1 h
    cases he
    obtain ⟨rfl, hcontent⟩ := ih hu
    exact ⟨rfl, hcontent.cons hcq hc⟩

theorem read_eq_some (hq : q ≠ '\\') (h : read q s = some (t, rest)) :
    s = q :: (t ++ q :: rest) ∧ IsContent q t := by
  cases s with
  | nil => cases h
  | cons c s =>
    rw [read] at h
    split at h
    · rename_i hc
      obtain ⟨rfl, hcontent⟩ := inside_eq_some hq h
      exact ⟨by rw [hc], hcontent⟩
    · cases h

theorem IsContent.read (h : IsContent q t) (rest : List Char) :
    Quoted.read q (q :: (t ++ q :: rest)) = some (t, rest) := by
  rw [Quoted.read, if_pos rfl]
  exact h rest

end Quoted

/-! ## Escaping -/

theorem isContent_escape (t : List Char) : Quoted.IsContent '"' (escape t) := by
  induction t with
  | nil => exact Quoted.isContent_nil (by decide)
  | cons c t ih =>
    rw [escape]
    split
    · exact ih.escape c
    · rename_i hc
      rw [not_or] at hc
      exact ih.cons hc.2 hc.1

theorem unescape_escape (t : List Char) : unescape (escape t) = t := by
  induction t with
  | nil => rfl
  | cons c t ih =>
    rw [escape]
    split
    · rw [unescape, ih]
    · rename_i hc
      rw [not_or] at hc
      rw [unescape, ih]
      · exact fun h _ => hc.1 h
      · exact fun _ _ h _ => hc.1 h

theorem mem_of_mem_escape {c : Char} {t : List Char} (hc : c ≠ '\\') (h : c ∈ escape t) :
    c ∈ t := by
  induction t with
  | nil => exact h
  | cons d t ih =>
    rw [escape] at h
    split at h
    · simp only [List.mem_cons, hc, false_or] at h
      exact List.mem_cons.2 (h.imp_right ih)
    · exact List.mem_cons.2 ((List.mem_cons.1 h).imp_right ih)

theorem mem_of_mem_unescape {c : Char} {t : List Char} (h : c ∈ unescape t) : c ∈ t := by
  fun_induction unescape t with
  | case1 => exact h
  | case2 => cases h
  | case3 d t ih =>
    exact List.mem_cons_of_mem _ (List.mem_cons.2 ((List.mem_cons.1 h).imp_right ih))
  | case4 d t _ _ ih => exact List.mem_cons.2 ((List.mem_cons.1 h).imp_right ih)

end TopDown.Text
