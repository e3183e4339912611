import TopDown.Compilation
import TopDown.Proofs.Lexicon.RoundTrip

/-!
# Linting agrees with compiling

Linting goes on where compiling stops, so the first fault that it lists is the one that compiling
stops at.

* `Lexicon.isMalformed` : a line that says nothing because it has a fault;
* `Lexicon.blanked` : a text with its malformed lines emptied; `Lexicon.parse_blanked` : linting a
  text reads as much of it as is read once these lines are empty;
* `Lexicon.forall₂_isFaultOf_lint` : linting lists one fault a malformed line, in line order;
* `Lexicon.parse_eq_of_lint` : the first of these faults is the one that reading stops at;
* `lint_agrees_ofTexts` : the same of both texts of a language.
-/

namespace TopDown

namespace Lexicon

open Text

/-! ## Malformed lines -/

/-- A line that cannot be read. -/
def isMalformed (raw : List Char) : Bool := (failure? (Line.read raw)).isSome

/-- A line, emptied if it is malformed. -/
def blankLine (raw : List Char) : List Char := if isMalformed raw then [] else raw

/-- A text with its malformed lines emptied. -/
def blanked (text : String) : String :=
  String.ofList (['\n'].intercalate ((text.toList.splitOn '\n').map blankLine))

/-- What a line says, which is nothing if it is malformed. -/
def said (raw : List Char) : Line := (Line.read raw).toOption.getD .skip

theorem read_blankLine (raw : List Char) : Line.read (blankLine raw) = .ok (said raw) := by
  unfold blankLine isMalformed said
  cases hread : Line.read raw with
  | error fault => rfl
  | ok l => exact hread

/-! ## Lines and line feeds -/

/-- The part of a text between two line feeds is a line, with the carriage return that goes with
the second line feed. -/
def Bounds (l part : List Char) : Prop := part = l ∨ part = l ++ ['\r']

theorem Bounds.read {l part : List Char} (h : Bounds l part) : Line.read part = Line.read l := by
  rcases h with rfl | rfl
  · rfl
  · unfold Line.read
    rw [trim_append_blank (by decide)]

theorem splitOn_newline (s : List Char) :
    ('\n' :: s).splitOn '\n' = [] :: s.splitOn '\n' := by
  rw [List.splitOn_cons_eq_if_modifyHead, if_pos (beq_self_eq_true _)]

theorem splitOn_of_ne {c : Char} (hc : c ≠ '\n') (s : List Char) :
    (c :: s).splitOn '\n' = (s.splitOn '\n').modifyHead (c :: ·) := by
  rw [List.splitOn_cons_eq_if_modifyHead, if_neg (by simpa using hc)]

/-- The lines of a text stand between its line feeds. Behind the last one there may be nothing. -/
theorem exists_bounds_splitOn (s : List Char) :
    ∃ parts, (s.splitOn '\n' = parts ∨ s.splitOn '\n' = parts ++ [[]]) ∧
      List.Forall₂ Bounds (lines s) parts := by
  fun_induction lines s with
  | case1 => exact ⟨[], .inr rfl, .nil⟩
  | case2 s ih =>
    obtain ⟨parts, hparts, hbounds⟩ := ih
    rw [splitOn_newline]
    exact ⟨[] :: parts, hparts.imp (congrArg ([] :: ·)) (congrArg ([] :: ·)),
      .cons (.inl rfl) hbounds⟩
  | case3 s ih =>
    obtain ⟨parts, hparts, hbounds⟩ := ih
    rw [splitOn_of_ne (by decide), splitOn_newline]
    exact ⟨['\r'] :: parts, hparts.imp (congrArg (['\r'] :: ·)) (congrArg (['\r'] :: ·)),
      .cons (.inr rfl) hbounds⟩
  | case4 c s hc _ ih =>
    obtain ⟨parts, hparts, hbounds⟩ := ih
    rw [splitOn_of_ne hc]
    cases hlines : lines s with
    | nil =>
      -- the text ends here, so the character is a line without a line feed
      rw [hlines, List.forall₂_nil_left_iff] at hbounds
      subst hbounds
      refine ⟨[[c]], .inl ?_, .cons (.inl rfl) .nil⟩
      rcases hparts with hparts | hparts
      · exact absurd hparts (List.splitOn_ne_nil _ _)
      · rw [hparts]
        rfl
    | cons l ls =>
      rw [hlines, List.forall₂_cons_left_iff] at hbounds
      obtain ⟨part, parts, hl, hls, rfl⟩ := hbounds
      exact ⟨(c :: part) :: parts,
        hparts.imp (congrArg (List.modifyHead (c :: ·))) (congrArg (List.modifyHead (c :: ·))),
        .cons (hl.imp (congrArg (c :: ·)) (congrArg (c :: ·))) hls⟩

/-! ## Blanked texts -/

theorem separatorsOf_cons (l : Line) (ls : List Line) :
    separatorsOf (l :: ls) = separatorsOf [l] ++ separatorsOf ls := by
  rw [separatorsOf, separatorsOf, separatorsOf, List.flatMap_cons, List.flatMap_singleton]

theorem separatorsOf_filter (ls : List Line) :
    separatorsOf (ls.filter (· ≠ .skip)) = separatorsOf ls := by
  induction ls with
  | nil => rfl
  | cons l ls ih =>
    by_cases hl : l = .skip
    · rw [hl, List.filter_cons_of_neg (by simp), ih]
      rfl
    · rw [List.filter_cons_of_pos (by simpa using hl), separatorsOf_cons, separatorsOf_cons l ls,
        ih]

/-- Lines that say nothing do not matter. -/
theorem ofLines_filter (ls : List Line) : ofLines (ls.filter (· ≠ .skip)) = ofLines ls := by
  have hrules : rulesOf (ls.filter (· ≠ .skip)) = rulesOf ls := by
    rw [rulesOf, rulesOf, List.filterMap_filter]
    refine List.filterMap_congr fun l _ => ?_
    cases l <;> rfl
  rw [ofLines, ofLines, hrules, separatorsOf_filter]

/-- What the lines of a text say, apart from those that say nothing. -/
def statements (s : List Char) : List Line := ((lines s).map said).filter (· ≠ .skip)

theorem statements_eq (s : List Char) :
    statements s = ((s.splitOn '\n').map said).filter (· ≠ .skip) := by
  obtain ⟨parts, hparts, hbounds⟩ := exists_bounds_splitOn s
  have hsaid : (lines s).map said = parts.map said := by
    rw [← List.forall₂_eq_eq_eq, List.forall₂_map_left_iff, List.forall₂_map_right_iff]
    exact hbounds.imp fun l part h => by rw [said, said, h.read]
  rw [statements, hsaid]
  rcases hparts with h | h
  · rw [h]
  · rw [h, List.map_append, List.filter_append]
    exact (List.append_nil _).symm

/-- What stands between the line feeds of a text is a line up to a carriage return, or nothing. -/
theorem exists_line_of_mem_splitOn {s part : List Char} (h : part ∈ s.splitOn '\n') :
    part = [] ∨ ∃ l ∈ lines s, Bounds l part := by
  obtain ⟨parts, hparts, hbounds⟩ := exists_bounds_splitOn s
  rcases hparts with heq | heq
  · exact .inr (exists_of_mem_right hbounds (heq ▸ h))
  · rw [heq, List.mem_append, List.mem_singleton] at h
    exact h.symm.imp_right (exists_of_mem_right hbounds)

theorem newline_not_mem_splitOn {s part : List Char} (h : part ∈ s.splitOn '\n') :
    '\n' ∉ part := by
  rcases exists_line_of_mem_splitOn h with rfl | ⟨l, hl, hbounds⟩
  · exact List.not_mem_nil
  · have hl := newline_not_mem_lines l hl
    rcases hbounds with rfl | rfl
    · exact hl
    · simpa using hl

theorem splitOn_blanked (text : String) :
    (blanked text).toList.splitOn '\n' = (text.toList.splitOn '\n').map blankLine := by
  rw [blanked, String.toList_ofList, List.splitOn_intercalate]
  · intro l hl
    obtain ⟨part, hpart, rfl⟩ := List.mem_map.1 hl
    unfold blankLine
    split
    · exact List.not_mem_nil
    · exact newline_not_mem_splitOn hpart
  · simp

/-- The lines of a blanked text can all be read. -/
theorem read_of_mem_lines_blanked {text : String} {l : List Char}
    (hl : l ∈ lines (blanked text).toList) : Line.read l = .ok (said l) := by
  obtain ⟨parts, hparts, hbounds⟩ := exists_bounds_splitOn (blanked text).toList
  obtain ⟨part, hpart, hbound⟩ := exists_of_mem_right hbounds.flip hl
  have hmem : part ∈ (text.toList.splitOn '\n').map blankLine := by
    rw [← splitOn_blanked]
    rcases hparts with heq | heq
    · rwa [heq]
    · exact heq ▸ List.mem_append_left _ hpart
  obtain ⟨raw, -, rfl⟩ := List.mem_map.1 hmem
  rw [said, ← Bounds.read hbound, read_blankLine]
  rfl

/-- Emptying the malformed lines of a text changes nothing of what it says. -/
theorem statements_blanked (text : String) :
    statements (blanked text).toList = statements text.toList := by
  rw [statements_eq, statements_eq, splitOn_blanked, List.map_map]
  congr 1
  refine List.map_congr_left fun raw _ => ?_
  rw [Function.comp_apply, said, read_blankLine]
  rfl

/-- What the good lines among some lines say is what all of them say. -/
theorem filter_good (raws : List (List Char)) :
    (raws.filterMap fun raw => (Line.read raw).toOption).filter (· ≠ .skip) =
      (raws.map said).filter (· ≠ .skip) := by
  induction raws with
  | nil => rfl
  | cons raw raws ih =>
    cases hread : Line.read raw with
    | error fault =>
      have hsaid : said raw = .skip := by rw [said, hread]; rfl
      rw [List.filterMap_cons_none (by rw [hread]; rfl), ih, List.map_cons, hsaid,
        List.filter_cons_of_neg (by simp)]
    | ok l =>
      have hsaid : said raw = l := by rw [said, hread]; rfl
      rw [List.filterMap_cons_some (by rw [hread]; rfl), List.map_cons, hsaid, List.filter_cons,
        List.filter_cons, ih]

theorem toOption_readNumbered (line : Nat × List Char) :
    (readNumbered line).toOption = (Line.read line.2).toOption := by
  rw [readNumbered]
  cases Line.read line.2 <;> rfl

theorem fst_lint (text : String) : (lint text).1 = ofLines (statements text.toList) := by
  have hgood : (lint text).1 =
      ofLines ((lines text.toList).filterMap fun raw => (Line.read raw).toOption) := by
    rw [lint, ← map_snd_numberedLines, List.filterMap_map, List.filterMap_map]
    simp only [Function.comp_def, toOption_readNumbered, List.filterMap_map]
  rw [hgood, ← ofLines_filter, filter_good]
  rfl

/-- The good lines of a text are read as if the malformed ones were empty. -/
theorem parse_blanked (text : String) : parse (blanked text) = .ok (lint text).1 := by
  have hread : List.Forall₂ (fun raw l => Line.read raw = .ok l)
      (lines (blanked text).toList) ((lines (blanked text).toList).map said) := by
    rw [List.forall₂_map_right_iff, List.forall₂_same]
    exact fun l hl => read_of_mem_lines_blanked hl
  rw [parse_eq_ok hread, ← ofLines_filter, fst_lint, ← statements_blanked]
  rfl

/-! ## Faults -/

/-- The fault of a numbered line. -/
def IsFaultOf (line : Nat × List Char) (e : SpecError) : Prop :=
  ∃ fault, Line.read line.2 = .error fault ∧
    e = .lexicon line.1 (String.ofList line.2) fault

theorem snd_lint (text : String) :
    (lint text).2 = ((numberedLines text.toList).map readNumbered).filterMap failure? := by
  refine List.filterMap_congr fun result _ => ?_
  cases result <;> rfl

/-- Linting lists one fault a malformed line, in line order. -/
theorem forall₂_isFaultOf_lint (text : String) :
    List.Forall₂ IsFaultOf ((numberedLines text.toList).filter (isMalformed ·.2))
      (lint text).2 := by
  rw [snd_lint]
  induction numberedLines text.toList with
  | nil => exact .nil
  | cons line lines ih =>
    cases hread : Line.read line.2 with
    | error fault =>
      have hmalformed : isMalformed line.2 = true := by rw [isMalformed, hread]; rfl
      have hnumbered : readNumbered line =
          .error (.lexicon line.1 (String.ofList line.2) fault) := by
        rw [readNumbered, hread]
      rw [List.filter_cons, if_pos hmalformed, List.map_cons, hnumbered]
      exact .cons ⟨fault, hread, rfl⟩ ih
    | ok l =>
      have hmalformed : isMalformed line.2 = false := by rw [isMalformed, hread]; rfl
      rw [List.filter_cons, if_neg (by simp [hmalformed]), List.map_cons,
        readNumbered_eq_ok.2 hread]
      exact ih

/-- Reading stops at the first fault that linting lists, and without a fault both read the same. -/
theorem parse_eq_of_lint (text : String) :
    parse text = match (lint text).2.head? with
      | some e => .error e
      | none => .ok (lint text).1 := by
  rw [parse, mapM_eq_firstFailure, snd_lint]
  cases (((numberedLines text.toList).map readNumbered).filterMap failure?).head? <;> rfl

theorem parse_eq_ok_iff_lint {text : String} {x : Lexicon} :
    parse text = .ok x ↔ lint text = (x, []) := by
  rw [parse_eq_of_lint, Prod.ext_iff, ← List.head?_eq_none_iff]
  cases (lint text).2.head? with
  | none => simp
  | some e => simp

theorem head?_lint_of_parse {text : String} {e : SpecError} (h : parse text = .error e) :
    (lint text).2.head? = some e := by
  rw [parse_eq_of_lint] at h
  split at h
  · cases h
    assumption
  · cases h

end Lexicon

/-! ## Both texts -/

/-- What linting must find: all failures of a compilation but conflicts, which need a grammar that
is in order otherwise. -/
def reportable {α : Type} : Except Failure α → Option Failure
  | .ok _ => none
  | .error (.determinism _) => none
  | .error e => some e

theorem head?_lintLexicon (text : String) (engine : Pattern.Engine) :
    (lintLexicon text engine).2.head? = reportable (Lexer.ofText text engine) := by
  unfold lintLexicon Lexer.ofText
  rw [Lexicon.parse_eq_of_lint]
  obtain ⟨x, errors⟩ := Lexicon.lint text
  cases errors with
  | cons e es =>
    simp only [List.head?_cons]
    split <;> rfl
  | nil =>
    simp only [List.head?_nil, Lexer.ofLexicon]
    split <;> rfl

/-- Without a fault in it, linting reads the lexicon that compiling reads. -/
theorem ofText_of_lintLexicon {text : String} {engine : Pattern.Engine}
    (h : (lintLexicon text engine).2 = []) :
    ∃ t, Lexer.ofText text engine = .ok ⟨(lintLexicon text engine).1, t⟩ := by
  unfold lintLexicon Lexer.ofText at *
  rw [Lexicon.parse_eq_of_lint]
  generalize Lexicon.lint text = outcome at h ⊢
  obtain ⟨x, errors⟩ := outcome
  simp only at h ⊢
  cases ht : Tokenizer.ofLexicon x engine with
  | error e =>
    rw [ht] at h
    simp at h
  | ok t =>
    rw [ht, List.map_eq_nil_iff] at h
    subst h
    exact ⟨t, by simp only [List.head?_nil, Lexer.ofLexicon, ht]⟩

theorem eq_error_of_reportable {α : Type} {result : Except Failure α} {e : Failure}
    (h : reportable result = some e) : result = .error e := by
  unfold reportable at h
  split at h <;> cases h
  rfl

/-- The first fault that linting lists is the failure of the compilation. -/
theorem head?_lint (lexicon grammar : String) (strategy : Strategy) (options : Grammar.Options)
    (engine : Pattern.Engine) : (lint lexicon grammar options engine).head? =
      reportable (Compilation.ofTexts lexicon grammar strategy options engine) := by
  have hhead := head?_lintLexicon lexicon engine
  unfold Compilation.ofTexts Compilation.join readGrammar
  cases hfaults : (lintLexicon lexicon engine).2 with
  | cons e es =>
    rw [hfaults, List.head?_cons] at hhead
    have herror := eq_error_of_reportable hhead.symm
    have hlint : (lint lexicon grammar options engine).head? = some e := by
      unfold lint
      simp only [hfaults]
      split <;> rfl
    rw [hlint, hhead, herror]
    cases e <;> rfl
  | nil =>
    obtain ⟨t, hlexer⟩ := ofText_of_lintLexicon hfaults
    rw [hlexer]
    unfold lint
    simp only [hfaults]
    cases hds : Grammar.Declarations.parse grammar with
    | error e => rfl
    | ok ds =>
      simp only [List.isEmpty_nil, if_true, Except.mapError, Compilation.assemble]
      cases hg : Grammar.resolve ds (lintLexicon lexicon engine).1 options with
      | error e => rfl
      | ok g =>
        simp only
        split <;> rfl

/-- With whatever engine for patterns, linting finds nothing if and only if two texts compile or
have conflicts only, and otherwise lists their failure first. Of a lexicon text it lists the faults
of all malformed lines in order and reads the other lines, so that reading alone succeeds if and
only if it lists none. -/
theorem lint_agrees_ofTexts (lexicon grammar : String) (strategy : Strategy)
    (options : Grammar.Options) (engine : Pattern.Engine) :
    (lint lexicon grammar options engine = [] ↔
      (∃ c, Compilation.ofTexts lexicon grammar strategy options engine = .ok c) ∨
        ∃ e, Compilation.ofTexts lexicon grammar strategy options engine =
          .error (.determinism e)) ∧
    (∀ e, Compilation.ofTexts lexicon grammar strategy options engine = .error e →
      (∀ cause, e ≠ .determinism cause) → (lint lexicon grammar options engine).head? = some e) ∧
    List.Forall₂ Lexicon.IsFaultOf
      ((Text.numberedLines lexicon.toList).filter (Lexicon.isMalformed ·.2))
      (Lexicon.lint lexicon).2 ∧
    Lexicon.parse (Lexicon.blanked lexicon) = .ok (Lexicon.lint lexicon).1 ∧
    (∀ x, Lexicon.parse lexicon = .ok x ↔ Lexicon.lint lexicon = (x, [])) ∧
    ∀ e, Lexicon.parse lexicon = .error e → (Lexicon.lint lexicon).2.head? = some e := by
  have hhead := head?_lint lexicon grammar strategy options engine
  refine ⟨?_, fun e he hcause => ?_, Lexicon.forall₂_isFaultOf_lint lexicon,
    Lexicon.parse_blanked lexicon, fun x => Lexicon.parse_eq_ok_iff_lint,
    fun e he => Lexicon.head?_lint_of_parse he⟩
  · rw [← List.head?_eq_none_iff, hhead]
    cases Compilation.ofTexts lexicon grammar strategy options engine with
    | ok c => simp [reportable]
    | error e => cases e <;> simp [reportable]
  · rw [hhead, he]
    cases e with
    | determinism cause => exact absurd rfl (hcause cause)
    | _ => rfl

/-- A lexicon text with two malformed lines, one of them without its line feed, around a rule whose
pattern cannot be used. -/
def faultyLexicon : String := "A \"a\"\r\nB := \"(\"\n% \"x"

theorem lint_agrees_ofTexts_faulty :
    Compilation.ofTexts faultyLexicon "s" .ll1 {} =
        .error (.spec (.lexicon 1 "A \"a\"" .missingAssign)) ∧
      (lint faultyLexicon "s" {}).head? =
        some (.spec (.lexicon 1 "A \"a\"" .missingAssign)) ∧
      lint faultyLexicon "s" {} =
        [.spec (.lexicon 1 "A \"a\"" .missingAssign), .spec (.lexicon 3 "% \"x" .unterminatedQuote),
          .lexical (.invalidPattern "B" "("), .spec (.grammar 1 "s" .missingArrow)] ∧
      Lexicon.blanked faultyLexicon = "\nB := \"(\"\n" ∧
      Lexicon.parse (Lexicon.blanked faultyLexicon) = .ok ⟨[⟨"B", "(", 1, false⟩]⟩ := by
  have hcompile : Compilation.ofTexts faultyLexicon "s" .ll1 {} =
      .error (.spec (.lexicon 1 "A \"a\"" .missingAssign)) := by
    rw [Compilation.ofTexts, Lexer.ofText]
    have hparse : Lexicon.parse faultyLexicon =
        .error (.lexicon 1 "A \"a\"" .missingAssign) := by decide +kernel
    rw [hparse]
    rfl
  have hread : (Lexicon.lint faultyLexicon).1 = ⟨[⟨"B", "(", 1, false⟩]⟩ := by decide +kernel
  obtain ⟨-, hfirst, -, hblanked, -, -⟩ :=
    lint_agrees_ofTexts faultyLexicon "s" .ll1 {} Pattern.engine
  exact ⟨hcompile, hfirst _ hcompile (by simp), by decide +kernel, by decide +kernel,
    hread ▸ hblanked⟩

end TopDown
