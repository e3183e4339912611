import TopDown.Proofs.Grammar.Attribution
import TopDown.Proofs.Lexicon.Spelling
import TopDown.Proofs.Linting

/-!
# Lines that are refused for an open quote

A line is refused for an open quote where the reading of a pattern or of a body comes to an end too
early. Mostly a double quote stands there that nothing closes. But the reading also ends at a blank
that is neither a space nor a tab, and the line is then refused for the same reason, whether it has
a quote or not.

* `Lexicon.Line.Unclosed`, `Lexicon.Line.read_eq_unterminatedQuote_iff` : the lines of a lexicon that
  are refused so;
* `Grammar.Faulty.unterminatedQuote_iff` : the lines of a grammar text that are refused so;
* `unterminatedQuote_exact` : where the two texts are refused so;
* `unterminatedQuote_noBreakSpace` : two lines without an open quote that are refused so.
-/

namespace TopDown

open Text

namespace Text

theorem Balanced.append {s t : List Char} (hs : Balanced s) (ht : Balanced t) :
    Balanced (s ++ t) := by
  induction hs with
  | nil => exact ht
  | plain hquote _ ih => exact .plain hquote ih
  | quoted hbody _ ih =>
    rw [List.cons_append, List.append_assoc, List.cons_append]
    exact .quoted hbody ih

theorem Gap.balanced {gap : List Char} (h : Gap gap) : Balanced gap :=
  balanced_of_not_mem fun hmem => absurd (h _ hmem) (by decide)

/-- Behind blanks that are no gap, what stands after the gap in front of them starts with a blank. -/
theorem exists_skipGap_of_not_gap {blanks : List Char} (hblanks : ∀ c ∈ blanks, isBlank c = true)
    (h : ¬ Gap blanks) (s : List Char) :
    ∃ c t, skipGap (blanks ++ s) = c :: t ∧ isBlank c = true := by
  induction blanks with
  | nil => exact absurd gap_nil h
  | cons c blanks ih =>
    obtain ⟨hc, hblanks⟩ := List.forall_mem_cons.1 hblanks
    by_cases hgap : isGap c = true
    · have hrest : ¬ Gap blanks := fun hrest => h (List.forall_mem_cons.2 ⟨hgap, hrest⟩)
      rw [List.cons_append, skipGap, List.dropWhile_cons_of_pos hgap]
      exact ih hblanks hrest
    · exact ⟨c, blanks ++ s, List.dropWhile_cons_of_neg hgap, hc⟩

end Text

namespace Lexicon

/-! ## Lines of a lexicon -/

/-- The forms of a line that is refused for an open quote, without the blanks at both ends. In a list
of separators or in a pattern a double quote opens a quoted text that none closes. Or a blank other
than a space or a tab stands beside the `:=` of a rule. -/
inductive Line.Unclosed : List Char → Prop
  | separators {list : List Char} (leavesOpen : LeavesOpen list) : Unclosed ('%' :: list)
  | pattern {name gap gap' rest : List Char} (named : IsName name) (before : Gap gap)
    (behind : Gap gap') (unclosed : ¬ Quoted.Closes '"' rest) :
    Unclosed (name ++ (gap ++ ':' :: '=' :: (gap' ++ '"' :: rest)))
  | stray {name blanks blanks' rest : List Char} (named : IsName name)
    (before : ∀ c ∈ blanks, isBlank c = true) (behind : ∀ c ∈ blanks', isBlank c = true)
    (stray : ¬ (Gap blanks ∧ Gap blanks')) :
    Unclosed (name ++ (blanks ++ ':' :: '=' :: (blanks' ++ '"' :: rest)))

variable {s list name rest : List Char} {ps : List (List Char)}

theorem Spells.balanced (h : Spells ps s) : Balanced s := by
  induction h with
  | last hbody => exact .quoted hbody .nil
  | cons hbody hgap hgap' _ ih =>
    refine .quoted hbody (hgap.balanced.append (.plain (by decide) ?_))
    exact hgap'.balanced.append ih

/-- A list in which a quote stays open is no list of separators. -/
theorem readSeparators_of_leavesOpen (h : LeavesOpen list) :
    readSeparators (skipGap list) = none := by
  by_contra hne
  obtain ⟨ps, hps⟩ := Option.ne_none_iff_exists'.1 hne
  obtain ⟨gap, hgap, hcut⟩ := exists_gap_append_skipGap list
  obtain ⟨s, final, hlist, hspells, hfinal⟩ := readSeparators_eq_some_iff.1 hps
  have hbalanced : Balanced list := by
    rw [hcut, hlist]
    exact hgap.balanced.append (hspells.balanced.append hfinal.balanced)
  rw [← leavesQuoteOpen_iff, hbalanced.leavesQuoteOpen] at h
  cases h

theorem isBlank_of_isNameChar {c : Char} (h : isNameChar c = true) : isBlank c = false := by
  rw [isNameChar, Bool.or_eq_true, Bool.or_eq_true, beq_iff_eq] at h
  rcases h with (hupper | hdigit) | rfl
  · exact isBlank_of_isUpper hupper
  · have hdigit : '0'.val ≤ c.val ∧ c.val ≤ '9'.val := by
      simpa [Char.isDigit] using hdigit
    have hc : 48 ≤ c.toNat ∧ c.toNat ≤ 57 :=
      ⟨UInt32.le_iff_toNat_le.1 hdigit.1, UInt32.le_iff_toNat_le.1 hdigit.2⟩
    simp only [isBlank, Bool.or_eq_false_iff, Bool.and_eq_false_iff, decide_eq_false_iff_not,
      beq_eq_false_iff_ne]
    omega
  · decide

theorem splitAssign_eq_some {before after : List Char} (h : splitAssign s = some (before, after)) :
    s = before ++ ':' :: '=' :: after := by
  fun_induction splitAssign s generalizing before with
  | case1 => cases h
  | case2 s => cases h; rfl
  | case3 c s _ ih =>
    obtain ⟨⟨before', after'⟩, hsplit, heq⟩ := Option.map_eq_some_iff.1 h
    cases heq
    rw [ih hsplit, List.cons_append]

theorem splitAssign_append {before : List Char} (h : ':' ∉ before) (after : List Char) :
    splitAssign (before ++ ':' :: '=' :: after) = some (before, after) := by
  induction before with
  | nil => rfl
  | cons c before ih =>
    rw [List.mem_cons, not_or] at h
    rw [List.cons_append, splitAssign, ih h.2]
    · rfl
    · exact fun _ hc _ => h.1 hc.symm

section Rules

variable {blanks blanks' : List Char}

/-- A rule is read up to its pattern only if nothing but gaps stands beside the `:=`, and then only
if its pattern is closed. -/
theorem readRule_eq_none_iff (hname : IsName name) (hblanks : ∀ c ∈ blanks, isBlank c = true)
    (hblanks' : ∀ c ∈ blanks', isBlank c = true) :
    readRule (name ++ (blanks ++ ':' :: '=' :: (blanks' ++ '"' :: rest))) = none ↔
      ¬ (Gap blanks ∧ Gap blanks' ∧ Quoted.Closes '"' rest) := by
  have hstops : Stops isNameChar (blanks ++ ':' :: '=' :: (blanks' ++ '"' :: rest)) := by
    cases blanks with
    | nil => exact stops_cons (by decide) _
    | cons c blanks =>
      refine stops_cons (Bool.eq_false_iff.2 fun hc => ?_) _
      have hblank := hblanks c List.mem_cons_self
      rw [isBlank_of_isNameChar hc] at hblank
      cases hblank
  rw [readRule, readName_append (isName_iff.2 hname) hstops]
  simp only
  by_cases hgap : Gap blanks
  · simp only [skipGap_append hgap (stops_cons (by decide : isGap ':' = false) _)]
    by_cases hgap' : Gap blanks'
    · simp only [skipGap_append hgap' (stops_cons (by decide : isGap '"' = false) _), hgap, hgap',
        true_and, ← Quoted.inside_eq_none_iff (by decide : '"' ≠ '\\'), Quoted.read, if_true]
      cases Quoted.inside '"' rest <;> simp
    · obtain ⟨c, t, hskip, hc⟩ := exists_skipGap_of_not_gap hblanks' hgap' ('"' :: rest)
      have hquote : c ≠ '"' := by
        rintro rfl
        exact absurd hc (by decide)
      simp [hskip, Quoted.read, hquote, hgap']
  · obtain ⟨c, t, hskip, hc⟩ :=
      exists_skipGap_of_not_gap hblanks hgap (':' :: '=' :: (blanks' ++ '"' :: rest))
    simp only [hskip, hgap, false_and, not_false_eq_true, iff_true]
    split
    · rename_i heq
      cases heq
      exact absurd hc (by decide)
    · rfl

theorem trim_name_append (hname : IsName name) (hblanks : ∀ c ∈ blanks, isBlank c = true) :
    trim (name ++ blanks) = name := by
  have hchars := isNameChar_of_mem (isName_iff.2 hname)
  obtain ⟨c, t, rfl, hc, -⟩ := hname
  have hclosed : Grammar.Piece.Closed (c :: t) := ⟨_, List.getLast?_eq_some_getLast
    (List.cons_ne_nil c t), isBlank_of_isNameChar (hchars _ (List.getLast_mem _))⟩
  have hend : trimEnd blanks = [] := by
    rw [trimEnd, List.dropWhile_eq_nil_iff.2 fun c hc => hblanks c (List.mem_reverse.1 hc)]
    rfl
  rw [Grammar.trim_append_of_closed (isBlank_of_isUpper hc) hclosed, hend, List.append_nil]

/-- What remains to be blamed of a line that is no rule is an open quote, if a name, a `:=` and a
double quote come first on it, with blanks of any kind between them. -/
theorem diagnose_eq_unterminatedQuote_iff (hs : Stops isBlank s) :
    diagnose s = .unterminatedQuote ↔ ∃ name blanks blanks' rest,
      s = name ++ (blanks ++ ':' :: '=' :: (blanks' ++ '"' :: rest)) ∧ IsName name ∧
        (∀ c ∈ blanks, isBlank c = true) ∧ ∀ c ∈ blanks', isBlank c = true := by
  constructor
  · intro h
    rw [diagnose] at h
    split at h
    · cases h
    · rename_i before after hsplit
      split at h
      · cases h
      · rename_i hname
        split at h
        · rename_i rest hafter
          obtain ⟨front, back, hbefore, hfront, hback⟩ := exists_blanks_trim before
          have hnil : front = [] := by
            rw [splitAssign_eq_some hsplit, hbefore] at hs
            cases front with
            | nil => rfl
            | cons c front => cases (hs c rfl).symm.trans (hfront c List.mem_cons_self)
          have hcut : after = after.takeWhile isBlank ++ '"' :: rest := by
            rw [← hafter]
            exact List.takeWhile_append_dropWhile.symm
          rw [hnil, List.nil_append] at hbefore
          refine ⟨trim before, back, after.takeWhile isBlank, rest, ?_, isName_iff.1 (by simpa using
            hname), hback, fun c hc => List.mem_takeWhile_imp hc⟩
          rw [← hcut, ← List.append_assoc, ← hbefore]
          exact splitAssign_eq_some hsplit
        · cases h
  · rintro ⟨name, blanks, blanks', rest, rfl, hname, hblanks, hblanks'⟩
    have hcolon : ':' ∉ name ++ blanks := by
      rw [List.mem_append, not_or]
      exact ⟨fun hmem => absurd (isNameChar_of_mem (isName_iff.2 hname) _ hmem) (by decide),
        fun hmem => absurd (hblanks _ hmem) (by decide)⟩
    have hstart : trimStart (blanks' ++ '"' :: rest) = '"' :: rest :=
      dropWhile_append_stop hblanks' (stops_cons (by decide) rest)
    rw [← List.append_assoc, diagnose, splitAssign_append hcolon]
    simp only [trim_name_append hname hblanks, isName_iff.2 hname, hstart]
    rfl

end Rules

/-- A line of a lexicon is refused for an open quote if and only if it has one of the three forms. -/
theorem Line.read_eq_unterminatedQuote_iff {raw : List Char} :
    Line.read raw = .error .unterminatedQuote ↔ Line.Unclosed (trim raw) := by
  have hrule {name blanks blanks' rest : List Char} (hname : IsName name)
      (hblanks : ∀ c ∈ blanks, isBlank c = true) (hblanks' : ∀ c ∈ blanks', isBlank c = true)
      (hfault : ¬ (Gap blanks ∧ Gap blanks' ∧ Quoted.Closes '"' rest))
      (hraw : trim raw = name ++ (blanks ++ ':' :: '=' :: (blanks' ++ '"' :: rest))) :
      Line.read raw = .error .unterminatedQuote := by
    rw [Line.read_of_isName hname hraw, (readRule_eq_none_iff hname hblanks hblanks').2 hfault,
      (diagnose_eq_unterminatedQuote_iff (hraw ▸ stops_trim raw)).2
        ⟨name, blanks, blanks', rest, rfl, hname, hblanks, hblanks'⟩]
  constructor
  · intro h
    have hstops := stops_trim raw
    rw [Line.read] at h
    generalize trim raw = s at h hstops
    split at h
    · cases h
    · cases h
    · split at h
      · cases h
      · split at h
        · rename_i hopen
          rw [leavesQuoteOpen_cons] at hopen
          exact .separators ((leavesQuoteOpen_iff _).1 hopen)
        · cases h
    · split at h
      · split at h <;> cases h
      · rename_i hread
        obtain ⟨name, blanks, blanks', rest, rfl, hname, hblanks, hblanks'⟩ :=
          (diagnose_eq_unterminatedQuote_iff hstops).1 (Except.error.inj h)
        by_cases hgaps : Gap blanks ∧ Gap blanks'
        · rw [readRule_eq_none_iff hname hblanks hblanks'] at hread
          exact .pattern hname hgaps.1 hgaps.2 fun hcloses => hread ⟨hgaps.1, hgaps.2, hcloses⟩
        · exact .stray hname hblanks hblanks' hgaps
  · intro h
    generalize hraw : trim raw = s at h
    cases h with
    | @separators list hopen =>
      have hquote : leavesQuoteOpen false ('%' :: list) = true := by
        rw [leavesQuoteOpen_cons]
        exact (leavesQuoteOpen_iff list).2 hopen
      rw [Line.read, hraw]
      simp only [readSeparators_of_leavesOpen hopen, hquote, if_true]
    | pattern hname hgap hgap' hunclosed =>
      exact hrule hname hgap.isBlank hgap'.isBlank (fun h => hunclosed h.2.2) hraw
    | stray hname hblanks hblanks' hstray =>
      exact hrule hname hblanks hblanks' (fun h => hstray ⟨h.1, h.2.1⟩) hraw

/-- Linting lists the fault of every line that cannot be read. -/
theorem mem_lint_iff {text : String} {n : Nat} {line : String} {fault : LineFault} :
    SpecError.lexicon n line fault ∈ (lint text).2 ↔
      (n, line.toList) ∈ numberedLines text.toList ∧ Line.read line.toList = .error fault := by
  simp only [snd_lint, List.mem_filterMap, List.mem_map]
  constructor
  · rintro ⟨_, ⟨numbered, hmem, rfl⟩, hfailure⟩
    cases hread : readNumbered numbered with
    | ok l =>
      rw [hread] at hfailure
      cases hfailure
    | error e =>
      rw [hread] at hfailure
      cases hfailure
      obtain ⟨fault, hfault, heq⟩ := readNumbered_eq_error.1 hread
      cases heq
      rw [String.toList_ofList]
      exact ⟨hmem, hfault⟩
  · rintro ⟨hmem, hread⟩
    have hnumbered : readNumbered (n, line.toList) = .error (.lexicon n line fault) :=
      readNumbered_eq_error.2 ⟨fault, hread, by rw [String.ofList_toList]⟩
    exact ⟨_, ⟨_, hmem, hnumbered⟩, rfl⟩

end Lexicon

/-! ## Lines of a grammar text -/

namespace Grammar

theorem not_exists_cuts_iff {body : List Char} : (¬ ∃ parts, Cuts body parts []) ↔
    ∃ parts rest, Cuts body parts rest ∧ Stuck rest := by
  rw [← splitAlternatives_eq_none_iff, Option.eq_none_iff_forall_ne_some, not_exists]
  simp only [← splitAlternatives_eq_some_iff, ne_eq]

/-- A line of a grammar text is refused for an open quote if its body is cut up to a double quote
that none closes or up to a blank other than a space or a tab. -/
theorem Faulty.unterminatedQuote_iff {ls : List Line} {raw : List Char} :
    Faulty ls raw .unterminatedQuote ↔ ∃ l body, Line.Spells l (trim raw) ∧ l.body? = some body ∧
      owner (ls ++ [l]) ≠ none ∧ ∃ parts rest, Cuts body parts rest ∧ Stuck rest := by
  constructor
  · rintro ⟨⟩
    rename_i l body hspells hbody howner huncut
    exact ⟨l, body, hspells, hbody, howner, not_exists_cuts_iff.1 huncut⟩
  · rintro ⟨l, body, hspells, hbody, howner, hstuck⟩
    exact .unsplit hspells hbody howner (not_exists_cuts_iff.2 hstuck)

end Grammar

/-! ## Texts -/

/-- Where the text of a lexicon or of a grammar is refused for an open quote. On the first line that
cannot be read, or on any such line in linting, a double quote opens a quoted text that none closes,
or a blank other than a space or a tab stands where only these may. -/
theorem unterminatedQuote_exact (text : String) (n : Nat) (line : String) :
    (Lexicon.parse text = .error (.lexicon n line .unterminatedQuote) ↔
      ∃ before raw after, lines text.toList = before ++ raw :: after ∧
        (∀ raw' ∈ before, ∃ l, Lexicon.Line.Spells l (trim raw')) ∧
          Lexicon.Line.Unclosed (trim raw) ∧ n = before.length + 1 ∧ line = String.ofList raw) ∧
    (SpecError.lexicon n line .unterminatedQuote ∈ (Lexicon.lint text).2 ↔
      (n, line.toList) ∈ numberedLines text.toList ∧ Lexicon.Line.Unclosed (trim line.toList)) ∧
    (Grammar.Declarations.parse text = .error (.grammar n line .unterminatedQuote) ↔
      ∃ before raw after ls tss, lines text.toList = before ++ raw :: after ∧
        Grammar.InOrder before ls tss ∧
          (∃ l body, Grammar.Line.Spells l (trim raw) ∧ l.body? = some body ∧
            Grammar.owner (ls ++ [l]) ≠ none ∧
              ∃ parts rest, Grammar.Cuts body parts rest ∧ Grammar.Stuck rest) ∧
            n = before.length + 1 ∧ line = String.ofList raw) := by
  refine ⟨?_, ?_, ?_⟩
  · rw [Lexicon.parse_eq_error_iff]
    simp only [← Lexicon.Line.read_eq_ok_iff, ← Lexicon.Line.read_eq_unterminatedQuote_iff]
    constructor
    · rintro ⟨before, raw, after, fault, hlines, hbefore, hread, heq⟩
      cases heq
      exact ⟨before, raw, after, hlines, hbefore, hread, rfl, rfl⟩
    · rintro ⟨before, raw, after, hlines, hbefore, hread, rfl, rfl⟩
      exact ⟨before, raw, after, _, hlines, hbefore, hread, rfl⟩
  · rw [Lexicon.mem_lint_iff, Lexicon.Line.read_eq_unterminatedQuote_iff]
  · rw [Grammar.Declarations.parse_eq_error_iff]
    simp only [← Grammar.Faulty.unterminatedQuote_iff]
    constructor
    · rintro ⟨before, raw, after, ls, tss, fault, hlines, horder, hfaulty, heq⟩
      cases heq
      exact ⟨before, raw, after, ls, tss, hlines, horder, hfaulty, rfl, rfl⟩
    · rintro ⟨before, raw, after, ls, tss, hlines, horder, hfaulty, rfl, rfl⟩
      exact ⟨before, raw, after, ls, tss, _, hlines, horder, hfaulty, rfl⟩

/-- A no-break space is neither a space nor a tab. Two lines that hold one are refused for an open
quote, though the first has no quote at all and in the second every quote is closed. -/
theorem unterminatedQuote_noBreakSpace :
    Grammar.Declarations.parse "S -> a\u00a0b" =
        .error (.grammar 1 "S -> a\u00a0b" .unterminatedQuote) ∧
      '"' ∉ "S -> a\u00a0b".toList ∧
        Lexicon.parse "A :=\u00a0\"a\"" =
            .error (.lexicon 1 "A :=\u00a0\"a\"" .unterminatedQuote) ∧
          ¬ LeavesOpen "A :=\u00a0\"a\"".toList := by
  refine ⟨by decide +kernel, by decide +kernel, by decide +kernel, ?_⟩
  rw [← leavesQuoteOpen_iff]
  decide +kernel

end TopDown
