import Mathlib.Data.List.TakeWhile
import TopDown.Lexicon.File
import TopDown.Proofs.Text.Lines
import TopDown.Proofs.Traversal

/-!
# Writing a lexicon and reading it again

A lexicon is written as lines in a fixed order, the separators on the first of them. A pattern is
written as it was read, so it must be one that stands between quotes on a single line.

* `Line.Plain` : what a line of a text can say; `Line.plain_of_read`;
* `Line.written`, `Line.read_written` : every plain line is read back;
* `toLines`, `toList_render` : the lines that a lexicon is written as;
* `ofLines_toLines` : these lines give the lexicon again, whatever lines it was made of;
* `parse_render` : a lexicon that was read from a text is read back from its own text.
-/

namespace TopDown.Lexicon

open Text

/-! ## Names and patterns -/

theorem isName_iff {s : List Char} : isName s = true ↔
    ∃ c t, s = c :: t ∧ c.isUpper = true ∧ ∀ d ∈ t, isNameChar d = true := by
  cases s with
  | nil => simp [isName, readName]
  | cons c t =>
    cases hc : c.isUpper with
    | false => simp [isName, readName, hc]
    | true =>
      rw [isName, readName, if_pos hc]
      cases hrest : t.dropWhile isNameChar with
      | nil => simpa [hc] using List.dropWhile_eq_nil_iff.1 hrest
      | cons d rest =>
        have hne : t.dropWhile isNameChar ≠ [] := by simp [hrest]
        rw [Ne, List.dropWhile_eq_nil_iff] at hne
        simpa [hc] using hne

theorem readName_eq_some {s name rest : List Char} (h : readName s = some (name, rest)) :
    s = name ++ rest ∧ isName name = true := by
  cases s with
  | nil => cases h
  | cons c t =>
    rw [readName] at h
    split at h
    · cases h
      exact ⟨by rw [List.cons_append, List.takeWhile_append_dropWhile],
        isName_iff.2 ⟨c, _, rfl, ‹_›, fun d hd => List.mem_takeWhile_imp hd⟩⟩
    · cases h

/-- A name is read up to the first character that cannot belong to it. -/
theorem readName_append {name rest : List Char} (hname : isName name = true)
    (hrest : Stops isNameChar rest) : readName (name ++ rest) = some (name, rest) := by
  obtain ⟨d, t, rfl, hd, ht⟩ := isName_iff.1 hname
  rw [List.cons_append, readName, if_pos hd, takeWhile_append_stop ht hrest,
    dropWhile_append_stop ht hrest]

theorem isNameChar_of_mem {name : List Char} (hname : isName name = true) :
    ∀ c ∈ name, isNameChar c = true := by
  obtain ⟨d, t, rfl, hd, ht⟩ := isName_iff.1 hname
  exact List.forall_mem_cons.2 ⟨by simp [isNameChar, hd], ht⟩

/-- The text can stand between quotes on one line. -/
def IsPattern (p : List Char) : Prop := Quoted.IsContent '"' p ∧ '\n' ∉ p

/-- A pattern between its quotes. -/
def quoted (p : String) : List Char := '"' :: (p.toList ++ ['"'])

theorem newline_not_mem_quoted {p : String} (h : IsPattern p.toList) : '\n' ∉ quoted p := by
  simpa [quoted] using h.2

theorem read_quoted {p : String} (h : IsPattern p.toList) (rest : List Char) :
    Quoted.read '"' (quoted p ++ rest) = some (p.toList, rest) := by
  rw [quoted, List.cons_append, List.append_assoc, List.singleton_append]
  exact h.1.read rest

theorem read_quoted_nil {p : String} (h : IsPattern p.toList) :
    Quoted.read '"' (quoted p) = some (p.toList, []) := by
  simpa using read_quoted h []

theorem isPattern_of_read {s p rest : List Char} (h : Quoted.read '"' s = some (p, rest))
    (hs : '\n' ∉ s) : IsPattern p ∧ '\n' ∉ rest := by
  obtain ⟨rfl, hcontent⟩ := Quoted.read_eq_some (by decide) h
  simp only [List.mem_cons, List.mem_append, not_or] at hs
  exact ⟨⟨hcontent, hs.2.1⟩, hs.2.2.2⟩

/-! ## Separators -/

/-- Patterns between quotes, with commas between them. -/
def quotedList (ps : List String) : List Char := [',', ' '].intercalate (ps.map quoted)

theorem quotedList_singleton (p : String) : quotedList [p] = quoted p :=
  List.intercalate_singleton

theorem quotedList_cons_cons (p p' : String) (ps : List String) :
    quotedList (p :: p' :: ps) = quoted p ++ ',' :: ' ' :: quotedList (p' :: ps) := by
  rw [quotedList, List.map_cons, List.map_cons, List.intercalate_cons_cons, List.append_assoc]
  rfl

/-- A list of quoted texts starts with a quote. -/
theorem skipGap_quotedList (p : String) (ps : List String) :
    skipGap (quotedList (p :: ps)) = quotedList (p :: ps) := by
  cases ps with
  | nil =>
    rw [quotedList_singleton]
    rfl
  | cons p' ps =>
    rw [quotedList_cons_cons]
    rfl

/-- A list of quoted texts ends with a quote. -/
theorem getLast?_quotedList (p : String) (ps : List String) :
    (quotedList (p :: ps)).getLast? = some '"' := by
  induction ps generalizing p with
  | nil => simp [quotedList_singleton, quoted, List.getLast?_cons]
  | cons p' ps ih => simp [quotedList_cons_cons, List.getLast?_cons, ih p']

theorem newline_not_mem_quotedList {ps : List String} (h : ∀ p ∈ ps, IsPattern p.toList) :
    '\n' ∉ quotedList ps := by
  induction ps with
  | nil => exact List.not_mem_nil
  | cons p ps ih =>
    obtain ⟨hp, hps⟩ := List.forall_mem_cons.1 h
    cases ps with
    | nil =>
      rw [quotedList_singleton]
      exact newline_not_mem_quoted hp
    | cons p' ps => simp [quotedList_cons_cons, newline_not_mem_quoted hp, ih hps]

theorem readSeparators_eq (s : List Char) :
    readSeparators s =
      match Quoted.read '"' s with
      | none => none
      | some (t, rest) =>
        match skipGap rest with
        | [] => some [t]
        | ',' :: more => (readSeparators (skipGap more)).map (t :: ·)
        | _ => none := by
  rw [readSeparators]
  split
  · simp only [*]
  · split <;> simp only [*]

theorem readSeparators_of_nil {s t rest : List Char} (h : Quoted.read '"' s = some (t, rest))
    (hrest : skipGap rest = []) : readSeparators s = some [t] := by
  rw [readSeparators_eq, h]
  simp only [hrest]

theorem readSeparators_of_comma {s t rest more : List Char}
    (h : Quoted.read '"' s = some (t, rest)) (hrest : skipGap rest = ',' :: more) :
    readSeparators s = (readSeparators (skipGap more)).map (t :: ·) := by
  rw [readSeparators_eq, h]
  simp only [hrest]

/-- A list of patterns is read back. -/
theorem readSeparators_quotedList {p : String} {ps : List String}
    (h : ∀ p' ∈ p :: ps, IsPattern p'.toList) :
    readSeparators (quotedList (p :: ps)) = some ((p :: ps).map String.toList) := by
  induction ps generalizing p with
  | nil =>
    rw [quotedList_singleton]
    exact readSeparators_of_nil (read_quoted_nil (h p List.mem_cons_self)) rfl
  | cons p' ps ih =>
    obtain ⟨hp, hps⟩ := List.forall_mem_cons.1 h
    have hskip : skipGap (' ' :: quotedList (p' :: ps)) = quotedList (p' :: ps) :=
      skipGap_quotedList p' ps
    rw [quotedList_cons_cons, readSeparators_of_comma (read_quoted hp _) rfl, hskip, ih hps]
    rfl

/-- Separators are patterns, and there is at least one. -/
theorem isPattern_of_readSeparators {s : List Char} {ps : List (List Char)}
    (h : readSeparators s = some ps) (hs : '\n' ∉ s) : ps ≠ [] ∧ ∀ p ∈ ps, IsPattern p := by
  fun_induction readSeparators s generalizing ps with
  | case1 => cases h
  | case2 s t rest hread hrest =>
    cases h
    exact ⟨List.cons_ne_nil _ _, List.forall_mem_singleton.2 (isPattern_of_read hread hs).1⟩
  | case3 s t rest hread more hrest _ ih =>
    obtain ⟨ps', hps', rfl⟩ := Option.map_eq_some_iff.1 h
    obtain ⟨ht, hrest'⟩ := isPattern_of_read hread hs
    have hmore : '\n' ∉ skipGap more := fun hmem =>
      hrest' (mem_of_mem_skipGap (hrest ▸ List.mem_cons_of_mem _ (mem_of_mem_skipGap hmem)))
    exact ⟨List.cons_ne_nil _ _, List.forall_mem_cons.2 ⟨ht, (ih hps' hmore).2⟩⟩
  | case4 => cases h

/-! ## Lines -/

/-- What a line of a text can say. -/
def Line.Plain : Line → Prop
  | .skip => True
  | .separators ps => ps ≠ [] ∧ ∀ p ∈ ps, IsPattern p.toList
  | .rule name pattern => isName name.toList = true ∧ IsPattern pattern.toList

theorem plain_of_readRule {s name pattern rest : List Char}
    (h : readRule s = some (name, pattern, rest)) (hs : '\n' ∉ s) :
    isName name = true ∧ IsPattern pattern := by
  rw [readRule] at h
  split at h
  · cases h
  rename_i name' afterName hread
  obtain ⟨rfl, hname⟩ := readName_eq_some hread
  split at h
  · rename_i afterAssign hassign
    split at h
    · rename_i hpattern
      cases h
      refine ⟨hname, (isPattern_of_read hpattern fun hmem => hs (List.mem_append_right _ ?_)).1⟩
      apply mem_of_mem_skipGap
      rw [hassign]
      exact List.mem_cons_of_mem _ (List.mem_cons_of_mem _ (mem_of_mem_skipGap hmem))
    · cases h
  · cases h

/-- What a line without a line feed says is plain. -/
theorem Line.plain_of_read {raw : List Char} {l : Line} (h : Line.read raw = .ok l)
    (hraw : '\n' ∉ raw) : l.Plain := by
  have htrim : '\n' ∉ trim raw := fun hmem => hraw (mem_of_mem_trim hmem)
  rw [Line.read] at h
  split at h
  · cases h
    trivial
  · cases h
    trivial
  · rename_i list hlist
    rw [hlist, List.mem_cons, not_or] at htrim
    split at h
    · rename_i patterns hread
      cases h
      obtain ⟨hne, hpatterns⟩ := isPattern_of_readSeparators hread fun hmem =>
        htrim.2 (mem_of_mem_skipGap hmem)
      refine ⟨by simpa using hne, ?_⟩
      simpa [String.toList_ofList] using hpatterns
    · cases h
  · split at h
    · rename_i hread
      split at h
      · cases h
        simpa [Line.Plain, String.toList_ofList] using plain_of_readRule hread htrim
      · cases h
    · cases h

/-- The line as it is written. -/
def Line.written : Line → List Char
  | .skip => []
  | .separators ps => '%' :: quotedList ps
  | .rule name pattern => name.toList ++ [' ', ':', '=', ' '] ++ quoted pattern

/-- A written line fills its line up to a last quote. -/
theorem Line.getLast?_written {l : Line} (h : l.Plain) (hskip : l ≠ .skip) :
    l.written.getLast? = some '"' := by
  cases l with
  | skip => exact absurd rfl hskip
  | separators ps =>
    cases ps with
    | nil => exact absurd rfl h.1
    | cons p ps => rw [written, List.getLast?_cons, getLast?_quotedList, Option.getD_some]
  | rule name pattern => simp [written, quoted, List.getLast?_cons]

theorem Line.newline_not_mem_written {l : Line} (h : l.Plain) : '\n' ∉ l.written := by
  cases l with
  | skip => exact List.not_mem_nil
  | separators ps =>
    rw [written, List.mem_cons, not_or]
    exact ⟨by decide, newline_not_mem_quotedList h.2⟩
  | rule name pattern =>
    have hname : '\n' ∉ name.toList := fun hmem => by
      cases isNameChar_of_mem h.1 _ hmem
    simp [written, hname, newline_not_mem_quoted h.2]

theorem isBlank_of_isUpper {c : Char} (h : c.isUpper = true) : isBlank c = false := by
  have hupper : 'A'.val ≤ c.val ∧ c.val ≤ 'Z'.val := of_decide_eq_true h
  have hc : 65 ≤ c.toNat ∧ c.toNat ≤ 90 :=
    ⟨UInt32.le_iff_toNat_le.1 hupper.1, UInt32.le_iff_toNat_le.1 hupper.2⟩
  simp only [isBlank, Bool.or_eq_false_iff, Bool.and_eq_false_iff, decide_eq_false_iff_not,
    beq_eq_false_iff_ne]
  omega

theorem readRule_written {name pattern : String} (hname : isName name.toList = true)
    (hpattern : IsPattern pattern.toList) :
    readRule (Line.rule name pattern).written = some (name.toList, pattern.toList, []) := by
  have hassign : skipGap (' ' :: ([':', '=', ' '] ++ quoted pattern)) =
      ':' :: '=' :: ' ' :: quoted pattern := rfl
  have hgap : skipGap (' ' :: quoted pattern) = quoted pattern := rfl
  rw [Line.written, List.append_assoc, List.cons_append, readRule,
    readName_append hname (stops_cons (by decide) _)]
  simp only [hassign, hgap, read_quoted_nil hpattern]

/-- Every plain line that says something is read back. -/
theorem Line.read_written {l : Line} (h : l.Plain) (hskip : l ≠ .skip) :
    Line.read l.written = .ok l := by
  have hlast := Line.getLast?_written h hskip
  cases l with
  | skip => exact absurd rfl hskip
  | separators ps =>
    cases ps with
    | nil => exact absurd rfl h.1
    | cons p ps =>
      have htrim : trim ('%' :: quotedList (p :: ps)) = '%' :: quotedList (p :: ps) :=
        trim_eq_self (by decide) (by decide) hlast
      rw [Line.read, Line.written, htrim]
      simp only [skipGap_quotedList, readSeparators_quotedList h.2, List.map_map]
      simp
  | rule name pattern =>
    have hread := readRule_written h.1 h.2
    obtain ⟨c, t, hname, hc, -⟩ := isName_iff.1 h.1
    have hwritten : (Line.rule name pattern).written =
        c :: (t ++ [' ', ':', '=', ' '] ++ quoted pattern) := by
      rw [Line.written, hname]
      rfl
    rw [hwritten] at hlast hread ⊢
    rw [Line.read, trim_eq_self (isBlank_of_isUpper hc) (by decide) hlast]
    split
    · cases ‹_›
    · rename_i heq
      cases heq
      cases hc
    · rename_i heq
      cases heq
      cases hc
    · rw [hread]
      change Except.ok (Line.rule (String.ofList _) (String.ofList _)) = _
      rw [String.ofList_toList, String.ofList_toList]

/-! ## Lexicons -/

/-- All separators on the first line, if there are any, and then one line a rule. -/
def inOrder (separators : List String) (rules : List (String × String)) : List Line :=
  (if separators.isEmpty then [] else [.separators separators]) ++
    rules.map fun r => .rule r.1 r.2

theorem rulesOf_inOrder (separators : List String) (rules : List (String × String)) :
    rulesOf (inOrder separators rules) = rules := by
  unfold inOrder
  split <;> simp [rulesOf]

theorem separatorsOf_inOrder (separators : List String) (rules : List (String × String)) :
    separatorsOf (inOrder separators rules) = separators := by
  have hrules : separatorsOf (rules.map fun r => .rule r.1 r.2) = [] := by
    rw [separatorsOf, List.flatMap_map]
    exact List.flatMap_eq_nil_iff.2 fun _ _ => rfl
  rw [separatorsOf] at hrules ⊢
  rw [inOrder, List.flatMap_append, hrules, List.append_nil]
  cases separators with
  | nil => rfl
  | cons p ps => exact List.flatMap_singleton ..

/-- The lines that a lexicon is written as. -/
def toLines (x : Lexicon) : List Line :=
  inOrder ((x.rules.filter Rule.isSeparator).map Rule.pattern)
    ((x.rules.filter (!·.isSeparator)).map fun r => (r.name, r.pattern))

theorem toLines_ofLines (ls : List Line) :
    (ofLines ls).toLines = inOrder (separatorsOf ls) (rulesOf ls) := by
  rw [toLines]
  congr 1 <;> simp [ofLines, List.filter_map, Function.comp_def]

/-- The lines of a lexicon give the lexicon again, whatever lines it was made of. -/
theorem ofLines_toLines (ls : List Line) : ofLines (ofLines ls).toLines = ofLines ls := by
  rw [toLines_ofLines, ofLines, rulesOf_inOrder, separatorsOf_inOrder]
  rfl

theorem toList_render (x : Lexicon) :
    x.render.toList = x.toLines.flatMap fun l => l.written ++ ['\n'] := by
  have hrules : ((x.rules.filter (!·.isSeparator)).map fun r => r.render ++ "\n").flatMap
      String.toList = (x.rules.filter (!·.isSeparator)).flatMap fun r =>
        (Line.rule r.name r.pattern).written ++ ['\n'] := by
    rw [List.flatMap_map]
    refine List.flatMap_congr fun r hr => ?_
    have hr : r.isSeparator = false := by simpa using (List.mem_filter.1 hr).2
    simp [Rule.render, hr, Line.written, quoted]
  rw [Lexicon.render, toLines, inOrder, String.toList_append, String.toList_join, hrules,
    List.flatMap_append, List.flatMap_map, List.flatMap_map]
  congr 1
  simp only [List.isEmpty_map]
  split
  · rfl
  · simp [Line.written, quotedList, quoted, Function.comp_def, String.toList_intercalate]

/-- The lines of a lexicon of plain lines are plain, and all of them say something. -/
theorem plain_toLines {ls : List Line} (h : ∀ l ∈ ls, l.Plain) :
    ∀ l ∈ (ofLines ls).toLines, l.Plain ∧ l ≠ .skip := by
  intro l hl
  rw [toLines_ofLines, inOrder, List.mem_append] at hl
  rcases hl with hl | hl
  · split at hl
    · cases hl
    · rename_i hne
      cases List.mem_singleton.1 hl
      refine ⟨⟨by simpa using hne, fun p hp => ?_⟩, by simp⟩
      obtain ⟨l', hl', hp⟩ := List.mem_flatMap.1 hp
      cases l' with
      | skip => cases hp
      | separators ps => exact (h _ hl').2 p hp
      | rule name pattern => cases hp
  · obtain ⟨⟨name, pattern⟩, hr, rfl⟩ := List.mem_map.1 hl
    refine ⟨?_, by simp⟩
    obtain ⟨l', hl', hr⟩ := List.mem_filterMap.1 hr
    cases l' with
    | skip => cases hr
    | separators ps => cases hr
    | rule name' pattern' =>
      cases hr
      exact h _ hl'

/-! ## Texts -/

theorem readNumbered_eq_ok {line : Nat × List Char} {l : Line} :
    readNumbered line = .ok l ↔ Line.read line.2 = .ok l := by
  rw [readNumbered]
  split <;> simp_all

theorem plain_of_readNumbered {s : List Char} {line : Nat × List Char} {l : Line}
    (h : readNumbered line = .ok l) (hline : line ∈ numberedLines s) : l.Plain := by
  have hmem : line.2 ∈ lines s := map_snd_numberedLines s ▸ List.mem_map_of_mem hline
  exact Line.plain_of_read (readNumbered_eq_ok.1 h) (newline_not_mem_lines _ hmem)

/-- What is read from a text consists of plain lines. -/
theorem plain_of_parse {text : String} {x : Lexicon} (h : parse text = .ok x) :
    ∃ ls, x = ofLines ls ∧ ∀ l ∈ ls, l.Plain := by
  rw [parse] at h
  split at h
  · rename_i ls hls
    cases h
    refine ⟨ls, rfl, fun l hl => ?_⟩
    obtain ⟨line, hline, hread⟩ := exists_of_mem_right (mapM_eq_ok.1 hls) hl
    exact plain_of_readNumbered hread hline
  · cases h

/-- Every rule of plain lines that is no separator has a plain name and pattern. -/
theorem plain_of_mem_rules {ls : List Line} (h : ∀ l ∈ ls, l.Plain) {r : Rule}
    (hr : r ∈ (ofLines ls).rules) (hseparator : r.isSeparator = false) :
    (Line.rule r.name r.pattern).Plain := by
  rcases List.mem_append.1 hr with hr | hr
  · obtain ⟨⟨⟨name, pattern⟩, i⟩, hrule, rfl⟩ := List.mem_map.1 hr
    obtain ⟨l, hl, hrule⟩ := List.mem_filterMap.1 (List.fst_mem_of_mem_zipIdx hrule)
    cases l with
    | skip => cases hrule
    | separators ps => cases hrule
    | rule name' pattern' =>
      cases hrule
      exact h _ hl
  · obtain ⟨pattern, -, rfl⟩ := List.mem_map.1 hr
    cases hseparator

/-- A text whose lines are all read is read. -/
theorem parse_eq_ok {text : String} {ls : List Line}
    (h : List.Forall₂ (fun raw l => Line.read raw = .ok l) (lines text.toList) ls) :
    parse text = .ok (ofLines ls) := by
  rw [← map_snd_numberedLines, List.forall₂_map_left_iff] at h
  have hls : (numberedLines text.toList).mapM readNumbered = .ok ls :=
    mapM_eq_ok.2 (h.imp fun _ _ => readNumbered_eq_ok.2)
  rw [parse, hls]

/-- A lexicon of plain lines is read back. -/
theorem parse_render_ofLines {ls : List Line} (h : ∀ l ∈ ls, l.Plain) :
    parse (ofLines ls).render = .ok (ofLines ls) := by
  have hplain := plain_toLines h
  have hlines : lines (ofLines ls).render.toList = (ofLines ls).toLines.map Line.written := by
    rw [toList_render, ← List.flatMap_map _ fun l => l ++ ['\n']]
    -- every line ends in a quote, so no carriage return of a pattern is lost with its line feed
    refine lines_flatMap fun raw hraw => ?_
    obtain ⟨l, hl, rfl⟩ := List.mem_map.1 hraw
    obtain ⟨hl, hskip⟩ := hplain l hl
    rw [Line.getLast?_written hl hskip]
    exact ⟨Line.newline_not_mem_written hl, by decide⟩
  have hread : List.Forall₂ (fun raw l => Line.read raw = .ok l)
      (lines (ofLines ls).render.toList) (ofLines ls).toLines := by
    rw [hlines, List.forall₂_map_left_iff, List.forall₂_same]
    exact fun l hl => Line.read_written (hplain l hl).1 (hplain l hl).2
  rw [parse_eq_ok hread, ofLines_toLines]

/-- Whatever text a lexicon was read from, with or without bad lines among its lines, the lexicon
is read back from the text that it is written as. -/
theorem parse_render (text : String) :
    (∀ x, parse text = .ok x → parse x.render = .ok x) ∧
      parse (lint text).1.render = .ok (lint text).1 := by
  constructor
  · intro x hx
    rw [parse] at hx
    split at hx
    · rename_i ls hls
      cases hx
      refine parse_render_ofLines fun l hl => ?_
      obtain ⟨line, hline, hread⟩ := exists_of_mem_right (mapM_eq_ok.1 hls) hl
      exact plain_of_readNumbered hread hline
    · cases hx
  · refine parse_render_ofLines fun l hl => ?_
    obtain ⟨result, hresult, hl⟩ := List.mem_filterMap.1 hl
    obtain ⟨line, hline, rfl⟩ := List.mem_map.1 hresult
    cases hread : readNumbered line with
    | error e =>
      rw [hread] at hl
      cases hl
    | ok l' =>
      rw [hread] at hl
      cases hl
      exact plain_of_readNumbered hread hline

/-- Two lines of separators around a rule and a comment, with escaped and stray characters. -/
def unruly : String :=
  "% \" \" ,\"\\t\"\t\r\n # \"\nSTRING:=\"\\\"(a,%#|\rb)*\\\\\" \n%\",\"\nA_1 := \"\\\"\""

theorem parse_render_unruly : ∃ x, parse unruly = .ok x ∧
    x.render = "%\" \", \"\\t\", \",\"\nSTRING := \"\\\"(a,%#|\rb)*\\\\\"\nA_1 := \"\\\"\"\n" ∧
      parse x.render = .ok x := by
  have h : parse unruly = .ok ⟨[⟨"STRING", "\\\"(a,%#|\rb)*\\\\", 1, false⟩,
      ⟨"A_1", "\\\"", 2, false⟩, ⟨"IGNORE", " ", 3, true⟩, ⟨"IGNORE", "\\t", 3, true⟩,
      ⟨"IGNORE", ",", 3, true⟩]⟩ := by decide +kernel
  exact ⟨_, h, by decide +kernel, (parse_render unruly).1 _ h⟩

end TopDown.Lexicon
