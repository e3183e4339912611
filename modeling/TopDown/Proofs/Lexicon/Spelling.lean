import TopDown.Proofs.Lexicon.RoundTrip
import TopDown.Proofs.Text.Quoted

/-!
# The language of lexicon texts

Which lines a lexicon text may have and what lexicon they make, described without the functions that
read them. Each line is judged alone and with the blanks at its ends trimmed, but the priority of a
separator is known only once all rules are counted.

* `Spells` : one or more quoted patterns between commas; `readSeparators_eq_some_iff`;
* `Line.Spells`, `Line.read_eq_ok_iff` : the four forms of a line and what each of them says;
* `Enumerates`, `enumerates_iff` : a lexicon that has the rules and separators of some lines;
* `parse_iff_spelled` : a text is read if and only if all its lines have one of the forms, the
  lexicon that it is read as enumerates them, and otherwise the first line without a form is the
  fault.
-/

namespace TopDown.Lexicon

open Text

/-! ## Separators -/

/-- One or more quoted patterns between commas, with spaces and tabs around the commas. -/
inductive Spells : List (List Char) → List Char → Prop
  | last {p : List Char} (body : Quoted.Body '"' p) : Spells [p] ('"' :: (p ++ ['"']))
  | cons {p gap gap' s : List Char} {ps : List (List Char)} (body : Quoted.Body '"' p)
    (before : Gap gap) (behind : Gap gap') (tail : Spells ps s) :
    Spells (p :: ps) ('"' :: (p ++ '"' :: (gap ++ ',' :: (gap' ++ s))))

variable {s : List Char} {ps : List (List Char)}

theorem Spells.exists_cons (h : Spells ps s) : ∃ t, s = '"' :: t := by
  cases h <;> exact ⟨_, rfl⟩

theorem Spells.stops (h : Spells ps s) (rest : List Char) : Stops isGap (s ++ rest) := by
  obtain ⟨t, rfl⟩ := h.exists_cons
  exact stops_cons (by decide) _

/-- Patterns between commas are read up to a gap at the end. -/
theorem readSeparators_eq_some_iff :
    readSeparators s = some ps ↔ ∃ list gap, s = list ++ gap ∧ Spells ps list ∧ Gap gap := by
  constructor
  · intro h
    fun_induction readSeparators s generalizing ps with
    | case1 => cases h
    | case2 s t rest hread hrest =>
      cases h
      obtain ⟨rfl, hbody⟩ := (Quoted.read_eq_some_iff (by decide)).1 hread
      obtain ⟨gap, hgap, hcut⟩ := exists_gap_append_skipGap rest
      rw [hrest, List.append_nil] at hcut
      exact ⟨_, gap, by simp [hcut], .last hbody, hgap⟩
    | case3 s t rest hread more hrest _ ih =>
      obtain ⟨ps', hps', rfl⟩ := Option.map_eq_some_iff.1 h
      obtain ⟨rfl, hbody⟩ := (Quoted.read_eq_some_iff (by decide)).1 hread
      obtain ⟨gap, hgap, hcut⟩ := exists_gap_append_skipGap rest
      obtain ⟨gap', hgap', hcut'⟩ := exists_gap_append_skipGap more
      obtain ⟨list, final, hlist, hspells, hfinal⟩ := ih hps'
      rw [hlist] at hcut'
      rw [hrest, hcut'] at hcut
      exact ⟨_, final, by simp [hcut], .cons hbody hgap hgap' hspells, hfinal⟩
    | case4 => cases h
  · rintro ⟨list, final, rfl, hspells, hfinal⟩
    induction hspells with
    | @last p hbody =>
      have hread : Quoted.read '"' ('"' :: (p ++ ['"']) ++ final) = some (p, final) := by
        simpa using hbody.read (by decide) final
      exact readSeparators_of_nil hread (List.dropWhile_eq_nil_iff.2 hfinal)
    | @cons p gap gap' s ps hbody hgap hgap' hspells ih =>
      have hread : Quoted.read '"' ('"' :: (p ++ '"' :: (gap ++ ',' :: (gap' ++ s))) ++ final) =
          some (p, gap ++ ',' :: (gap' ++ s ++ final)) := by
        simpa using hbody.read (by decide) (gap ++ ',' :: (gap' ++ s ++ final))
      rw [readSeparators_of_comma hread (skipGap_append hgap (stops_cons (by decide) _)),
        List.append_assoc, skipGap_append hgap' (hspells.stops final), ih]
      rfl

/-! ## Rules -/

/-- An upper-case letter, then upper-case letters, digits and underscores. -/
def IsName (s : List Char) : Prop :=
  ∃ c t, s = c :: t ∧ c.isUpper = true ∧ ∀ d ∈ t, isNameChar d = true

/-- A name, `:=` and a quoted pattern are read with gaps on either side of the `:=`. -/
theorem readRule_eq_some_iff {name pattern rest : List Char} :
    readRule s = some (name, pattern, rest) ↔ ∃ gap gap',
      s = name ++ (gap ++ ':' :: '=' :: (gap' ++ '"' :: (pattern ++ '"' :: rest))) ∧
        IsName name ∧ Gap gap ∧ Gap gap' ∧ Quoted.Body '"' pattern := by
  constructor
  · intro h
    rw [readRule] at h
    split at h
    · cases h
    rename_i name' afterName hname
    split at h
    · rename_i afterAssign hassign
      split at h
      · rename_i hread
        cases h
        obtain ⟨rfl, hisName⟩ := readName_eq_some hname
        obtain ⟨hafter, hbody⟩ := (Quoted.read_eq_some_iff (by decide)).1 hread
        obtain ⟨gap, hgap, hcut⟩ := exists_gap_append_skipGap afterName
        obtain ⟨gap', hgap', hcut'⟩ := exists_gap_append_skipGap afterAssign
        rw [hafter] at hcut'
        rw [hassign, hcut'] at hcut
        exact ⟨gap, gap', by rw [hcut], isName_iff.1 hisName, hgap, hgap', hbody⟩
      · cases h
    · cases h
  · rintro ⟨gap, gap', rfl, hname, hgap, hgap', hbody⟩
    have hstops : Stops isNameChar
        (gap ++ ':' :: '=' :: (gap' ++ '"' :: (pattern ++ '"' :: rest))) :=
      hgap.stops (by decide) (by decide) (stops_cons (by decide) _)
    rw [readRule, readName_append (isName_iff.2 hname) hstops]
    simp only [skipGap_append hgap (stops_cons (by decide : isGap ':' = false) _),
      skipGap_append hgap' (stops_cons (by decide : isGap '"' = false) _),
      hbody.read (by decide : '"' ≠ '\\')]

/-! ## Lines -/

/-- What a line says, by its text without the blanks at both ends. -/
inductive Line.Spells : Line → List Char → Prop
  | blank : Spells .skip []
  | comment (s : List Char) : Spells .skip ('#' :: s)
  | separators {gap s : List Char} {ps : List (List Char)} (behind : Gap gap)
    (list : Lexicon.Spells ps s) : Spells (.separators (ps.map String.ofList)) ('%' :: (gap ++ s))
  | rule {name gap gap' pattern : List Char} (named : IsName name) (before : Gap gap)
    (behind : Gap gap') (body : Quoted.Body '"' pattern) :
    Spells (.rule (String.ofList name) (String.ofList pattern))
      (name ++ (gap ++ ':' :: '=' :: (gap' ++ '"' :: (pattern ++ ['"']))))

/-- A line that starts with a name is read as a rule or not at all. -/
theorem Line.read_of_isName {raw name rest : List Char} (hname : IsName name)
    (hraw : trim raw = name ++ rest) : Line.read raw = match readRule (name ++ rest) with
      | some (name, pattern, rest) =>
        if (trim rest).isEmpty then .ok (.rule (String.ofList name) (String.ofList pattern))
        else .error .trailingText
      | none => .error (diagnose (name ++ rest)) := by
  obtain ⟨c, t, rfl, hc, -⟩ := hname
  rw [Line.read, hraw, List.cons_append]
  split
  · cases ‹_›
  · rename_i heq
    cases heq
    cases hc
  · rename_i heq
    cases heq
    cases hc
  · rfl

/-- A line is read if and only if it has one of the four forms, and as what that form says. -/
theorem Line.read_eq_ok_iff {raw : List Char} {l : Line} :
    Line.read raw = .ok l ↔ l.Spells (trim raw) := by
  constructor
  · intro h
    rw [Line.read] at h
    split at h
    · rename_i hline
      cases h
      exact hline ▸ .blank
    · rename_i hline
      cases h
      exact hline ▸ .comment _
    · rename_i list hline
      split at h
      · rename_i patterns hread
        cases h
        obtain ⟨gap, hgap, hcut⟩ := exists_gap_append_skipGap list
        obtain ⟨s, final, hlist, hspells, hfinal⟩ := readSeparators_eq_some_iff.1 hread
        -- a gap behind the last pattern would have been trimmed
        have hend : trim raw = '%' :: (gap ++ s) ++ final := by
          rw [hline, hcut, hlist, List.cons_append, List.append_assoc]
        rw [hend, eq_nil_of_trim_eq_append hend hfinal.isBlank, List.append_nil]
        exact .separators hgap hspells
      · cases h
    · split at h
      · rename_i name pattern rest hread
        split at h
        · rename_i hrest
          cases h
          obtain ⟨gap, gap', hline, hname, hgap, hgap', hbody⟩ := readRule_eq_some_iff.1 hread
          have hend : trim raw =
              name ++ (gap ++ ':' :: '=' :: (gap' ++ '"' :: (pattern ++ ['"']))) ++ rest := by
            simp [hline]
          have hblank := trim_eq_nil_iff.1 (List.isEmpty_iff.1 hrest)
          rw [hend, eq_nil_of_trim_eq_append hend hblank, List.append_nil]
          exact .rule hname hgap hgap' hbody
        · cases h
      · cases h
  · intro h
    generalize hline : trim raw = line at h
    cases h with
    | blank => rw [Line.read, hline]
    | comment s =>
      rw [Line.read, hline]
      rfl
    | @separators gap s ps hgap hspells =>
      have hskip : skipGap (gap ++ s) = s := by
        simpa using skipGap_append hgap (hspells.stops [])
      have hread := readSeparators_eq_some_iff.2 ⟨s, [], (List.append_nil s).symm, hspells, gap_nil⟩
      rw [Line.read, hline]
      simp only [hskip, hread]
    | @rule name gap gap' pattern hname hgap hgap' hbody =>
      have hread := readRule_eq_some_iff.2
        ⟨gap, gap', (rfl : _ = name ++ (gap ++ ':' :: '=' :: (gap' ++ '"' :: (pattern ++ ['"'])))),
          hname, hgap, hgap', hbody⟩
      rw [Line.read_of_isName hname hline, hread]
      rfl

/-! ## Texts -/

/-- The lexicon has the rules of the lines in order, with priorities from one, and behind them all
separators in order, which share the priority after the last rule's. -/
def Enumerates (x : Lexicon) (ls : List Line) : Prop :=
  ∃ rules separators, x.rules = rules ++ separators ∧
    rules.map (fun r => (r.name, r.pattern)) = rulesOf ls ∧
    rules.map Rule.priority = List.range' 1 rules.length ∧
    (∀ r ∈ rules, r.isSeparator = false) ∧
    separators.map Rule.pattern = separatorsOf ls ∧
    ∀ r ∈ separators, r.name = "IGNORE" ∧ r.priority = rules.length + 1 ∧ r.isSeparator = true

/-- Some lines are enumerated by the lexicon that is made of them, and by no other. -/
theorem enumerates_iff {x : Lexicon} {ls : List Line} : x.Enumerates ls ↔ x = ofLines ls := by
  constructor
  · rintro ⟨rules, separators, hrules, hnames, hpriorities, hkinds, hpatterns, hlast⟩
    have hlength : (rulesOf ls).length = rules.length := by
      rw [← hnames, List.length_map]
    have hfirst : rules = (rulesOf ls).zipIdx.map fun r => ⟨r.1.1, r.1.2, r.2 + 1, false⟩ := by
      refine List.ext_getElem (by simp [hlength]) fun i hi _ => ?_
      have hpriority : rules[i].priority = i + 1 := by
        have hget := congrArg (·[i]?) hpriorities
        simpa [hi, Nat.add_comm] using hget
      have hkind := hkinds _ (List.getElem_mem hi)
      have hrule : rules[i] = ⟨rules[i].name, rules[i].pattern, i + 1, false⟩ := by
        rw [← hpriority, ← hkind]
      simpa [← hnames] using hrule
    have hsecond : separators = (separatorsOf ls).map fun pattern =>
        ⟨Rule.separatorName, pattern, (rulesOf ls).length + 1, true⟩ := by
      rw [← hpatterns, List.map_map, hlength]
      refine (List.map_id separators).symm.trans (List.map_congr_left fun r hr => ?_)
      obtain ⟨hname, hpriority, hkind⟩ := hlast r hr
      cases r
      cases hname
      cases hpriority
      cases hkind
      rfl
    calc x = ⟨rules ++ separators⟩ := by rw [← hrules]
      _ = ofLines ls := by rw [hfirst, hsecond]; rfl
  · rintro rfl
    refine ⟨_, _, rfl, ?_, ?_, ?_, ?_, ?_⟩
    · rw [List.map_map]
      exact List.zipIdx_map_fst 0 (rulesOf ls)
    · refine List.ext_getElem (by simp) fun i _ _ => ?_
      simp [Nat.add_comm]
    · intro r hr
      obtain ⟨_, -, rfl⟩ := List.mem_map.1 hr
      rfl
    · simp [Function.comp_def]
    · simp [Rule.separatorName]

variable {text : String} {x : Lexicon} {e : SpecError}

theorem parse_eq_ok_iff : parse text = .ok x ↔
    ∃ ls, List.Forall₂ (fun raw l => Line.read raw = .ok l) (lines text.toList) ls ∧
      x = ofLines ls := by
  constructor
  · intro h
    rw [parse] at h
    split at h
    · rename_i ls hls
      cases h
      refine ⟨ls, ?_, rfl⟩
      rw [← map_snd_numberedLines, List.forall₂_map_left_iff]
      exact (mapM_eq_ok.1 hls).imp fun _ _ => readNumbered_eq_ok.1
    · cases h
  · rintro ⟨ls, hls, rfl⟩
    exact parse_eq_ok hls

theorem readNumbered_eq_error {line : Nat × List Char} :
    readNumbered line = .error e ↔ ∃ fault, Line.read line.2 = .error fault ∧
      e = .lexicon line.1 (String.ofList line.2) fault := by
  unfold readNumbered
  cases Line.read line.2 with
  | ok l => simp
  | error fault => simp [eq_comm]

/-- A text is refused for its first line that cannot be read. -/
theorem parse_eq_error_iff : parse text = .error e ↔
    ∃ before raw after fault, lines text.toList = before ++ raw :: after ∧
      (∀ raw' ∈ before, ∃ l, Line.read raw' = .ok l) ∧ Line.read raw = .error fault ∧
        e = .lexicon (before.length + 1) (String.ofList raw) fault := by
  have hparse : parse text = .error e ↔
      (numberedLines text.toList).mapM readNumbered = .error e := by
    rw [parse]
    cases (numberedLines text.toList).mapM readNumbered <;> simp
  rw [hparse, mapM_eq_error]
  constructor
  · rintro ⟨before, line, after, hlines, hbefore, hline⟩
    obtain ⟨hsplit, hnumber⟩ := lines_of_numberedLines hlines
    obtain ⟨fault, hread, rfl⟩ := readNumbered_eq_error.1 hline
    refine ⟨_, _, _, fault, hsplit, ?_, hread, by rw [hnumber, List.length_map]⟩
    rw [List.forall_mem_map]
    exact fun line' hline' => (hbefore line' hline').imp fun _ => readNumbered_eq_ok.1
  · rintro ⟨before, raw, after, fault, hlines, hbefore, hread, rfl⟩
    obtain ⟨front, back, hnumbered, rfl⟩ := numberedLines_of_lines hlines
    refine ⟨front, _, back, hnumbered, fun line hline => ?_,
      readNumbered_eq_error.2 ⟨fault, hread, rfl⟩⟩
    exact (hbefore _ (List.mem_map_of_mem hline)).imp fun _ => readNumbered_eq_ok.2

/-- A text is read if and only if every line has one of the four forms, and then it is read as the
lexicon that enumerates what its lines say. Otherwise the fault is that of the first line without a
form, with its number and its text as it stands there. -/
theorem parse_iff_spelled (text : String) :
    (∀ x, parse text = .ok x ↔ ∃ ls,
      List.Forall₂ (fun raw l => Line.Spells l (trim raw)) (lines text.toList) ls ∧
        x.Enumerates ls) ∧
    ((∃ x, parse text = .ok x) ↔ ∀ raw ∈ lines text.toList, ∃ l, Line.Spells l (trim raw)) ∧
    ∀ e, parse text = .error e ↔ ∃ before raw after fault,
      lines text.toList = before ++ raw :: after ∧
        (∀ raw' ∈ before, ∃ l, Line.Spells l (trim raw')) ∧
          (¬ ∃ l, Line.Spells l (trim raw)) ∧ Line.read raw = .error fault ∧
            e = .lexicon (before.length + 1) (String.ofList raw) fault := by
  simp only [enumerates_iff, ← Line.read_eq_ok_iff]
  refine ⟨fun x => parse_eq_ok_iff, ?_, fun e => ?_⟩
  · have hall : (∃ ls, (lines text.toList).mapM Line.read = .ok ls ∧ ∀ l ∈ ls, True) ↔
        ∀ raw ∈ lines text.toList, ∃ l, Line.read raw = .ok l ∧ True := exists_mapM_iff
    simp only [implies_true, and_true, mapM_eq_ok] at hall
    rw [← hall]
    constructor
    · rintro ⟨x, hx⟩
      obtain ⟨ls, hls, -⟩ := parse_eq_ok_iff.1 hx
      exact ⟨ls, hls⟩
    · rintro ⟨ls, hls⟩
      exact ⟨ofLines ls, parse_eq_ok hls⟩
  · rw [parse_eq_error_iff]
    constructor
    · rintro ⟨before, raw, after, fault, hlines, hbefore, hread, he⟩
      refine ⟨before, raw, after, fault, hlines, hbefore, ?_, hread, he⟩
      rintro ⟨l, hl⟩
      cases hread.symm.trans hl
    · rintro ⟨before, raw, after, fault, hlines, hbefore, -, hread, he⟩
      exact ⟨before, raw, after, fault, hlines, hbefore, hread, he⟩

end TopDown.Lexicon
