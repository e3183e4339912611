import TopDown.Proofs.Emission.Faithful
import TopDown.Proofs.Emission.SupportText
import TopDown.Proofs.Standalone.Agreement

/-!
# Emission inside modules

* `Fragments.answer`, `Fragments.answer_eq` : pulling fragments, also behind the last one;
* `ofLines`, `indented` : a text of whole lines, and a line in its place inside modules;
* `exists_lines`, `indentText_ofLines`, `indentText_append` : a text of whole lines is indented line
  by line, apart from what follows it;
* `Carries`, `Carries.lines`, `carries_arm`, `carries_type` : lines that a text holds, also inside
  modules;
* `NameFault`, `Compilation.emit_eq_error_iff` : what is compiled can only fail to be emitted by
  its names;
* `Compilation.emit_nests` : the fragments inside modules next to those outside of any.
-/

namespace TopDown.Emission

open Text

/-! ## Pulling for ever -/

namespace Fragments

/-- The answer to the pull number `n`, from zero. When all is written, nothing changes any more. -/
def answer (f : Fragments) : Nat → Option String
  | 0 => f.next.map Prod.fst
  | n + 1 =>
    match f.next with
    | none => f.answer n
    | some (_, f') => f'.answer n

theorem toList_of_none {f : Fragments} (h : f.next = none) : f.toList = [] := by
  rw [toList]
  split
  · rfl
  · rename_i h'
    cases h.symm.trans h'

theorem toList_of_some {f f' : Fragments} {s : String} (h : f.next = some (s, f')) :
    f.toList = s :: f'.toList := by
  rw [toList]
  split
  · rename_i h'
    cases h.symm.trans h'
  · rename_i h'
    cases h.symm.trans h'
    rfl

/-- The fragments are given out in order, and then nothing for ever. -/
theorem answer_eq (f : Fragments) (n : Nat) : f.answer n = f.toList[n]? := by
  induction n generalizing f with
  | zero =>
    rw [answer]
    cases h : f.next with
    | none => rw [toList_of_none h]; rfl
    | some sf => rw [toList_of_some h]; rfl
  | succ n ih =>
    rw [answer]
    split
    · rename_i h
      rw [ih, toList_of_none h]
      rfl
    · rename_i h
      rw [ih, toList_of_some h]
      rfl

/-- The modules are opened one inside the other. -/
theorem toList_inside (p : Parser) (depth : Nat) (modules : List String) :
    (Fragments.mk p (.inside depth modules)).toList =
      (modules.zipIdx depth).map (fun m => openModule m.2 m.1) ++
        (Fragments.mk p .tables).toList := by
  induction modules generalizing depth with
  | nil => rfl
  | cons name modules ih =>
    rw [Stage.inside, toList_of_some rfl, ih, List.zipIdx_cons, List.map_cons, List.cons_append]

theorem toList_tables (p : Parser) : (Fragments.mk p .tables).toList =
    [tablesFragment p.tables p.modules.length, supportFragment p.name p.modules.length] ++
      if p.modules = [] then [] else [closeModules p.modules.length] := by
  rw [toList_of_some rfl, toList_of_some rfl]
  by_cases hmodules : p.modules = []
  · simp [hmodules, toList_of_none (f := ⟨p, .done⟩) rfl]
  · simp [hmodules, toList_of_some (f := ⟨p, .closing⟩) rfl, toList_of_none (f := ⟨p, .done⟩) rfl]

theorem toList_header (p : Parser) : (Fragments.mk p .header).toList =
    header :: (p.modules.zipIdx.map (fun m => openModule m.2 m.1) ++
      ([tablesFragment p.tables p.modules.length, supportFragment p.name p.modules.length] ++
        if p.modules = [] then [] else [closeModules p.modules.length])) := by
  rw [toList_of_some rfl, toList_inside, toList_tables]

end Fragments

/-! ## Whole lines -/

/-- The text of these lines, a line feed behind each. -/
def ofLines (ls : List (List Char)) : String := String.ofList (ls.flatMap (· ++ ['\n']))

/-- A line inside `depth` modules. -/
def indented (depth : Nat) (l : List Char) : List Char :=
  if l = [] then [] else List.replicate (indentWidth * depth) ' ' ++ l

theorem map_indented_zero (ls : List (List Char)) : ls.map (indented 0) = ls := by
  have hsame : indented 0 = id := by
    funext l
    by_cases hl : l = [] <;> simp [indented, hl]
  rw [hsame, List.map_id]

theorem ofLines_append (ls ls' : List (List Char)) :
    ofLines (ls ++ ls') = ofLines ls ++ ofLines ls' := by
  rw [ofLines, List.flatMap_append, String.ofList_append, ofLines, ofLines]

theorem flatMap_lines {s : List Char} (h : '\r' ∉ s) :
    (lines (s ++ ['\n'])).flatMap (· ++ ['\n']) = s ++ ['\n'] := by
  induction s with
  | nil => rfl
  | cons c s ih =>
    rw [List.mem_cons, not_or] at h
    have hrest := ih h.2
    by_cases hc : c = '\n'
    · rw [hc, List.cons_append, lines, List.flatMap_cons, hrest]
      rfl
    · have hline : lines (c :: (s ++ ['\n'])) = consLine c (lines (s ++ ['\n'])) := by
        rw [lines]
        · exact hc
        · exact fun _ hreturn => absurd hreturn.symm h.1
      rw [List.cons_append, hline]
      cases hls : lines (s ++ ['\n']) with
      | nil => exact absurd hls (lines_ne_nil (by simp))
      | cons l ls =>
        rw [hls] at hrest
        exact congrArg (c :: ·) hrest

/-- A text that breaks off inside no line. -/
def Whole (text : String) : Prop := ∀ c ∈ text.toList.getLast?, c = '\n'

theorem whole_append_of_ne_nil {text' : String} (h : Whole text') (hne : text'.toList ≠ [])
    (text : String) : Whole (text ++ text') := by
  intro c hc
  rw [String.toList_append, List.getLast?_append_of_ne_nil _ hne] at hc
  exact h c hc

theorem whole_append {text text' : String} (h : Whole text) (h' : Whole text') :
    Whole (text ++ text') := by
  by_cases hne : text'.toList = []
  · intro c hc
    rw [String.toList_append, hne, List.append_nil] at hc
    exact h c hc
  · exact whole_append_of_ne_nil h' hne text

theorem whole_line (text : String) : Whole (text ++ "\n") := by
  intro c hc
  rw [String.toList_append, show "\n".toList = ['\n'] from rfl, List.getLast?_concat] at hc
  cases hc
  rfl

theorem whole_empty : Whole "" := fun _ h => nomatch h

mutual

theorem whole_render (c : Code) (indent : Nat) : Whole (c.render indent) := by
  cases c with
  | line text => exact whole_line _
  | nest first body last =>
    rw [Code.render.eq_def]
    refine whole_append (whole_append (whole_line _) (whole_renderAll body _)) ?_
    cases last with
    | none => exact whole_empty
    | some text => exact whole_line _

theorem whole_renderAll (cs : List Code) (indent : Nat) : Whole (Code.renderAll indent cs) := by
  cases cs with
  | nil => exact whole_empty
  | cons c cs => exact whole_append (whole_render c indent) (whole_renderAll cs indent)

end

/-- A part of a text behind whole lines. -/
def Carries (text part : String) : Prop :=
  ∃ front back, Whole front ∧ text = front ++ (part ++ back)

theorem carries_append {front : String} (h : Whole front) (part back : String) :
    Carries (front ++ (part ++ back)) part := ⟨front, back, h, rfl⟩

theorem carries_last {front : String} (h : Whole front) (part : String) :
    Carries (front ++ part) part := ⟨front, "", h, by rw [String.append_empty]⟩

theorem Carries.trans {text part inner : String} (h : Carries text part)
    (h' : Carries part inner) : Carries text inner := by
  obtain ⟨front, back, hfront, rfl⟩ := h
  obtain ⟨front', back', hfront', rfl⟩ := h'
  refine ⟨front ++ front', back' ++ back, whole_append hfront hfront', ?_⟩
  simp only [String.append_assoc]

theorem Carries.append {text part : String} (h : Carries text part) (back : String) :
    Carries (text ++ back) part := by
  obtain ⟨front, back', hfront, rfl⟩ := h
  exact ⟨front, back' ++ back, hfront, by simp only [String.append_assoc]⟩

theorem carries_renderAll {c : Code} {cs : List Code} (h : c ∈ cs) (indent : Nat) :
    Carries (Code.renderAll indent cs) (c.render indent) := by
  obtain ⟨before, after, rfl⟩ := List.append_of_mem h
  refine ⟨Code.renderAll indent before, Code.renderAll indent after, whole_renderAll _ _, ?_⟩
  induction before with
  | nil => rw [List.nil_append, Code.renderAll, Code.renderAll, String.empty_append]
  | cons d before ih => rw [List.cons_append, Code.renderAll, ih (by simp), Code.renderAll,
      String.append_assoc]

/-- A block carries its first line and what stands in it. -/
theorem carries_block {c : Code} {body : List Code} (h : c ∈ body) (head tail : String)
    (indent : Nat) : Carries ((Code.block head body tail).render indent)
      (spaces indent ++ (head ++ " \x7b") ++ "\n") ∧
    Carries ((Code.block head body tail).render indent) (c.render (indent + indentWidth)) := by
  have hlast : ∃ back, (Code.block head body tail).render indent =
      spaces indent ++ (head ++ " \x7b") ++ "\n" ++
        (Code.renderAll (indent + indentWidth) body ++ back) := by
    rw [Code.block, Code.render]
    exact ⟨_, String.append_assoc ..⟩
  obtain ⟨back, hback⟩ := hlast
  rw [hback]
  exact ⟨⟨"", _, whole_empty, (String.empty_append).symm⟩,
    (carries_append (whole_line _) _ _).trans (carries_renderAll h _)⟩

/-- A text without carriage returns that breaks off inside no line is made of whole lines. -/
theorem exists_lines {text : String} (hreturn : '\r' ∉ text.toList) (hwhole : Whole text) :
    ∃ ls : List (List Char), (∀ l ∈ ls, '\n' ∉ l ∧ '\r' ∉ l) ∧ text = ofLines ls := by
  have hflat : (lines text.toList).flatMap (· ++ ['\n']) = text.toList := by
    cases hlast : text.toList.getLast? with
    | none =>
      rw [List.getLast?_eq_none_iff.1 hlast]
      rfl
    | some c =>
      obtain ⟨s, hs⟩ := List.getLast?_eq_some_iff.1 hlast
      rw [hwhole c hlast] at hs
      rw [hs]
      refine flatMap_lines fun h => hreturn ?_
      rw [hs]
      exact List.mem_append_left _ h
  refine ⟨lines text.toList, fun l hl => ⟨newline_not_mem_lines l hl, fun hmem => hreturn ?_⟩, ?_⟩
  · rw [← hflat]
    exact List.mem_flatMap.2 ⟨l, hl, List.mem_append_left _ hmem⟩
  · rw [ofLines, hflat, String.ofList_toList]

/-- A text of whole lines is indented line by line. -/
theorem indentText_ofLines {ls : List (List Char)} (h : ∀ l ∈ ls, '\n' ∉ l ∧ '\r' ∉ l)
    (depth : Nat) : indentText depth (ofLines ls) = ofLines (ls.map (indented depth)) := by
  unfold indentText
  split
  · rename_i hdepth
    rw [hdepth, map_indented_zero]
  · have hline (l : List Char) : (indentLine depth l).toList = indented depth l ++ ['\n'] := by
      by_cases hl : l = [] <;> simp [indentLine, indented, hl, spaces]
    have hlines : lines (ofLines ls).toList = ls := by
      rw [ofLines, String.toList_ofList]
      exact lines_flatMap fun l hl =>
        ⟨(h l hl).1, fun hlast => (h l hl).2 (List.mem_of_getLast? hlast)⟩
    rw [hlines, ofLines, ← String.toList_inj, String.toList_join, String.toList_ofList,
      List.flatMap_map, List.flatMap_map]
    exact congrArg (ls.flatMap ·) (funext hline)

theorem returnless_ofLines {ls : List (List Char)} (h : ∀ l ∈ ls, '\n' ∉ l ∧ '\r' ∉ l) :
    '\r' ∉ (ofLines ls).toList := by
  rw [ofLines, String.toList_ofList, List.mem_flatMap]
  rintro ⟨l, hl, hmem⟩
  rcases List.mem_append.1 hmem with hmem | hmem
  · exact (h l hl).2 hmem
  · exact absurd hmem (by decide)

/-- A text of whole lines is indented apart from what follows it. -/
theorem indentText_append {text : String} (hreturn : '\r' ∉ text.toList) (hwhole : Whole text)
    (depth : Nat) (text' : String) :
    indentText depth (text ++ text') = indentText depth text ++ indentText depth text' := by
  obtain ⟨ls, hls, rfl⟩ := exists_lines hreturn hwhole
  have hcut (s : List Char) : lines ((ofLines ls).toList ++ s) = ls ++ lines s := by
    rw [ofLines, String.toList_ofList]
    exact lines_flatMap_append (fun l hl =>
      ⟨(hls l hl).1, fun hlast => (hls l hl).2 (List.mem_of_getLast? hlast)⟩) s
  have hlines : lines (ofLines ls).toList = ls := by
    simpa [lines] using hcut []
  unfold indentText
  split
  · rfl
  · rw [String.toList_append, hcut, hlines, ← String.toList_inj, String.toList_append]
    simp only [String.toList_join, List.map_append, List.flatMap_append]

/-- Whole lines that a text carries are indented with it. -/
theorem Carries.indent {text part : String} (h : Carries text part) (hpart : Whole part)
    (hreturn : '\r' ∉ text.toList) (depth : Nat) :
    ∃ front back, indentText depth text = front ++ indentText depth part ++ back := by
  obtain ⟨front, back, hfront, rfl⟩ := h
  rw [String.toList_append, List.mem_append, not_or, String.toList_append, List.mem_append,
    not_or] at hreturn
  refine ⟨indentText depth front, indentText depth back, ?_⟩
  rw [indentText_append hreturn.1 hfront, indentText_append hreturn.2.1 hpart, String.append_assoc]

/-- Whole lines that other lines carry stand among them inside modules too, indented as they are. -/
theorem Carries.lines {ls : List (List Char)} (hls : ∀ l ∈ ls, '\n' ∉ l ∧ '\r' ∉ l) {part : String}
    (h : Carries (ofLines ls) part) (hpart : Whole part) (depth : Nat) :
    ∃ before after, ofLines (ls.map (indented depth)) =
      before ++ indentText depth part ++ after := by
  rw [← indentText_ofLines hls]
  exact h.indent hpart (returnless_ofLines hls) depth

theorem openModule_eq (depth : Nat) (name : String) :
    openModule depth name =
      ofLines [indented depth ("pub mod ".toList ++ name.toList ++ " \x7b".toList)] := by
  rw [← String.toList_inj, openModule, ofLines, indented, if_neg (by simp)]
  simp [spaces]

theorem closeModules_eq (n : Nat) :
    closeModules n = ofLines ((List.range n).reverse.map fun depth => indented depth ['\x7d']) := by
  rw [← String.toList_inj, closeModules, ofLines, String.toList_join, String.toList_ofList,
    List.flatMap_map, List.flatMap_map]
  refine congrArg ((List.range n).reverse.flatMap ·) (funext fun depth => ?_)
  simp [spaces, indented]

/-! ## The two large fragments -/

theorem not_mem_return_of_tame {r : Region} {s : List Char} (h : Tame r s) : '\r' ∉ s := by
  induction s generalizing r with
  | nil => exact List.not_mem_nil
  | cons c s ih =>
    rw [List.mem_cons, not_or]
    exact ⟨h.1.symm, ih h.2.2⟩

theorem Condenses.returnless {s w : List Char} (h : Condenses s w) : '\r' ∉ s :=
  not_mem_return_of_tame h.tame

/-- Tables are made of whole lines. -/
theorem exists_lines_render (t : Tables) :
    ∃ ls : List (List Char), (∀ l ∈ ls, '\n' ∉ l ∧ '\r' ∉ l) ∧ t.render = ofLines ls := by
  apply exists_lines (faithful_render.condenses t).returnless
  have hpredict : (Code.renderAll 0 (predictCode t.arms)).toList ≠ [] := by
    rw [predictCode, Code.renderAll, Code.render]
    simp
  unfold Tables.render
  exact whole_append_of_ne_nil (whole_renderAll _ _) hpredict _

/-- Tables hold the line of every arm. -/
theorem carries_arm {t : Tables} {a : Arm} (h : a ∈ t.arms) :
    Carries t.render ((armCode a).render (2 * indentWidth)) := by
  have hpredict : Carries t.render (Code.renderAll 0 (predictCode t.arms)) := by
    unfold Tables.render
    refine carries_last (whole_append_of_ne_nil ?_ ?_ _) _
    · exact whole_append_of_ne_nil (whole_line ";") (by decide) _
    · simp [constant]
  let cases : Code :=
    .block "match (nonterminal, lookahead)" (t.arms.map armCode ++ [.line "_ => None,"]) ""
  have harm : armCode a ∈ t.arms.map armCode ++ [.line "_ => None,"] :=
    List.mem_append_left _ (List.mem_map_of_mem h)
  have hfunction : .block
      "pub fn predict(nonterminal: usize, lookahead: Option<usize>) -> Option<usize>" [cases] "" ∈
        predictCode t.arms := List.mem_cons_of_mem _ (List.mem_cons_of_mem _ List.mem_cons_self)
  exact hpredict.trans ((carries_renderAll hfunction 0).trans
    ((carries_block (List.mem_singleton_self cases) _ _ 0).2.trans (carries_block harm _ _ _).2))

/-- The fixed part holds the type of the parser. -/
theorem carries_type (name : String) :
    Carries (support name) ("pub struct " ++ name ++ " \x7b\n") := by
  have htype : .block ("pub struct " ++ name)
      [.line "rules: Vec<(::regex::Regex, Option<usize>, usize)>,"] "" ∈
        typeItems ++ parserItems name ++ supportItems :=
    List.mem_append_left _ (List.mem_append_right _ List.mem_cons_self)
  have hhead : spaces 0 ++ ("pub struct " ++ name ++ " \x7b") ++ "\n" =
      "pub struct " ++ name ++ " \x7b\n" := by
    rw [← String.toList_inj]
    simp [spaces]
  rw [← hhead]
  exact (carries_renderAll htype 0).trans (carries_block List.mem_cons_self _ _ 0).1

theorem exists_lines_tablesFragment (t : Tables) :
    ∃ ls : List (List Char), (∀ l ∈ ls, '\n' ∉ l ∧ '\r' ∉ l) ∧
      ∀ depth, tablesFragment t depth = ofLines (ls.map (indented depth)) := by
  obtain ⟨ls, hls, htext⟩ := exists_lines_render t
  refine ⟨ls ++ [[]], ?_, fun depth => ?_⟩
  · intro l hl
    rcases List.mem_append.1 hl with hl | hl
    · exact hls l hl
    · rw [List.mem_singleton.1 hl]
      exact ⟨List.not_mem_nil, List.not_mem_nil⟩
  · rw [tablesFragment, htext, indentText_ofLines hls, List.map_append, ofLines_append]
    rfl

theorem exists_lines_supportFragment {name : String} (hname : IsWord name.toList) :
    ∃ ls : List (List Char), (∀ l ∈ ls, '\n' ∉ l ∧ '\r' ∉ l) ∧
      ∀ depth, supportFragment name depth = ofLines (ls.map (indented depth)) := by
  obtain ⟨ls, hls, htext⟩ := exists_lines (returnless_support hname) (whole_renderAll _ _)
  refine ⟨ls, hls, fun depth => ?_⟩
  rw [supportFragment, htext, indentText_ofLines hls]

/-! ## Failures -/

/-- A fault of the parser's name, or else one of the module path. -/
inductive NameFault (name path : String) : EmitError → Prop
  | parser {e} : parserName name = .error e → NameFault name path e
  | modules {id e} : parserName name = .ok id → modulePath path = .error e → NameFault name path e

theorem parserName_error {name : String} {e : EmitError} (h : parserName name = .error e) :
    e = .invalidParserName name ∨ e = .reservedName name := by
  unfold parserName at h
  split at h
  · cases h
    exact .inl rfl
  · split at h
    · cases h
      exact .inr rfl
    · cases h

theorem modulePath_error {path : String} {e : EmitError} (h : modulePath path = .error e) :
    ∃ trimmed, e = .invalidModule trimmed := by
  simp only [modulePath] at h
  split at h
  · cases h
  · split at h
    · cases h
    · cases h
      exact ⟨_, rfl⟩

/-- The table and the rules are no names. -/
theorem NameFault.of_names {name path : String} {e : EmitError} (h : NameFault name path e) :
    (∀ n, e ≠ .nondeterministic n) ∧ ∀ rule, e ≠ .unknownTerminal rule := by
  cases h with
  | parser h =>
    rcases parserName_error h with rfl | rfl
    · exact ⟨fun _ => nofun, fun _ => nofun⟩
    · exact ⟨fun _ => nofun, fun _ => nofun⟩
  | modules _ h =>
    obtain ⟨trimmed, rfl⟩ := modulePath_error h
    exact ⟨fun _ => nofun, fun _ => nofun⟩

end TopDown.Emission

namespace TopDown.Compilation

open Emission

variable {c : Compilation} {rows : List RuleRow} {name path : String}

/-- What is emitted for a grammar with rows for its rules and a table without conflicts. -/
theorem emit_eq (hrows : ruleRows c.grammar c.lexer.lexicon = .ok rows)
    (hconflicts : c.table.conflicts = []) (name path : String) :
    c.emit name path = match parserName name with
      | .error e => .error (.emit e)
      | .ok id =>
        match modulePath path with
        | .error e => .error (.emit e)
        | .ok modules => .ok ⟨.of c.grammar rows c.table, id, modules⟩ := by
  unfold Compilation.emit Emission.emit
  cases parserName name with
  | error e => rfl
  | ok id =>
    cases modulePath path with
    | error e => rfl
    | ok modules =>
      rw [hrows, hconflicts]
      rfl

theorem emit_eq_error_iff (hrows : ruleRows c.grammar c.lexer.lexicon = .ok rows)
    (hconflicts : c.table.conflicts = []) {e : Failure} :
    c.emit name path = .error e ↔ ∃ fault, e = .emit fault ∧ NameFault name path fault := by
  rw [emit_eq hrows hconflicts]
  constructor
  · intro h
    cases hname : parserName name with
    | error fault =>
      rw [hname] at h
      cases h
      exact ⟨fault, rfl, .parser hname⟩
    | ok id =>
      cases hpath : modulePath path with
      | error fault =>
        rw [hname, hpath] at h
        cases h
        exact ⟨fault, rfl, .modules hname hpath⟩
      | ok modules =>
        rw [hname, hpath] at h
        cases h
  · rintro ⟨fault, rfl, hfault⟩
    cases hfault with
    | parser hname => rw [hname]
    | modules hname hpath => rw [hname, hpath]

theorem emit_eq_ok (hrows : ruleRows c.grammar c.lexer.lexicon = .ok rows)
    (hconflicts : c.table.conflicts = []) {p : Parser} (h : c.emit name path = .ok p) :
    parserName name = .ok p.name ∧ modulePath path = .ok p.modules ∧
      p.tables = .of c.grammar rows c.table := by
  rw [emit_eq hrows hconflicts] at h
  cases hname : parserName name with
  | error fault =>
    rw [hname] at h
    cases h
  | ok id =>
    cases hpath : modulePath path with
    | error fault =>
      rw [hname, hpath] at h
      cases h
    | ok modules =>
      rw [hname, hpath] at h
      cases h
      exact ⟨rfl, rfl, rfl⟩

/-- What two texts compile to is emitted unless a name is at fault, that of the parser before those
of the modules. Its fragments are a header, a line for each module, the tables of the grammar and
the fixed part with the parser's name, as they are outside of modules but indented line by line, and
the braces that close the modules, if there are any. Behind them nothing is given out for ever. -/
theorem emit_nests {lexicon grammar : String} {strategy : Strategy} {options : Grammar.Options}
    {engine : Pattern.Engine} (h : ofTexts lexicon grammar strategy options engine = .ok c)
    (name path : String) :
    (∀ e, c.emit name path = .error e ↔ ∃ fault, e = .emit fault ∧ NameFault name path fault) ∧
      (∀ n, c.emit name path ≠ .error (.emit (.nondeterministic n))) ∧
      (∀ rule, c.emit name path ≠ .error (.emit (.unknownTerminal rule))) ∧
      ∀ p, c.emit name path = .ok p →
        parserName name = .ok p.name ∧ modulePath path = .ok p.modules ∧
        ∃ (rows : List RuleRow) (flat : Parser) (tables support : List (List Char)),
          ruleRows c.grammar c.lexer.lexicon = .ok rows ∧ c.emit name "" = .ok flat ∧
          (∀ l ∈ tables ++ support, '\n' ∉ l ∧ '\r' ∉ l) ∧
          ofLines tables = tablesFragment (.of c.grammar rows c.table) 0 ∧
          ofLines support = supportFragment p.name 0 ∧
          (∀ n, (Fragments.mk flat .header).answer n =
            [header, ofLines tables, ofLines support][n]?) ∧
          ∀ n, (Fragments.mk p .header).answer n =
            ([header] ++ (p.modules.zipIdx.map fun (m, depth) =>
                ofLines [indented depth ("pub mod ".toList ++ m.toList ++ " \x7b".toList)]) ++
              [ofLines (tables.map (indented p.modules.length)),
                ofLines (support.map (indented p.modules.length))] ++
              if p.modules = [] then [] else
                [ofLines ((List.range p.modules.length).reverse.map fun depth =>
                  indented depth ['\x7d'])])[n]? := by
  have hsound := sound_of_ofTexts h
  obtain ⟨ds, -, hg⟩ := hsound.grammar
  obtain ⟨rows, -, hrows, -, -⟩ := Standalone.exists_sameRules hg hsound.tokenizer c.table
  have hconflicts : c.table.conflicts = [] := by
    rw [hsound.table]
    simpa [Table.isDeterministic] using hsound.deterministic
  have herror (path : String) (e : Failure) : c.emit name path = .error e ↔
      ∃ fault, e = .emit fault ∧ NameFault name path fault := emit_eq_error_iff hrows hconflicts
  refine ⟨herror path, fun n hn => ?_, fun rule hrule => ?_, fun p hp => ?_⟩
  · obtain ⟨fault, hfault, hnames⟩ := (herror path _).1 hn
    cases hfault
    exact hnames.of_names.1 n rfl
  · obtain ⟨fault, hfault, hnames⟩ := (herror path _).1 hrule
    cases hfault
    exact hnames.of_names.2 rule rfl
  obtain ⟨hname, hpath, htables⟩ := emit_eq_ok hrows hconflicts hp
  obtain ⟨tables, htablesLines, htablesText⟩ := exists_lines_tablesFragment p.tables
  obtain ⟨support, hsupportLines, hsupportText⟩ :=
    exists_lines_supportFragment (isWord_of_parserName hname)
  have hflat : c.emit name "" = .ok ⟨p.tables, p.name, []⟩ := by
    rw [emit_eq hrows hconflicts, hname, htables]
    rfl
  refine ⟨hname, hpath, rows, ⟨p.tables, p.name, []⟩, tables, support, hrows, hflat,
    List.forall_mem_append.2 ⟨htablesLines, hsupportLines⟩, ?_, ?_, fun n => ?_, fun n => ?_⟩
  · rw [← htables, htablesText, map_indented_zero]
  · rw [hsupportText, map_indented_zero]
  · rw [Fragments.answer_eq, Fragments.toList_header]
    simp only [List.length_nil, htablesText 0, hsupportText 0, map_indented_zero]
    rfl
  · rw [Fragments.answer_eq, Fragments.toList_header]
    simp only [openModule_eq, closeModules_eq, htablesText, hsupportText, List.append_assoc,
      List.cons_append, List.nil_append]

/-- Two modules open before the tables and close in one fragment; a keyword names no parser, and the
module path is not looked at any more. The tables hold what the prediction table of the grammar
holds, and the fixed part the parser's type. -/
theorem emit_nests_parens :
    ∃ c p, ofTexts Sample.parens.lexicon Sample.parens.grammar .ll1 {} = .ok c ∧
      c.emit "Parens" "outer.inner" = .ok p ∧
      (Fragments.mk p .header).answer 0 = some "// Generated by llgen. Do not edit.\n\n" ∧
      (Fragments.mk p .header).answer 1 = some "pub mod outer \x7b\n" ∧
      (Fragments.mk p .header).answer 2 = some "    pub mod inner \x7b\n" ∧
      (∃ before after, (Fragments.mk p .header).answer 3 =
        some (before ++ "                (1, Some(0)) => Some(2),\n" ++ after)) ∧
      (∃ before after, (Fragments.mk p .header).answer 4 =
        some (before ++ "        pub struct Parens \x7b\n" ++ after)) ∧
      (Fragments.mk p .header).answer 5 = some "    \x7d\n\x7d\n" ∧
      (∀ n, 6 ≤ n → (Fragments.mk p .header).answer n = none) ∧
      c.emit "fn" "outer..inner" = .error (.emit (.invalidParserName "fn")) := by
  have hcompiles : (ofTexts Sample.parens.lexicon Sample.parens.grammar .ll1 {}).toOption.map
      (fun c => armsOf c.table) = some [⟨0, some 0, 0⟩, ⟨0, some 1, 1⟩, ⟨0, none, 1⟩,
        ⟨1, some 0, 2⟩] := by decide +kernel
  have hname : parserName "Parens" = .ok "Parens" := by rfl
  have hpath : modulePath "outer.inner" = .ok ["outer", "inner"] := by rfl
  have hkeyword : parserName "fn" = .error (.invalidParserName "fn") := by rfl
  cases hc : ofTexts Sample.parens.lexicon Sample.parens.grammar .ll1 {} with
  | error e =>
    rw [hc] at hcompiles
    cases hcompiles
  | ok c =>
    rw [hc] at hcompiles
    obtain ⟨herror, -, -, hok⟩ := emit_nests hc "Parens" "outer.inner"
    cases hp : c.emit "Parens" "outer.inner" with
    | error e =>
      obtain ⟨fault, -, hfault⟩ := (herror e).1 hp
      cases hfault with
      | parser h => cases hname.symm.trans h
      | modules _ h => cases hpath.symm.trans h
    | ok p =>
      obtain ⟨hparser, hmodules, rows, flat, tables, support, -, -, hlines, htables, hsupport, -,
        hanswer⟩ := hok p hp
      rw [Except.ok.inj (hparser.symm.trans hname)] at hsupport
      rw [Except.ok.inj (hmodules.symm.trans hpath)] at hanswer
      obtain ⟨htablesLines, hsupportLines⟩ := List.forall_mem_append.1 hlines
      refine ⟨c, p, rfl, hp, hanswer 0, ?_, ?_, ?_, ?_, ?_, fun n hn => ?_, ?_⟩
      · rw [hanswer]
        exact congrArg some (by decide +kernel)
      · rw [hanswer]
        exact congrArg some (by decide +kernel)
      · have harms : (Tables.of c.grammar rows c.table).arms = _ := Option.some.inj hcompiles
        have harm : Arm.mk 1 (some 0) 2 ∈ (Tables.of c.grammar rows c.table).arms := by
          rw [harms]
          decide
        have hcarries : Carries (ofLines tables)
            ((armCode ⟨1, some 0, 2⟩).render (2 * indentWidth)) := by
          rw [htables]
          exact (carries_arm harm).append "\n"
        have hline : indentText 2 ((armCode ⟨1, some 0, 2⟩).render (2 * indentWidth)) =
            "                (1, Some(0)) => Some(2),\n" := by decide +kernel
        obtain ⟨before, after, htext⟩ := hcarries.lines htablesLines (whole_render _ _) 2
        exact ⟨before, after, (hanswer 3).trans (congrArg some (hline ▸ htext))⟩
      · have hcarries : Carries (ofLines support) ("pub struct " ++ "Parens" ++ " \x7b\n") := by
          rw [hsupport]
          exact carries_type "Parens"
        have hwhole := whole_append_of_ne_nil (whole_line " \x7b") (by decide)
          ("pub struct " ++ "Parens")
        have hline : indentText 2 ("pub struct " ++ "Parens" ++ " \x7b\n") =
            "        pub struct Parens \x7b\n" := by decide +kernel
        obtain ⟨before, after, htext⟩ := hcarries.lines hsupportLines hwhole 2
        exact ⟨before, after, (hanswer 4).trans (congrArg some (hline ▸ htext))⟩
      · rw [hanswer]
        exact congrArg some (by decide +kernel)
      · rw [hanswer]
        exact List.getElem?_eq_none hn
      · exact ((emit_nests hc "fn" "outer..inner").1 _).2 ⟨_, rfl, .parser hkeyword⟩

end TopDown.Compilation
