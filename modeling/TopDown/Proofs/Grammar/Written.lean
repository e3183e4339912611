import TopDown.Proofs.Grammar.Declared
import TopDown.Proofs.Grammar.Pieces
import TopDown.Proofs.Lexicon.RoundTrip

/-!
# Reading a written grammar

A grammar is written as one line a nonterminal, with all its alternatives.

* `IsNonterminal` : the names that are left-hand sides; `IsNonterminal.line_read`,
  `isNonterminal_of_head?` : they are read back, and nothing else is read as a left-hand side;
* `pieceOf`, `ruleLine`, `toList_render` : the pieces and lines that a grammar is written as;
* `Writable`, `Writable.read_ruleLine` : where all pieces are plain, every line is read back;
* `declarationOf`, `Writable.parse_eq_ok` : the declarations that the text of a grammar is read as.
-/

namespace TopDown.Grammar

open Text

/-! ## Names of nonterminals -/

/-- An upper-case letter, then upper-case letters and underscores, then at most one prime. -/
def IsNonterminal (s : List Char) : Prop :=
  ∃ c t prime, s = c :: t ++ prime ∧ c.isUpper = true ∧ (∀ d ∈ t, isNonterminalChar d = true) ∧
    (prime = [] ∨ prime = ['\''])

theorem readNonterminal_eq_some {s name rest : List Char}
    (h : readNonterminal s = some (name, rest)) : s = name ++ rest ∧ IsNonterminal name := by
  cases s with
  | nil => cases h
  | cons c s =>
    have hs : s = s.takeWhile isNonterminalChar ++ s.dropWhile isNonterminalChar :=
      List.takeWhile_append_dropWhile.symm
    rw [readNonterminal] at h
    have hchars : ∀ d ∈ s.takeWhile isNonterminalChar, isNonterminalChar d = true :=
      fun _ hd => List.mem_takeWhile_imp hd
    split at h
    · rename_i hc
      simp only at h
      split at h
      · rename_i hprime
        cases h
        rw [hprime] at hs
        exact ⟨by simpa using hs, c, _, _, rfl, hc, hchars, .inr rfl⟩
      · cases h
        exact ⟨congrArg (c :: ·) hs, c, _, [], (List.append_nil _).symm, hc, hchars, .inl rfl⟩
    · cases h

/-- A name is read back from in front of what does not make it longer. -/
theorem IsNonterminal.read {s : List Char} (h : IsNonterminal s) {rest : List Char}
    (hrest : Stops (fun c => isNonterminalChar c || c == '\'') rest) :
    readNonterminal (s ++ rest) = some (s, rest) := by
  have hstops : Stops isNonterminalChar rest := fun c hc => (Bool.or_eq_false_iff.1 (hrest c hc)).1
  obtain ⟨c, t, prime, rfl, hc, ht, rfl | rfl⟩ := h
  · rw [List.append_nil, List.cons_append, readNonterminal, if_pos hc,
      takeWhile_append_stop ht hstops, dropWhile_append_stop ht hstops]
    split
    · exact absurd (hrest '\'' rfl) (by decide)
    · rfl
  · have hprime : Stops isNonterminalChar ('\'' :: rest) := stops_cons (by decide) _
    rw [List.append_assoc, List.cons_append, readNonterminal, if_pos hc, List.singleton_append,
      takeWhile_append_stop ht hprime, dropWhile_append_stop ht hprime]
    rfl

theorem isWordChar_of_isUpper {c : Char} (h : c.isUpper = true) :
    isWordChar c = true ∧ c ≠ '\'' := by
  have hblank := Lexicon.isBlank_of_isUpper h
  simp only [isWordChar, hblank, Bool.not_false, Bool.true_and, Bool.and_eq_true, bne_iff_ne]
  refine ⟨⟨?_, ?_⟩, ?_⟩ <;>
  · rintro rfl
    exact absurd h (by decide)

theorem IsNonterminal.isBare {s : List Char} (h : IsNonterminal s) : s ≠ [] ∧ IsBare s := by
  obtain ⟨c, t, prime, rfl, hc, ht, hprime⟩ := h
  refine ⟨List.cons_ne_nil _ _, fun d hd => ?_, ?_⟩
  · rcases List.mem_append.1 hd with hd | hd
    · rcases List.mem_cons.1 hd with rfl | hd
      · exact (isWordChar_of_isUpper hc).1
      · have hd := ht d hd
        rw [isNonterminalChar, Bool.or_eq_true, beq_iff_eq] at hd
        rcases hd with hd | rfl
        · exact (isWordChar_of_isUpper hd).1
        · decide
    · rcases hprime with rfl | rfl
      · cases hd
      · cases List.mem_singleton.1 hd
        decide
  · exact fun hhead => (isWordChar_of_isUpper hc).2 (Option.some.inj hhead)

/-- A name and an arrow behind it are read as the head of a line, whatever its body is. -/
theorem IsNonterminal.line_read {name : List Char} (h : IsNonterminal name) (body : List Char) :
    Line.read (name ++ ' ' :: '-' :: '>' :: body) =
      .ok (.production (String.ofList name) (trimEnd body)) := by
  obtain ⟨c, t, prime, hname, hc, -⟩ := id h
  have hclosed : Piece.Closed (c :: (t ++ prime ++ [' ', '-', '>'])) :=
    Piece.Closed.append ⟨'>', rfl, by decide⟩ (c :: (t ++ prime))
  have htrim := trim_append_of_closed (Lexicon.isBlank_of_isUpper hc) hclosed body
  have hcons (s : List Char) : c :: (t ++ prime ++ [' ', '-', '>']) ++ s =
      name ++ ' ' :: '-' :: '>' :: s := by
    simp [hname]
  have hhead : readHead (name ++ ' ' :: '-' :: '>' :: trimEnd body) =
      some (name, trimEnd body) := by
    have hskip (s : List Char) : skipGap (' ' :: '-' :: '>' :: s) = '-' :: '>' :: s := rfl
    rw [readHead, h.read (stops_cons (by decide) _)]
    simp only [hskip]
  rw [hcons, hcons] at htrim
  rw [Line.read, htrim]
  split
  · rename_i hnil
    simp at hnil
  · rename_i hcomment
    rw [hname] at hcomment
    cases hcomment
    cases hc
  · rw [hhead]

/-- Every line that is read as a production line starts with a name. -/
theorem isNonterminal_of_head? {raw : List Char} {name : String} (h : head? raw = some name) :
    IsNonterminal name.toList := by
  unfold head? at h
  split at h
  · rename_i lhs _ hline
    cases h
    unfold Line.read at hline
    split at hline
    · cases hline
    · cases hline
    · split at hline
      · rename_i hhead
        cases hline
        unfold readHead at hhead
        split at hhead
        · cases hhead
        · rename_i hread
          split at hhead
          · cases hhead
            rw [String.toList_ofList]
            exact (readNonterminal_eq_some hread).2
          · cases hhead
      · split at hline
        · cases hline
        · cases hline
  · cases h

/-! ## Lines -/

/-- The piece that a symbol is written as. -/
def pieceOf (g : Grammar) : Symbol → Piece
  | .terminal id => .literal '"' (escape (g.terminalName id).toList)
  | s => .word (g.symbolName s).toList

/-- The alternatives of a left-hand side in pieces. -/
def bodiesOf (g : Grammar) (id : Nat) : List (List Piece) :=
  (g.productionsOf id).map fun (p, _) => p.body.map g.pieceOf

/-- The line of a left-hand side. -/
def ruleLine (g : Grammar) (rule : String × Nat) : List Char :=
  rule.1.toList ++ ' ' :: '-' :: '>' :: barred (g.bodiesOf rule.2)

theorem zipIdx_map_zipIdx {α : Type} (names : List String) (f : String × Nat → α) :
    (names.zipIdx.map f).zipIdx = names.zipIdx.map fun rule => (f rule, rule.2) := by
  refine List.ext_getElem? fun i => ?_
  cases hi : names[i]? <;> simp [hi]

theorem toList_renderSymbol (g : Grammar) (s : Symbol) :
    (g.renderSymbol s).toList = (g.pieceOf s).source := by
  cases s <;> simp [renderSymbol, pieceOf, Piece.source]

theorem toList_renderBody (g : Grammar) (body : List Symbol) :
    (g.renderBody body).toList = spaced (body.map g.pieceOf) := by
  rw [renderBody, String.toList_join, spaced, List.flatMap_map, List.flatMap_map]
  refine List.flatMap_congr fun s _ => ?_
  rw [String.toList_append, toList_renderSymbol]
  rfl

theorem toList_renderRule (g : Grammar) (name : String) (id : Nat) :
    (g.renderRule name id).toList = g.ruleLine (name, id) ++ ['\n'] := by
  have hbodies : ((g.productionsOf id).map fun (p, _) => g.renderBody p.body).map String.toList =
      (g.bodiesOf id).map spaced := by
    simp [bodiesOf, toList_renderBody, Function.comp_def]
  rw [renderRule, String.toList_append, String.toList_append, String.toList_append,
    String.toList_intercalate, hbodies, ruleLine, barred]
  simp

theorem toList_render (g : Grammar) :
    g.render.toList = (g.nonterminals.zipIdx.map g.ruleLine).flatMap (· ++ ['\n']) := by
  rw [render, String.toList_join, List.flatMap_map, List.flatMap_map]
  exact List.flatMap_congr fun rule _ => toList_renderRule g rule.1 rule.2

/-- The grammar can be written line by line: its names are names of nonterminals, none of them
stands twice or lacks a production, and every body is a sequence of plain pieces on one line. -/
structure Writable (g : Grammar) : Prop where
  isNonterminal : ∀ name ∈ g.nonterminals, IsNonterminal name.toList
  nodup : g.nonterminals.Nodup
  bodiesOf_ne_nil : ∀ id < g.nonterminals.length, g.bodiesOf id ≠ []
  plain : ∀ p ∈ g.productions, PlainBody (p.body.map g.pieceOf)
  oneLine : ∀ p ∈ g.productions, ∀ s ∈ p.body, '\n' ∉ (g.pieceOf s).source

variable {g : Grammar} {name : String} {id : Nat}

theorem mem_bodiesOf {body : List Piece} (h : body ∈ g.bodiesOf id) :
    ∃ p ∈ g.productions, body = p.body.map g.pieceOf := by
  obtain ⟨⟨p, i⟩, hp, rfl⟩ := List.mem_map.1 h
  exact ⟨p, List.fst_mem_of_mem_zipIdx (List.mem_filter.1 hp).1, rfl⟩

namespace Writable

variable (hg : g.Writable)
include hg

theorem plainBody {body : List Piece} (h : body ∈ g.bodiesOf id) : PlainBody body := by
  obtain ⟨p, hp, rfl⟩ := mem_bodiesOf h
  exact hg.plain p hp

theorem bodiesOf_ne_nil_of_mem (h : (name, id) ∈ g.nonterminals.zipIdx) : g.bodiesOf id ≠ [] :=
  hg.bodiesOf_ne_nil id (List.snd_lt_of_mem_zipIdx h)

theorem isNonterminal_of_mem (h : (name, id) ∈ g.nonterminals.zipIdx) :
    IsNonterminal name.toList := hg.isNonterminal name (List.fst_mem_of_mem_zipIdx h)

/-- The line of a rule is not cut, and it keeps its last character. -/
theorem line_ruleLine (h : (name, id) ∈ g.nonterminals.zipIdx) :
    '\n' ∉ g.ruleLine (name, id) ∧ Piece.Closed (g.ruleLine (name, id)) := by
  obtain ⟨-, hchars, -⟩ := (hg.isNonterminal_of_mem h).isBare
  have hname : '\n' ∉ name.toList := fun hmem => absurd (hchars _ hmem) (by decide)
  have hbarred : '\n' ∉ barred (g.bodiesOf id) := by
    refine not_mem_barred (by decide) fun body hbody piece hpiece => ?_
    obtain ⟨p, hp, rfl⟩ := mem_bodiesOf hbody
    obtain ⟨s, hs, rfl⟩ := List.mem_map.1 hpiece
    exact hg.oneLine p hp s hs
  refine ⟨by simp [ruleLine, hname, hbarred], ?_⟩
  exact ((closed_barred (hg.bodiesOf_ne_nil_of_mem h) fun _ => hg.plainBody).append
    [' ', '-', '>']).append name.toList

/-- A written rule is read as a production line. -/
theorem read_ruleLine (h : (name, id) ∈ g.nonterminals.zipIdx) :
    Line.read (g.ruleLine (name, id)) = .ok (.production name (barred (g.bodiesOf id))) := by
  have hclosed := closed_barred (hg.bodiesOf_ne_nil_of_mem h) fun _ => hg.plainBody
  have hread := (hg.isNonterminal_of_mem h).line_read (barred (g.bodiesOf id))
  rwa [hclosed.trimEnd_eq, String.ofList_toList] at hread

end Writable

/-! ## Declarations -/

/-- The declaration that the line of a left-hand side is read as. -/
def declarationOf (g : Grammar) (rule : String × Nat) : Declaration where
  lhs := rule.1
  line := rule.2 + 1
  alternatives :=
    (g.bodiesOf rule.2).map fun b => ⟨rule.2 + 1, String.ofList (trim (spaced b))⟩

/-- A line with a new left-hand side adds a declaration behind the others. -/
theorem Declarations.extend_declare {ds : Declarations} {lhs : String} (hnew : lhs ∉ ds.names)
    (n : Nat) (as : List Alternative) :
    (ds.declare lhs n).extend lhs as = ds ++ [⟨lhs, n, as⟩] := by
  have hother : ∀ d ∈ ds, d.lhs ≠ lhs := fun d hd heq => hnew (List.mem_map.2 ⟨d, hd, heq⟩)
  have hany : ¬ ds.any (·.lhs = lhs) = true := by simpa using hother
  have hsame : ds.extend lhs as = ds := by
    refine (List.map_congr_left fun d hd => ?_).trans (List.map_id ds)
    exact if_neg (hother d hd)
  rw [declare, if_neg hany, extend, List.map_append, ← extend, hsame, List.map_singleton]
  simp

namespace Writable

variable (hg : g.Writable)
include hg

open Declarations (Reading)

theorem readLine_ruleLine (h : (name, id) ∈ g.nonterminals.zipIdx) {r : Reading}
    (hnew : name ∉ r.declarations.names) :
    r.readLine (id + 1) (g.ruleLine (name, id)) =
      .ok ⟨r.declarations ++ [g.declarationOf (name, id)], some name⟩ := by
  rw [Reading.readLine, hg.read_ruleLine h]
  simp only [Reading.add, alternativesOf_barred (hg.bodiesOf_ne_nil_of_mem h) fun _ => hg.plainBody,
    Declarations.extend_declare hnew, List.map_map]
  rfl

/-- The lines of left-hand sides that are all new are read one after the other. -/
theorem readNumbered_rules {rules : List (String × Nat)}
    (hrules : ∀ rule ∈ rules, rule ∈ g.nonterminals.zipIdx) {r : Reading}
    (hnodup : (r.declarations.names ++ rules.map Prod.fst).Nodup) :
    ∃ r', (rules.map fun rule => (rule.2 + 1, g.ruleLine rule)).foldlM Reading.readNumbered r =
        .ok r' ∧ r'.declarations = r.declarations ++ rules.map g.declarationOf := by
  induction rules generalizing r with
  | nil => exact ⟨r, rfl, (List.append_nil _).symm⟩
  | cons rule rules ih =>
    obtain ⟨hrule, hrules⟩ := List.forall_mem_cons.1 hrules
    have hnew : rule.1 ∉ r.declarations.names := fun hmem =>
      List.disjoint_of_nodup_append hnodup hmem List.mem_cons_self
    have hline := hg.readLine_ruleLine hrule hnew
    obtain ⟨r', hr', hdeclarations⟩ :=
      ih (r := ⟨r.declarations ++ [g.declarationOf rule], some rule.1⟩) hrules
        (by simpa [Declarations.names, declarationOf] using hnodup)
    refine ⟨r', ?_, by simpa using hdeclarations⟩
    rw [List.map_cons, foldlM_cons_eq_ok]
    exact ⟨_, Reading.readNumbered_eq_ok.2 hline, hr'⟩

theorem numberedLines_render : numberedLines g.render.toList =
    g.nonterminals.zipIdx.map fun rule => (rule.2 + 1, g.ruleLine rule) := by
  have hlines : lines g.render.toList = g.nonterminals.zipIdx.map g.ruleLine := by
    rw [toList_render]
    refine lines_flatMap fun l hl => ?_
    obtain ⟨⟨name, id⟩, hrule, rfl⟩ := List.mem_map.1 hl
    obtain ⟨hnewline, d, hlast, hd⟩ := hg.line_ruleLine hrule
    refine ⟨hnewline, fun hreturn => ?_⟩
    rw [hlast] at hreturn
    cases hreturn
    cases hd
  rw [numberedLines, hlines, zipIdx_map_zipIdx, List.map_map]
  rfl

/-- A grammar that can be written is read as one declaration a nonterminal. -/
theorem parse_eq_ok :
    Declarations.parse g.render = .ok (g.nonterminals.zipIdx.map g.declarationOf) := by
  obtain ⟨r, hr, hdeclarations⟩ := hg.readNumbered_rules (r := ⟨[], none⟩) (fun _ h => h)
    (by simpa [Declarations.names] using hg.nodup)
  rw [← hg.numberedLines_render] at hr
  exact Declarations.parse_eq_ok_iff.2 ⟨r, hr, hdeclarations⟩

end Writable

end TopDown.Grammar
