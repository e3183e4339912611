import Mathlib.Algebra.Order.BigOperators.Group.List
import Mathlib.Algebra.Order.Group.Nat
import Mathlib.Data.List.DropRight
import TopDown.Proofs.Grammar.RoundTrip

/-!
# Reading back the empty symbol

A grammar writes the empty symbol with the first of its spellings, and nothing keeps that spelling
from being read as something else: as a nonterminal, as other symbols, as several alternatives or as
no body at all.

* `resolveAlternative_eq_empty_iff`, `alternativesOf_eq_singleton_iff`, `parse_eq_singleton_iff` :
  when an alternative is empty, a body is one alternative, and a text has one alternative;
* `Vocabulary.ErasesText`, `Vocabulary.erasesText_iff` : the texts that are one alternative of words
  that stand for empty symbols only;
* `ReadsBackEmpty`, `SpellsEmpty`, `readsBackEmpty_iff` : the empty symbol is read back if and only
  if its spelling is such a text, lines that say nothing behind it apart.
-/

namespace TopDown.Grammar

open Text

/-! ## Bodies -/

theorem normalize_eq_empty_iff {symbols : List Symbol} :
    normalize symbols = [.empty] ↔ ∀ s ∈ symbols, s = .empty := by
  have hfilter : symbols.filter (· ≠ .empty) = [] ↔ ∀ s ∈ symbols, s = .empty := by
    simp [List.filter_eq_nil_iff]
  rw [← hfilter, normalize]
  constructor
  · intro h
    by_contra hne
    simp only [List.isEmpty_iff, hne, if_false] at h
    have hmem : Symbol.empty ∈ symbols.filter (· ≠ .empty) := h ▸ List.mem_singleton_self _
    simp at hmem
  · intro h
    simp only [h, List.isEmpty_nil, if_true]

section Bodies

variable {g : Grammar} {v : Vocabulary} {s : List Char}

/-- The piece is a word that stands for empty symbols only. -/
def Vocabulary.ErasesPiece (v : Vocabulary) (p : Piece) : Prop := ∃ w, p = .word w ∧ v.Erases w

theorem Vocabulary.erasesPiece_iff {p : Piece} : v.ErasesPiece p ↔
    ∃ symbols, v.symbolsOfPiece g p = .ok symbols ∧ ∀ s ∈ symbols, s = .empty := by
  cases p with
  | literal quote content =>
    constructor
    · rintro ⟨w, hw, -⟩
      cases hw
    · rintro ⟨symbols, hsymbols, hall⟩
      simp only [symbolsOfPiece] at hsymbols
      split at hsymbols
      · cases hsymbols
        cases hall _ List.mem_cons_self
      · cases hsymbols
  | word w =>
    simp only [symbolsOfPiece, ← erases_iff]
    constructor
    · rintro ⟨_, hw, h⟩
      cases hw
      exact h
    · exact fun h => ⟨w, rfl, h⟩

/-- An alternative is empty if all its pieces are words that stand for empty symbols only. -/
theorem resolveAlternative_eq_empty_iff {d : Declaration} {lhs : Nat} {a : Alternative} :
    resolveAlternative g v d lhs a = .ok ⟨lhs, [.empty]⟩ ↔
      ∀ p ∈ pieces a.text.toList, v.ErasesPiece p := by
  have hpieces : (∃ parts, (pieces a.text.toList).mapM (v.symbolsOfPiece g) = .ok parts ∧
      ∀ part ∈ parts, ∀ s ∈ part, s = .empty) ↔ ∀ p ∈ pieces a.text.toList, v.ErasesPiece p := by
    rw [exists_mapM_iff]
    simp only [Vocabulary.erasesPiece_iff (g := g)]
  rw [← hpieces, resolveAlternative, Vocabulary.symbolsOf]
  cases (pieces a.text.toList).mapM (v.symbolsOfPiece g) with
  | error text => simp
  | ok parts =>
    simp only [Except.ok.injEq, Production.mk.injEq, true_and, exists_eq_left',
      normalize_eq_empty_iff, List.mem_flatten]
    constructor
    · exact fun h part hpart s hs => h s ⟨part, hpart, hs⟩
    · rintro h s ⟨part, hpart, hs⟩
      exact h part hpart s hs

/-! ## Alternatives -/

theorem intercalate_prependPart (t : List Char) (parts : List (List Char)) :
    ['|'].intercalate (prependPart t parts) = t ++ ['|'].intercalate parts := by
  cases parts with
  | nil => simp [prependPart]
  | cons part parts =>
    cases parts with
    | nil => simp [prependPart]
    | cons part' parts =>
      rw [prependPart, List.intercalate_cons_cons, List.intercalate_cons_cons, List.append_assoc,
        List.append_assoc, List.append_assoc]

/-- The parts between the bars make up the text. -/
theorem intercalate_splitAlternatives {parts : List (List Char)}
    (h : splitAlternatives s = some parts) : ['|'].intercalate parts = s := by
  fun_induction splitAlternatives s generalizing parts with
  | case1 =>
    cases h
    rfl
  | case2 cs ih =>
    obtain ⟨parts, hparts, rfl⟩ := Option.map_eq_some_iff.1 h
    obtain ⟨part, parts, rfl⟩ := List.exists_cons_of_ne_nil (splitAlternatives_ne_nil hparts)
    rw [List.intercalate_cons_cons, ih hparts]
    rfl
  | case3 c cs _ _ ih =>
    obtain ⟨parts, hparts, rfl⟩ := Option.map_eq_some_iff.1 h
    rw [intercalate_prependPart, ih hparts]
    rfl
  | case4 => cases h
  | case5 c cs _ _ p rest hread _ ih =>
    obtain ⟨parts, hparts, rfl⟩ := Option.map_eq_some_iff.1 h
    rw [intercalate_prependPart, ih hparts, Piece.source_append_of_read hread]

theorem eq_of_splitAlternatives_eq_singleton {part : List Char}
    (h : splitAlternatives s = some [part]) : part = s := by
  have hparts := intercalate_splitAlternatives h
  rwa [List.intercalate_singleton] at hparts

/-- A body has one alternative if no bar cuts it and it is not blank. -/
theorem alternativesOf_eq_singleton_iff {text : String} : alternativesOf s = .ok [text] ↔
    splitAlternatives s = some [s] ∧ trim s ≠ [] ∧ text = String.ofList (trim s) := by
  unfold alternativesOf
  cases hparts : splitAlternatives s with
  | none => simp
  | some parts =>
    simp only [Option.some.injEq]
    constructor
    · intro h
      split at h
      · cases h
      · rename_i hne
        obtain ⟨part, rfl⟩ : ∃ part, parts = [part] := by
          rw [← List.length_eq_one_iff]
          simpa using congrArg List.length (Except.ok.inj h)
        obtain rfl := eq_of_splitAlternatives_eq_singleton hparts
        refine ⟨rfl, by simpa using hne, ?_⟩
        simpa using (Except.ok.inj h).symm
    · rintro ⟨rfl, hne, rfl⟩
      simp [hne]

/-- A text that is cut into alternatives has no blanks but gaps in front. -/
theorem trimStart_eq_skipGap {parts : List (List Char)} (h : splitAlternatives s = some parts) :
    trimStart s = skipGap s := by
  fun_induction splitAlternatives s generalizing parts with
  | case1 => rfl
  | case2 => rfl
  | case3 c cs _ hgap ih =>
    obtain ⟨parts, hparts, -⟩ := Option.map_eq_some_iff.1 h
    rw [trimStart, List.dropWhile_cons_of_pos (isBlank_of_isGap hgap), skipGap_gap_cons hgap]
    exact ih hparts
  | case4 => cases h
  | case5 c cs _ _ p rest hread =>
    have hblank : isBlank c = false := by
      by_contra hblank
      rw [Piece.read_blank_cons (Bool.not_eq_false _ ▸ hblank)] at hread
      cases hread
    rw [skipGap_eq_self hblank, trimStart, List.dropWhile_cons_of_neg (by simp [hblank])]

theorem pieces_trimStart {parts : List (List Char)} (h : splitAlternatives s = some parts) :
    pieces (trimStart s) = pieces s := by
  rw [trimStart_eq_skipGap h, pieces_eq, pieces_eq s, skipGap, skipGap, List.dropWhile_idempotent]

/-- The text is one alternative whose pieces are words that stand for empty symbols only. A prime
at the start of a word must not open a literal. -/
inductive Vocabulary.ErasesText (v : Vocabulary) : List Char → Prop
  | nil : ErasesText v []
  | gap (c : Char) (s : List Char) (blank : isGap c = true) (erases : ErasesText v s) :
      ErasesText v (c :: s)
  | word (w rest : List Char) (ne_nil : w ≠ []) (chars : ∀ c ∈ w, isWordChar c = true)
      (stops : Stops isWordChar rest) (unquoted : Quoted.read '\'' (w ++ rest) = none)
      (empty : v.Erases w) (erases : ErasesText v rest) : ErasesText v (w ++ rest)

theorem prependPart_eq_singleton_append {t s : List Char} {parts : List (List Char)}
    (hparts : parts ≠ []) : prependPart t parts = [t ++ s] ↔ parts = [s] := by
  obtain ⟨part, parts, rfl⟩ := List.exists_cons_of_ne_nil hparts
  simp [prependPart]

theorem splitAlternatives_gap_cons_iff {c : Char} (hc : isGap c = true) :
    splitAlternatives (c :: s) = some [c :: s] ↔ splitAlternatives s = some [s] := by
  rw [splitAlternatives_gap_cons hc]
  constructor
  · intro h
    obtain ⟨parts, hparts, hcons⟩ := Option.map_eq_some_iff.1 h
    obtain rfl := (prependPart_eq_singleton_append (splitAlternatives_ne_nil hparts)).1 hcons
    exact hparts
  · intro h
    rw [h]
    rfl

/-- What `ErasesText` describes, as it is read. -/
theorem Vocabulary.erasesText_iff : v.ErasesText s ↔
    splitAlternatives s = some [s] ∧ ∀ p ∈ pieces s, v.ErasesPiece p := by
  constructor
  · intro h
    induction h with
    | nil => exact ⟨splitAlternatives_nil, by simp [pieces_nil]⟩
    | gap c s hgap _ ih =>
      rw [pieces_gap_cons hgap]
      exact ⟨(splitAlternatives_gap_cons_iff hgap).2 ih.1, ih.2⟩
    | word w rest hne hchars hstops hquote hw _ ih =>
      have hread := Piece.read_eq_word_iff.2 ⟨rfl, hne, hchars, hstops, hquote⟩
      rw [splitAlternatives_of_read hread, ih.1, pieces_of_read hread]
      exact ⟨rfl, List.forall_mem_cons.2 ⟨⟨w, rfl, hw⟩, ih.2⟩⟩
  · rintro ⟨hsplit, hpieces⟩
    fun_induction splitAlternatives s with
    | case1 => exact .nil
    | case2 cs =>
      obtain ⟨parts, -, hparts⟩ := Option.map_eq_some_iff.1 hsplit
      cases hparts
    | case3 c cs hbar hgap ih =>
      rw [pieces_gap_cons hgap] at hpieces
      have hsplit : splitAlternatives (c :: cs) = some [c :: cs] := by
        rw [splitAlternatives_gap_cons hgap]
        exact hsplit
      exact .gap c cs hgap (ih ((splitAlternatives_gap_cons_iff hgap).1 hsplit) hpieces)
    | case4 => cases hsplit
    | case5 c cs _ _ p rest hread _ ih =>
      obtain ⟨parts, hparts, hcons⟩ := Option.map_eq_some_iff.1 hsplit
      rw [← Piece.source_append_of_read hread] at hcons
      obtain rfl := (prependPart_eq_singleton_append (splitAlternatives_ne_nil hparts)).1 hcons
      rw [pieces_of_read hread] at hpieces
      obtain ⟨⟨w, rfl, hw⟩, hrest⟩ := List.forall_mem_cons.1 hpieces
      obtain ⟨htext, hne, hchars, hstops, hquote⟩ := Piece.read_eq_word_iff.1 hread
      rw [htext] at hquote ⊢
      exact .word w rest hne hchars hstops hquote hw (ih hparts hrest)

theorem closed_trimEnd {l : List Char} (h : trimEnd l ≠ []) : Piece.Closed (trimEnd l) := by
  cases hlast : (trimEnd l).getLast? with
  | none => exact absurd (List.getLast?_eq_none_iff.1 hlast) h
  | some d =>
    rw [trimEnd, List.getLast?_reverse] at hlast
    exact ⟨d, by rw [trimEnd, List.getLast?_reverse, hlast], stops_dropWhile _ d hlast⟩

theorem Piece.Closed.trimStart (h : Piece.Closed s) : Piece.Closed (Text.trimStart s) := by
  obtain ⟨d, hlast, hd⟩ := h
  obtain ⟨t, rfl⟩ := List.getLast?_eq_some_iff.1 hlast
  have hself : [d].dropWhile isBlank = [d] := List.dropWhile_cons_of_neg (by simp [hd])
  rw [Text.trimStart, List.dropWhile_append, hself]
  split
  · exact ⟨d, rfl, hd⟩
  · exact Piece.Closed.append ⟨d, rfl, hd⟩ _

/-- A body behind an arrow is one alternative of words that stand for empty symbols only. -/
theorem exists_alternative_iff {l : List Char} :
    (∃ a : Alternative, alternativesOf (trimEnd (' ' :: l)) = .ok [a.text] ∧ a.line = 1 ∧
      ∀ p ∈ pieces a.text.toList, v.ErasesPiece p) ↔
    trimEnd l ≠ [] ∧ v.ErasesText (trimEnd l) := by
  have htrimEnd := trimEnd_append [' '] l
  by_cases hnil : trimEnd l = []
  · have hbody : trimEnd (' ' :: l) = [] := by
      rwa [if_pos hnil] at htrimEnd
    have htrim : trim [] = [] := rfl
    simp [hnil, hbody, alternativesOf_eq_singleton_iff, htrim]
  · have hbody : trimEnd (' ' :: l) = ' ' :: trimEnd l := by
      rwa [if_neg hnil] at htrimEnd
    have hclosed := (closed_trimEnd hnil).trimStart
    have htrim : trim (' ' :: trimEnd l) = Text.trimStart (trimEnd l) := by
      rw [trim_blank_cons (by decide), trim, hclosed.trimEnd_eq]
    rw [hbody, Vocabulary.erasesText_iff]
    simp only [alternativesOf_eq_singleton_iff, htrim,
      splitAlternatives_gap_cons_iff (c := ' ') (by decide)]
    constructor
    · rintro ⟨a, ⟨hsplit, -, htext⟩, -, hpieces⟩
      rw [htext, String.toList_ofList, pieces_trimStart hsplit] at hpieces
      exact ⟨hnil, hsplit, hpieces⟩
    · rintro ⟨-, hsplit, hpieces⟩
      obtain ⟨d, hlast, -⟩ := hclosed
      refine ⟨⟨1, String.ofList (Text.trimStart (trimEnd l))⟩, ⟨hsplit, ?_, rfl⟩, rfl, ?_⟩
      · intro hnil
        rw [hnil] at hlast
        cases hlast
      · rwa [String.toList_ofList, pieces_trimStart hsplit]

end Bodies

/-! ## Lines -/

namespace Declarations

variable {ds : Declarations} {lhs : String}

/-- How many alternatives there are. -/
def size (ds : Declarations) : Nat := (ds.flatMap Declaration.alternatives).length

theorem size_declare (ds : Declarations) (lhs : String) (line : Nat) :
    (ds.declare lhs line).size = ds.size := by
  unfold declare
  split <;> simp [size]

theorem size_lt_extend {as : List Alternative} (hlhs : lhs ∈ ds.names) (has : as ≠ []) :
    ds.size < (ds.extend lhs as).size := by
  rw [size, size, extend, List.flatMap_map, List.length_flatMap, List.length_flatMap]
  refine List.sum_lt_sum _ _ (fun d _ => ?_) ?_
  · split
    · simp
    · exact Nat.le_refl _
  · obtain ⟨d, hd, rfl⟩ := List.mem_map.1 hlhs
    exact ⟨d, hd, by simpa using List.length_pos_iff.2 has⟩

namespace Reading

variable {r r' : Reading}

/-- A continuation line belongs to a left-hand side that is declared. -/
def Anchored (r : Reading) : Prop := ∀ lhs ∈ r.current, lhs ∈ r.declarations.names

theorem Anchored.add {n : Nat} {body : List Char} (hlhs : lhs ∈ r.declarations.names)
    (h : r.add n lhs body = .ok r') :
    r'.Anchored ∧ r.declarations.size < r'.declarations.size := by
  obtain ⟨as, has, rfl⟩ := add_eq_ok h
  refine ⟨fun lhs' hlhs' => ?_, size_lt_extend hlhs has⟩
  cases hlhs'
  rwa [names_extend]

/-- A line says nothing, or it adds an alternative. -/
theorem Anchored.readLine {n : Nat} {raw : List Char} (hr : r.Anchored)
    (h : r.readLine n raw = .ok r') :
    r'.Anchored ∧ (Line.read raw = .ok .skip ∧ r' = r ∨
      r.declarations.size < r'.declarations.size) := by
  unfold Reading.readLine at h
  split at h
  · cases h
  · cases h
    exact ⟨hr, .inl ⟨‹_›, rfl⟩⟩
  · rename_i lhs body _
    have hlhs : lhs ∈ (r.declarations.declare lhs n).names := by
      rw [names_declare, addNew]
      split
      · assumption
      · exact List.mem_append_right _ List.mem_cons_self
    obtain ⟨hr', hsize⟩ := Anchored.add hlhs h
    exact ⟨hr', .inr (size_declare _ lhs n ▸ hsize)⟩
  · split at h
    · cases h
    · rename_i hcurrent
      exact (Anchored.add (hr _ hcurrent) h).imp_right .inr

/-- All lines say nothing, or they add an alternative. -/
theorem Anchored.readLines {ls : List (Nat × List Char)} (hr : r.Anchored)
    (h : ls.foldlM readNumbered r = .ok r') :
    (∀ line ∈ ls, Line.read line.2 = .ok .skip) ∧ r' = r ∨
      r.declarations.size < r'.declarations.size := by
  induction ls generalizing r with
  | nil =>
    cases h
    exact .inl ⟨fun line hline => absurd hline List.not_mem_nil, rfl⟩
  | cons line ls ih =>
    obtain ⟨r₁, hline, hls⟩ := foldlM_cons_eq_ok.1 h
    obtain ⟨hr₁, hstep⟩ := hr.readLine (readNumbered_eq_ok.1 hline)
    rcases hstep with ⟨hskip, rfl⟩ | hlt
    · exact (ih hr₁ hls).imp_left fun hall => ⟨List.forall_mem_cons.2 ⟨hskip, hall.1⟩, hall.2⟩
    · refine .inr ?_
      rcases ih hr₁ hls with ⟨-, rfl⟩ | hlt'
      · exact hlt
      · exact hlt.trans hlt'

/-- Lines that say nothing are read over. -/
theorem readLines_of_skip {ls : List (Nat × List Char)}
    (h : ∀ line ∈ ls, Line.read line.2 = .ok .skip) (r : Reading) :
    ls.foldlM readNumbered r = .ok r := by
  induction ls with
  | nil => rfl
  | cons line ls ih =>
    obtain ⟨hline, hls⟩ := List.forall_mem_cons.1 h
    refine foldlM_cons_eq_ok.2 ⟨r, readNumbered_eq_ok.2 ?_, ih hls⟩
    rw [readLine, hline]

end Reading

end Declarations

open Declarations (Reading)

section Head

variable {name : String} {a : Alternative}

/-- A line with a head in front of all others declares its left-hand side. -/
theorem readLine_head (hname : IsNonterminal name.toList) (l : List Char) :
    Reading.readLine ⟨[], none⟩ 1 (name.toList ++ ' ' :: '-' :: '>' :: l) =
      (alternativesOf (trimEnd l)).map fun texts =>
        ⟨[⟨name, 1, texts.map (⟨1, ·⟩)⟩], some name⟩ := by
  have hnew : name ∉ Declarations.names [] := List.not_mem_nil
  rw [Reading.readLine, hname.line_read, String.ofList_toList]
  simp only [Reading.add, Declarations.extend_declare hnew, List.nil_append]
  cases alternativesOf (trimEnd l) <;> rfl

/-- The alternatives of the first line are all there are if and only if the other lines say
nothing. -/
theorem exists_readLines_iff {texts : List String} (htexts : texts ≠ [])
    {rest : List (Nat × List Char)} :
    (∃ r, rest.foldlM Reading.readNumbered ⟨[⟨name, 1, texts.map (⟨1, ·⟩)⟩], some name⟩ = .ok r ∧
      r.declarations = [⟨name, 1, [a]⟩]) ↔
    texts = [a.text] ∧ a.line = 1 ∧ ∀ line ∈ rest, Line.read line.2 = .ok .skip := by
  constructor
  · rintro ⟨r, hr, hdeclarations⟩
    have hanchored : Reading.Anchored ⟨[⟨name, 1, texts.map (⟨1, ·⟩)⟩], some name⟩ := by
      intro lhs hlhs
      cases hlhs
      exact List.mem_cons_self
    rcases hanchored.readLines hr with ⟨hskip, rfl⟩ | hlt
    · simp only [List.cons.injEq, Declaration.mk.injEq, true_and, and_true] at hdeclarations
      obtain ⟨text, rfl, rfl⟩ := List.map_eq_singleton_iff.1 hdeclarations
      exact ⟨rfl, rfl, hskip⟩
    · rw [hdeclarations] at hlt
      have hnil : texts = [] := by simpa [Declarations.size] using hlt
      exact absurd hnil htexts
  · rintro ⟨rfl, hline, hskip⟩
    refine ⟨_, Reading.readLines_of_skip hskip _, ?_⟩
    cases a
    cases hline
    rfl

/-- A text that starts with a head has one alternative if its first line has one and all other lines
say nothing. -/
theorem parse_eq_singleton_iff {text : String} (hname : IsNonterminal name.toList) {l : List Char}
    {ls : List (List Char)}
    (hlines : lines text.toList = (name.toList ++ ' ' :: '-' :: '>' :: l) :: ls) :
    Declarations.parse text = .ok [⟨name, 1, [a]⟩] ↔
      alternativesOf (trimEnd l) = .ok [a.text] ∧ a.line = 1 ∧
        ∀ l' ∈ ls, Line.read l' = .ok .skip := by
  obtain ⟨rest, hnumbered, hrest⟩ : ∃ rest, numberedLines text.toList =
      (1, name.toList ++ ' ' :: '-' :: '>' :: l) :: rest ∧ rest.map Prod.snd = ls := by
    rw [numberedLines, hlines, List.zipIdx_cons, List.map_cons]
    refine ⟨_, rfl, ?_⟩
    rw [List.map_map]
    exact List.zipIdx_map_fst 1 ls
  rw [Declarations.parse_eq_ok_iff, hnumbered, ← hrest, List.forall_mem_map]
  simp only [foldlM_cons_eq_ok, Reading.readNumbered_eq_ok, readLine_head hname]
  cases htexts : alternativesOf (trimEnd l) with
  | error fault => simp [Except.map]
  | ok texts =>
    simp only [Except.map, Except.ok.injEq, exists_eq_left',
      exists_readLines_iff (alternativesOf_ne_nil htexts)]

end Head

/-! ## The empty symbol -/

section Empty

variable {g : Grammar} {x : Lexicon} {options : Options} {text : String} {ds : Declarations}

/-- The start symbol with the written empty symbol as its body. -/
def emptyRule (g : Grammar) : String := g.nonterminalName g.start ++ " -> " ++ g.emptyName

/-- The empty rule is read as one alternative, and this is resolved to the empty symbol. -/
def ReadsBackEmpty (g : Grammar) (x : Lexicon) (options : Options) : Prop :=
  ∃ a, Declarations.parse g.emptyRule = .ok [⟨g.nonterminalName g.start, 1, [a]⟩] ∧
    resolveAlternative g (g.vocabulary x options) ⟨g.nonterminalName g.start, 1, [a]⟩ g.start a =
      .ok ⟨g.start, [.empty]⟩

/-- The first line of the written empty symbol is one alternative of words that stand for empty
symbols only, and all other lines are blank or comments. -/
def SpellsEmpty (g : Grammar) (x : Lexicon) (options : Options) : Prop :=
  ∃ l ls, lines g.emptyName.toList = l :: ls ∧ trimEnd l ≠ [] ∧
    (g.vocabulary x options).ErasesText (trimEnd l) ∧ ∀ l' ∈ ls, Line.read l' = .ok .skip

theorem readsBackEmpty_iff_spellsEmpty (hname : IsNonterminal (g.nonterminalName g.start).toList)
    (hempty : g.emptyName.toList ≠ []) :
    g.ReadsBackEmpty x options ↔ g.SpellsEmpty x options := by
  obtain ⟨l, ls, hlines⟩ := List.exists_cons_of_ne_nil (lines_ne_nil hempty)
  have hrule : lines g.emptyRule.toList =
      ((g.nonterminalName g.start).toList ++ ' ' :: '-' :: '>' :: ' ' :: l) :: ls := by
    have hnewline : '\n' ∉ (g.nonterminalName g.start).toList ++ [' ', '-', '>', ' '] := by
      have hchars := hname.isBare.2.1
      simpa using fun hmem => absurd (hchars _ hmem) (by decide)
    have hprefix := lines_append hnewline (by simp) hlines
    simpa [emptyRule] using hprefix
  have hiff := exists_alternative_iff (v := g.vocabulary x options) (l := l)
  simp only [ReadsBackEmpty, SpellsEmpty, parse_eq_singleton_iff hname hrule,
    resolveAlternative_eq_empty_iff, hlines, List.cons.injEq]
  constructor
  · rintro ⟨a, ⟨halternatives, hline, hskip⟩, hpieces⟩
    obtain ⟨hne, herases⟩ := hiff.1 ⟨a, halternatives, hline, hpieces⟩
    exact ⟨l, ls, ⟨rfl, rfl⟩, hne, herases, hskip⟩
  · rintro ⟨_, _, ⟨rfl, rfl⟩, hne, herases, hskip⟩
    obtain ⟨a, halternatives, hline, hpieces⟩ := hiff.2 ⟨hne, herases⟩
    exact ⟨a, ⟨halternatives, hline, hskip⟩, hpieces⟩

/-- A bare word is one line and one word. -/
theorem spellsEmpty_iff_erases (hbare : IsBare g.emptyName.toList)
    (hempty : g.emptyName.toList ≠ []) :
    g.SpellsEmpty x options ↔ (g.vocabulary x options).Erases g.emptyName.toList := by
  have hplain : (Piece.word g.emptyName.toList).Plain := ⟨hempty, hbare⟩
  have hread := Piece.read_source hplain stops_nil
  have hsplit := splitAlternatives_of_read hread
  have hpieces := pieces_of_read hread
  have htrim := (Piece.closed_source hplain).trimEnd_eq
  have hnewline : '\n' ∉ g.emptyName.toList := fun hmem => absurd (hbare.1 _ hmem) (by decide)
  rw [splitAlternatives_nil] at hsplit
  rw [pieces_nil] at hpieces
  simp only [Piece.source, List.append_nil] at hsplit hpieces htrim
  have htext : (g.vocabulary x options).ErasesText g.emptyName.toList ↔
      (g.vocabulary x options).Erases g.emptyName.toList := by
    simp [Vocabulary.erasesText_iff, hsplit, hpieces, prependPart, Vocabulary.ErasesPiece]
  simp only [SpellsEmpty, lines_eq_singleton hempty hnewline]
  constructor
  · rintro ⟨l, ls, hlines, -, herases, -⟩
    cases hlines
    rw [htrim] at herases
    exact htext.1 herases
  · intro h
    refine ⟨_, [], rfl, ?_, ?_, fun l hl => absurd hl List.not_mem_nil⟩
    · rwa [htrim]
    · rw [htrim]
      exact htext.2 h

/-- Where the empty symbol of a resolved grammar occurs, it is read back if and only if its first
line is one alternative of words that stand for empty symbols and its other lines say nothing. For a
bare word this means that it spells no nonterminal. -/
theorem readsBackEmpty_iff (hds : Declarations.parse text = .ok ds)
    (hg : resolve ds x options = .ok g) (hepsilon : ∃ p ∈ g.productions, p.isEpsilon = true) :
    (g.ReadsBackEmpty x options ↔ g.SpellsEmpty x options) ∧
      (IsBare g.emptyName.toList → (g.ReadsBackEmpty x options ↔
        g.emptyName ∉ g.nonterminals ∧ g.emptyName ∉ x.spellings .nonterminal)) := by
  obtain ⟨p, hp, hbody⟩ := hepsilon
  have hbody : p.body = [.empty] := of_decide_eq_true hbody
  have hdeclared : g.Declared x text := .of_resolve hds hg
  have hmem := emptyName_mem_of_resolve hds hg hp (hbody ▸ List.mem_singleton_self _)
  have hempty : g.emptyName.toList ≠ [] := by simpa using (List.mem_filter.1 hmem).2
  have hname : IsNonterminal (g.nonterminalName g.start).toList := by
    refine isNonterminal_of_mem_nonterminals hdeclared ?_
    rw [nonterminalName, List.getElem?_eq_getElem hdeclared.wellFormed.start_lt]
    exact List.getElem_mem _
  have hiff : g.ReadsBackEmpty x options ↔ g.SpellsEmpty x options :=
    readsBackEmpty_iff_spellsEmpty hname hempty
  refine ⟨hiff, fun hbare => ?_⟩
  rw [hiff, spellsEmpty_iff_erases hbare hempty, Vocabulary.erases_spelling_iff hmem hempty]

theorem readsBackEmpty_iff_knotty : Declarations.parse knotty = .ok knottyDeclarations ∧
    resolve knottyDeclarations knottyLexicon {} = .ok knottyGrammar ∧
      (∃ p ∈ knottyGrammar.productions, p.isEpsilon = true) ∧
        knottyGrammar.emptyRule = "S -> $$" ∧
          knottyGrammar.ReadsBackEmpty knottyLexicon {} := by
  have hds : Declarations.parse knotty = .ok knottyDeclarations := by decide +kernel
  have hg : resolve knottyDeclarations knottyLexicon {} = .ok knottyGrammar := by decide +kernel
  have hepsilon : ∃ p ∈ knottyGrammar.productions, p.isEpsilon = true := by decide
  have hbare : IsBare knottyGrammar.emptyName.toList := by decide +kernel
  exact ⟨hds, hg, hepsilon, by decide +kernel,
    ((readsBackEmpty_iff hds hg hepsilon).2 hbare).2 (by decide +kernel)⟩

/-- The lexicon spells the empty symbol like the start symbol. -/
def maskedLexicon : Lexicon where
  rules := [⟨"TERMINAL", "a", 1, false⟩, ⟨"EMPTY_SYMBOL", "S", 2, false⟩]

def maskedDeclarations : Declarations := [⟨"S", 1, [⟨1, "aS"⟩, ⟨1, "eps"⟩]⟩]

def maskedGrammar : Grammar where
  terminals := ["a"]
  nonterminals := ["S"]
  productions := [⟨0, [.terminal 0, .nonterminal 0]⟩, ⟨0, [.empty]⟩]
  emptyName := "S"

/-- The empty production of this grammar is written `S -> S`, which is read as a production with the
start symbol in its body. -/
theorem not_readsBackEmpty_masked :
    Lexicon.parse "TERMINAL := \"a\"\nEMPTY_SYMBOL := \"S\"\n" = .ok maskedLexicon ∧
      Declarations.parse "S -> aS | eps\n" = .ok maskedDeclarations ∧
        resolve maskedDeclarations maskedLexicon {} = .ok maskedGrammar ∧
          (∃ p ∈ maskedGrammar.productions, p.isEpsilon = true) ∧
            ¬ maskedGrammar.ReadsBackEmpty maskedLexicon {} := by
  refine ⟨by decide +kernel, by decide +kernel, by decide +kernel, by decide, ?_⟩
  rintro ⟨a, hparse, hresolve⟩
  have hrule : Declarations.parse maskedGrammar.emptyRule = .ok [⟨"S", 1, [⟨1, "S"⟩]⟩] := by
    decide +kernel
  cases hparse.symm.trans hrule
  have hbody : resolveAlternative maskedGrammar (maskedGrammar.vocabulary maskedLexicon {})
      ⟨"S", 1, [⟨1, "S"⟩]⟩ 0 ⟨1, "S"⟩ = .ok ⟨0, [.nonterminal 0]⟩ := by
    decide +kernel
  cases hresolve.symm.trans hbody

end Empty

end TopDown.Grammar
