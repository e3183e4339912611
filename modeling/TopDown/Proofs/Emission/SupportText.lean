import Mathlib.Data.List.Forall2
import TopDown.Emission.Name
import TopDown.Emission.Support
import TopDown.Emission.Tables
import TopDown.Proofs.Emission.TypeName
import TopDown.Proofs.Traversal

/-!
# The lines of the fixed part

* `Code.texts` : the lines of code, without their indentation; `Code.mem_render`,
  `Code.chunk_render` : the characters and the words of code are those of its lines;
* `Spelled` : texts by their characters;
* `mem_texts_items` : only some lines of the fixed part name the parser;
* `reads`, `isNaming` : what a text is about, found out in one pass;
* `texts_spelled` : all fixed texts of an emitted module, read at once; `fits_fixedItems`,
  `within_tableTexts`, `exists_namesType` : what they are about;
* `fits_texts` : the lines of the fixed part, whatever its parser is called.
-/

namespace TopDown.Emission

open Text

/-! ## Lines of code -/

namespace Code

mutual

/-- The lines of code, without their indentation. -/
def texts : Code → List String
  | line text => [text]
  | nest first body last => first :: (textsAll body ++ last.toList)

def textsAll : List Code → List String
  | [] => []
  | c :: cs => c.texts ++ textsAll cs

end

theorem textsAll_append (cs ds : List Code) : textsAll (cs ++ ds) = textsAll cs ++ textsAll ds := by
  induction cs with
  | nil => rfl
  | cons c cs ih => rw [List.cons_append, textsAll, textsAll, ih, List.append_assoc]

/-- The words and marks of a line. -/
def pieces (text : String) : List Piece := Cursor.pieces {} (text.toList ++ ['\n'])

/-- A line does not bear on how the text behind it is read. -/
def Closed (text : String) : Prop := Chunk (text.toList ++ ['\n']) (pieces text)

theorem chunk_line {text : String} (h : Closed text) (indent : Nat) :
    Chunk (spaces indent ++ text ++ "\n").toList (pieces text) := by
  rw [String.toList_append, String.toList_append, List.append_assoc, spaces, String.toList_ofList]
  exact (chunk_spaces indent).append h

mutual

/-- The words and marks of code are those of its lines. -/
theorem chunk_render (c : Code) (h : ∀ t ∈ c.texts, Closed t) (indent : Nat) :
    Chunk (c.render indent).toList (c.texts.flatMap pieces) := by
  cases c with
  | line text =>
    rw [texts, List.flatMap_singleton]
    exact chunk_line (h text List.mem_cons_self) indent
  | nest first body last =>
    obtain ⟨hfirst, hrest⟩ := List.forall_mem_cons.1 h
    obtain ⟨hbody, hlast⟩ := List.forall_mem_append.1 hrest
    rw [render.eq_def, texts, List.flatMap_cons, List.flatMap_append, String.toList_append,
      String.toList_append, List.append_assoc]
    refine (chunk_line hfirst indent).append ((chunk_renderAll body hbody _).append ?_)
    cases last with
    | none => exact chunk_nil
    | some text =>
      rw [Option.toList_some, List.flatMap_singleton]
      exact chunk_line (hlast text (List.mem_singleton_self text)) indent

theorem chunk_renderAll (cs : List Code) (h : ∀ t ∈ textsAll cs, Closed t) (indent : Nat) :
    Chunk (renderAll indent cs).toList ((textsAll cs).flatMap pieces) := by
  cases cs with
  | nil => exact chunk_nil
  | cons c cs =>
    obtain ⟨hc, hcs⟩ := List.forall_mem_append.1 h
    rw [renderAll, textsAll, String.toList_append, List.flatMap_append]
    exact (chunk_render c hc indent).append (chunk_renderAll cs hcs indent)

end

/-- A character that stands in code. -/
def Holds (texts : List String) (c : Char) : Prop := c = ' ' ∨ c = '\n' ∨ ∃ t ∈ texts, c ∈ t.toList

theorem holds_line {indent : Nat} {text : String} {texts : List String} {c : Char}
    (htext : text ∈ texts) (h : c ∈ (spaces indent ++ text ++ "\n").toList) : Holds texts c := by
  rw [String.toList_append, String.toList_append, List.append_assoc, spaces,
    String.toList_ofList] at h
  rcases List.mem_append.1 h with h | h
  · exact .inl (List.eq_of_mem_replicate h)
  rcases List.mem_append.1 h with h | h
  · exact .inr (.inr ⟨text, htext, h⟩)
  · exact .inr (.inl (List.mem_singleton.1 h))

theorem Holds.mono {texts texts' : List String} {c : Char} (h : Holds texts c)
    (hsubset : texts ⊆ texts') : Holds texts' c := by
  obtain h | h | ⟨t, ht, hc⟩ := h
  · exact .inl h
  · exact .inr (.inl h)
  · exact .inr (.inr ⟨t, hsubset ht, hc⟩)

mutual

/-- The characters of code are those of its lines, blanks and line feeds. -/
theorem holds_of_mem_render {c : Char} (code : Code) {indent : Nat}
    (h : c ∈ (code.render indent).toList) : Holds code.texts c := by
  cases code with
  | line text => exact holds_line List.mem_cons_self h
  | nest first body last =>
    rw [render.eq_def, String.toList_append, String.toList_append] at h
    rw [texts]
    rcases List.mem_append.1 h with h | h
    · rcases List.mem_append.1 h with h | h
      · exact holds_line List.mem_cons_self h
      · exact (holds_of_mem_renderAll body h).mono fun t ht =>
          List.mem_cons_of_mem _ (List.mem_append_left _ ht)
    · cases last with
      | none => cases h
      | some text =>
        exact holds_line (List.mem_cons_of_mem _ (List.mem_append_right _
          (List.mem_singleton_self text))) h

theorem holds_of_mem_renderAll {c : Char} (cs : List Code) {indent : Nat}
    (h : c ∈ (renderAll indent cs).toList) : Holds (textsAll cs) c := by
  cases cs with
  | nil => cases h
  | cons code cs =>
    rw [renderAll, String.toList_append] at h
    rw [textsAll]
    rcases List.mem_append.1 h with h | h
    · exact (holds_of_mem_render code h).mono (List.subset_append_left _ _)
    · exact (holds_of_mem_renderAll cs h).mono (List.subset_append_right _ _)

end

end Code

/-! ## The fixed part -/

/-- Texts by their characters. -/
abbrev Spelled : List String → List (List Char) → Prop :=
  List.Forall₂ fun text s => text.toList = s

theorem toList_append_eq {a b : String} {s t : List Char} (ha : a.toList = s) (hb : b.toList = t) :
    (a ++ b).toList = s ++ t := by
  rw [String.toList_append, ha, hb]

theorem Spelled.mem_iff {texts : List String} {css : List (List Char)} (h : Spelled texts css)
    {s : List Char} : String.ofList s ∈ texts ↔ s ∈ css := by
  induction h with
  | nil => simp
  | @cons text cs _ _ htext _ ih =>
    rw [List.mem_cons, List.mem_cons, ih, ← String.toList_inj, String.toList_ofList, htext]

theorem Spelled.forall_mem {texts : List String} {css : List (List Char)} (h : Spelled texts css)
    {p : List Char → Prop} : (∀ t ∈ texts, p t.toList) ↔ ∀ s ∈ css, p s := by
  induction h with
  | nil => simp
  | cons htext _ ih => simp only [List.forall_mem_cons, ih, htext]

/-- The items of the fixed part. -/
def items (name : String) : List Code := typeItems ++ parserItems name ++ supportItems

/-- The lines that name the parser. -/
def namingTexts (name : String) : List String :=
  ("pub struct " ++ name ++ " \x7b") :: ("impl " ++ name ++ " \x7b") :: (construction name).texts

/-- All other lines are the same for all parsers. -/
theorem mem_texts_items {name text : String} (h : text ∈ Code.textsAll (items name)) :
    text ∈ namingTexts name ∨ text ∈ Code.textsAll (items "") := by
  simp only [items, parserItems, constructor, Code.block, Code.textsAll, Code.texts,
    Code.textsAll_append, List.mem_append, List.mem_cons, namingTexts, Option.toList_some,
    Option.toList_none, List.not_mem_nil, or_false] at h ⊢
  grind

/-- A whole line that holds no carriage return and is only about types of which `P` holds. -/
structure Fits (P : List Char → Prop) (text : String) : Prop where
  returnless : '\r' ∉ text.toList
  closed : Code.Closed text
  within : Within P (Code.pieces text)

/-- Whether all words among these pieces that are types of the language, or declared as types, are
among some types. -/
def permits (language types : List (List Char)) (x : Context) : List Piece → Bool
  | [] => true
  | .word w :: ps =>
    (!(x.declaring || language.contains (bare w)) || types.contains (bare w)) &&
      permits language types (x.next (.word w)) ps
  | .mark c :: ps => permits language types (x.next (.mark c)) ps

theorem permits_append {language types : List (List Char)} (x : Context) (ps qs : List Piece) :
    permits language types x (ps ++ qs) =
      (permits language types x ps && permits language types (ps.foldl Context.next x) qs) := by
  induction ps generalizing x with
  | nil => rfl
  | cons p ps ih =>
    cases p with
    | mark c => exact ih _
    | word w => rw [List.cons_append, permits, permits, ih, Bool.and_assoc, List.foldl_cons]

/-- Whether the pieces of a text are permitted and nothing of it bears on what stands behind it. All
is found out in one pass, with the word that is being read in reverse. -/
def reads (language types : List (List Char)) : List Char → Zone → List Char → Context → Bool
  | [], z, w, x => z = .code && w.isEmpty && x = {}
  | c :: s, z, w, x =>
    bif z.isCode && isWordChar c then reads language types s .code (c :: w) x
    else
      let ps := (Cursor.step ⟨z, w.reverse⟩ c).1
      permits language types x ps && reads language types s (z.next c) [] (ps.foldl Context.next x)

theorem reads_sound {language types : List (List Char)} {s w : List Char} {z : Zone} {x : Context}
    (h : reads language types s z w x = true) :
    Cursor.after ⟨z, w.reverse⟩ s = {} ∧
      permits language types x (Cursor.pieces ⟨z, w.reverse⟩ s) = true ∧
      (Cursor.pieces ⟨z, w.reverse⟩ s).foldl Context.next x = {} := by
  induction s generalizing z w x with
  | nil =>
    simp only [reads, Bool.and_eq_true, decide_eq_true_eq, List.isEmpty_iff] at h
    obtain ⟨⟨rfl, rfl⟩, rfl⟩ := h
    exact ⟨rfl, rfl, rfl⟩
  | cons c s ih =>
    rw [reads] at h
    rw [Cursor.after, List.foldl_cons, Cursor.pieces, permits_append, List.foldl_append]
    cases hc : z.isCode && isWordChar c with
    | true =>
      rw [hc] at h
      obtain ⟨hz, hc⟩ := (Bool.and_eq_true _ _).mp hc
      have hstep : Cursor.step ⟨z, w.reverse⟩ c = ([], ⟨.code, (c :: w).reverse⟩) := by
        simp [Cursor.step, hz, hc]
      rw [hstep]
      exact ih h
    | false =>
      rw [hc] at h
      have hstep : (Cursor.step ⟨z, w.reverse⟩ c).2 = ⟨z.next c, []⟩ := by
        unfold Cursor.step
        cases hz : z.isCode with
        | false => rfl
        | true =>
          rw [hz, Bool.true_and] at hc
          simp [hc]
      obtain ⟨hpermits, hrest⟩ := (Bool.and_eq_true _ _).mp h
      obtain ⟨hafter, hpieces, hsettled⟩ := ih hrest
      rw [hstep, hpermits, Bool.true_and]
      exact ⟨hafter, hpieces, hsettled⟩

/-- Whether a line of these characters names a type. -/
def isNaming (language : List (List Char)) (x s : List Char) : Bool :=
  let ps := Cursor.pieces {} (s ++ ['\n'])
  (mentioned {} ps).any (bare · == x) &&
    (language.contains x || (declared {} ps).any (bare · == x))

theorem toList_append_append_eq {a b c : String} {s t u : List Char} (ha : a.toList = s)
    (hb : b.toList = t) (hc : c.toList = u) : (a ++ b ++ c).toList = s ++ t ++ u :=
  toList_append_eq (toList_append_eq ha hb) hc

/-- The texts between the lists of the tables. -/
def tableTexts : List String :=
  ["pub const TERMINALS: &[&str] = ", "pub const NONTERMINALS: &[&str] = ",
   "pub const START: usize = ", "#[allow(dead_code)]\n", "pub const EMPTY: &str = ",
   "/// Lexical rules as `(name, pattern, terminal, priority)`. Separators\n",
   "/// have no terminal.\n", "pub const RULES: &[(&str, &str, Option<usize>, usize)] = ",
   "/// Productions as `(left-hand side, body)`.\n",
   "pub const PRODUCTIONS: &[(usize, &[Symbol])] = "]

/-- All lines that are the same in every emitted module. -/
def fixedItems : List Code := symbolType ++ predictCode [] ++ items ""

/-- Items that name all types of an emitted module. -/
def namingItems : List Code := symbolType ++ typeItems ++ tokenizeMethod

/-- What is to be known about the fixed texts of an emitted module, found out from their characters
at once. -/
theorem texts_spelled : ∃ lines heads naming language types,
    Spelled (Code.textsAll fixedItems) lines ∧ Spelled tableTexts heads ∧
    Spelled (Code.textsAll namingItems) naming ∧ Spelled languageTypes language ∧
    Spelled moduleTypes types ∧
    (lines.all (fun s => !s.contains '\r' && reads language types (s ++ ['\n']) .code [] {}) &&
      heads.all (reads language types · .code [] {}) &&
      types.all fun x => naming.any (isNaming language x)) = true := by
  have hspell (s : List Char) : (String.ofList s).toList = s := String.toList_ofList
  have hconstruction : construction "" = .line ("Ok(" ++ "" ++ " \x7b rules \x7d)") :=
    if_pos (by decide)
  simp only [fixedItems, namingItems, symbolType, predictCode, items, typeItems, parserItems,
    constructor, hconstruction, tokenizeMethod, parseMethod, supportItems, Code.block,
    Code.textsAll, Code.texts, List.cons_append, List.nil_append, List.map_nil, Option.toList_some,
    Option.toList_none, tableTexts, languageTypes, moduleTypes]
  apply Exists.intro
  apply Exists.intro
  apply Exists.intro
  apply Exists.intro
  apply Exists.intro
  refine ⟨?_, ?_, ?_, ?_, ?_, ?_⟩
  iterate 5
    focus
      -- the characters of a constant are known without decoding its bytes
      repeat (
        apply List.Forall₂.cons
        first
          | with_reducible exact toList_append_append_eq (hspell _) (hspell _) (hspell _)
          | with_reducible exact toList_append_eq (hspell _) (hspell _)
          | exact hspell _)
      exact .nil
  decide +kernel

/-- A type of the emitted module whatever its parser is called. -/
abbrev InModule (w : List Char) : Prop := String.ofList w ∈ moduleTypes

section

variable {language types : List (List Char)} (hlanguage : Spelled languageTypes language)
  (htypes : Spelled moduleTypes types)

include hlanguage htypes

theorem inModule_of_permits {x : Context} {ps : List Piece}
    (h : permits language types x ps = true) :
    (∀ w, .word w ∈ ps → String.ofList (bare w) ∈ languageTypes → InModule (bare w)) ∧
      ∀ w ∈ declared x ps, InModule (bare w) := by
  induction ps generalizing x with
  | nil => exact ⟨fun _ hw => absurd hw List.not_mem_nil, fun _ hw => nomatch hw⟩
  | cons p ps ih =>
    cases p with
    | mark c =>
      obtain ⟨hwords, hdeclared⟩ := ih h
      refine ⟨fun w hw => ?_, hdeclared⟩
      rcases List.mem_cons.1 hw with heq | hw
      · cases heq
      · exact hwords w hw
    | word v =>
      rw [permits, Bool.and_eq_true] at h
      obtain ⟨hwords, hdeclared⟩ := ih h.2
      have hv (hv : x.declaring = true ∨ bare v ∈ language) : InModule (bare v) := by
        have hmem := h.1
        simp only [Bool.or_eq_true, Bool.not_eq_true', ← Bool.not_eq_true,
          List.contains_iff_mem] at hmem
        exact htypes.mem_iff.2 (hmem.resolve_left fun hnot => hnot hv)
      constructor
      · intro w hw hbare
        rcases List.mem_cons.1 hw with heq | hw
        · cases heq
          exact hv (.inr (hlanguage.mem_iff.1 hbare))
        · exact hwords w hw hbare
      · intro w hw
        rw [declared] at hw
        split at hw
        · rename_i hdeclaring
          rcases List.mem_cons.1 hw with rfl | hw
          · exact hv (.inl hdeclaring)
          · exact hdeclared w hw
        · exact hdeclared w hw

/-- A text that is read in one pass is about types of the emitted module only. -/
theorem within_of_reads {s : List Char} (h : reads language types s .code [] {} = true) :
    Cursor.after {} s = {} ∧ Within InModule (Cursor.pieces {} s) := by
  obtain ⟨hafter, hpermits, hsettled⟩ := reads_sound h
  obtain ⟨hwords, hdeclared⟩ := inModule_of_permits hlanguage htypes hpermits
  exact ⟨hafter, hsettled, hwords, hdeclared⟩

omit htypes in
theorem namesType_of_isNaming {text : String} {x s : List Char} (htext : text.toList = s)
    (h : isNaming language x s = true) : NamesType (Code.pieces text) (String.ofList x) := by
  simp only [isNaming, Bool.and_eq_true, Bool.or_eq_true, List.any_eq_true, beq_iff_eq,
    List.contains_iff_mem] at h
  rw [Code.pieces, htext]
  obtain ⟨⟨v, hv, rfl⟩, hlanguage' | ⟨w, hw, hx⟩⟩ := h
  · exact ⟨⟨v, hv, rfl⟩, .inl (hlanguage.mem_iff.2 hlanguage')⟩
  · exact ⟨⟨v, hv, rfl⟩, .inr ⟨w, hw, by rw [hx]⟩⟩

end

/-- The fixed lines are about types of the emitted module only. -/
theorem fits_fixedItems {t : String} (h : t ∈ Code.textsAll fixedItems) : Fits InModule t := by
  obtain ⟨lines, _, _, language, types, hlines, -, -, hlanguage, htypes, hall⟩ := texts_spelled
  simp only [Bool.and_eq_true, List.all_eq_true] at hall
  have hline := hlines.forall_mem.2 hall.1.1 t h
  simp only [Bool.not_eq_true', ← Bool.not_eq_true, List.contains_iff_mem] at hline
  obtain ⟨hreturn, hreads⟩ := hline
  obtain ⟨hafter, hwithin⟩ := within_of_reads hlanguage htypes hreads
  exact ⟨hreturn, chunk_of_after hafter, hwithin⟩

/-- So are the texts between the lists of the tables. -/
theorem within_tableTexts {t : String} (h : t ∈ tableTexts) :
    Cursor.after {} t.toList = {} ∧ Within InModule (Cursor.pieces {} t.toList) := by
  obtain ⟨_, heads, _, language, types, -, hheads, -, hlanguage, htypes, hall⟩ := texts_spelled
  simp only [Bool.and_eq_true, List.all_eq_true] at hall
  exact within_of_reads hlanguage htypes (hheads.forall_mem.2 hall.1.2 t h)

/-- Each type of the emitted module has a line that names it. -/
theorem exists_namesType {x : String} (h : x ∈ moduleTypes) :
    ∃ text ∈ Code.textsAll namingItems, NamesType (Code.pieces text) x := by
  obtain ⟨_, _, naming, language, types, -, -, hnaming, hlanguage, htypes, hall⟩ := texts_spelled
  simp only [Bool.and_eq_true, List.all_eq_true, List.any_eq_true] at hall
  obtain ⟨s, hs, hnames⟩ := htypes.forall_mem.2 hall.2 x h
  obtain ⟨text, htext, hspelled⟩ := exists_of_mem_right hnaming hs
  have hnamed := namesType_of_isNaming hlanguage hspelled hnames
  rw [String.ofList_toList] at hnamed
  exact ⟨text, htext, hnamed⟩

/-! ## Lines that name the parser -/

section Naming

variable {name : String} {P : List Char → Prop} {hs ts : List Piece} {w : List Char}

/-- Pieces that declare nothing and mention no type of the language. -/
def isPlain (ps : List Piece) : Bool :=
  declared {} ps = [] && ps.all fun
    | .word w => !languageTypes.contains (String.ofList (bare w))
    | .mark _ => true

theorem not_mem_languageTypes (h : isPlain ts = true) (hw : .word w ∈ ts) :
    String.ofList (bare w) ∉ languageTypes := by
  simp only [isPlain, Bool.and_eq_true, List.all_eq_true] at h
  simpa using h.2 _ hw

theorem not_mem_declared (h : isPlain ts = true) : w ∉ declared {} ts := by
  simp only [isPlain, Bool.and_eq_true, decide_eq_true_eq] at h
  rw [h.1]
  exact List.not_mem_nil

theorem within_of_isPlain (h : isPlain ts = true) (hsettled : Settled ts) : Within P ts where
  settled := hsettled
  language _ hw hbare := absurd hbare (not_mem_languageTypes h hw)
  declared _ hw := absurd hw (not_mem_declared h)

theorem mem_declared_naming {x : Context} {v : List Char} {d : Char} (hd : d ≠ ':')
    (h : v ∈ declared x (hs ++ .word w :: .mark d :: ts)) :
    v ∈ declared x hs ∨ v = w ∨ v ∈ declared {} ts := by
  induction hs generalizing x with
  | nil =>
    have hmark : (x.next (.word w)).next (.mark d) = {} := by simp [Context.next, hd]
    rw [List.nil_append, declared, declared, hmark] at h
    split at h
    · exact .inr (List.mem_cons.1 h)
    · exact .inr (.inr h)
  | cons p hs ih =>
    cases p with
    | mark _ => exact ih h
    | word u =>
      rw [List.cons_append, declared] at h
      rw [declared]
      split
      · rename_i hdeclaring
        rw [if_pos hdeclaring] at h
        rcases List.mem_cons.1 h with rfl | h
        · exact .inl List.mem_cons_self
        · exact (ih h).imp_left (List.mem_cons_of_mem _)
      · rename_i hdeclaring
        rw [if_neg hdeclaring] at h
        exact ih h

/-- A name between plain pieces is all that they are about. -/
theorem within_naming (hP : P (bare w)) {d : Char} (hhs : isPlain hs = true) (hd : d ≠ ':')
    (hts : isPlain ts = true) (hsettled : Settled ts) :
    Within P (hs ++ .word w :: .mark d :: ts) where
  settled := by
    have hmark (x : Context) : (x.next (.word w)).next (.mark d) = {} := by simp [Context.next, hd]
    rw [Settled, List.foldl_append, List.foldl_cons, List.foldl_cons, hmark]
    exact hsettled
  language v hv hbare := by
    rcases List.mem_append.1 hv with hv | hv
    · exact absurd hbare (not_mem_languageTypes hhs hv)
    rcases List.mem_cons.1 hv with heq | hv
    · cases heq
      exact hP
    rcases List.mem_cons.1 hv with heq | hv
    · cases heq
    · exact absurd hbare (not_mem_languageTypes hts hv)
  declared v hv := by
    rcases mem_declared_naming hd hv with hv | rfl | hv
    · exact absurd hv (not_mem_declared hhs)
    · exact hP
    · exact absurd hv (not_mem_declared hts)

/-- The words of a line with the name of the parser between a head and a tail. -/
theorem pieces_naming (hname : IsWord name.toList) {text : String} {head tail : List Char}
    {c d : Char} (htext : text.toList = head ++ name.toList ++ c :: tail)
    (hhead : Cursor.after {} head = {} ∧ Cursor.pieces {} head = hs)
    (htail : Cursor.after {} (c :: (tail ++ ['\n'])) = {} ∧
      Cursor.pieces {} (c :: (tail ++ ['\n'])) = .mark d :: ts) (hc : isWordChar c = false) :
    Code.Closed text ∧ Code.pieces text = hs ++ .word name.toList :: .mark d :: ts := by
  have hline : text.toList ++ ['\n'] = head ++ (name.toList ++ c :: (tail ++ ['\n'])) := by
    rw [htext, List.append_assoc, List.append_assoc, List.cons_append]
  constructor
  · apply chunk_of_after
    rw [hline, after_append, hhead.1, after_word hname hc, htail.1]
  · rw [Code.pieces, hline, pieces_append hhead.1, pieces_word hname (stops_cons hc _), hhead.2,
      htail.2]

theorem fits_naming (hname : IsWord name.toList) (hP : P (bare name.toList)) {text : String}
    {head tail : List Char} {c d : Char} (htext : text.toList = head ++ name.toList ++ c :: tail)
    (hhead : Cursor.after {} head = {} ∧ Cursor.pieces {} head = hs)
    (htail : Cursor.after {} (c :: (tail ++ ['\n'])) = {} ∧
      Cursor.pieces {} (c :: (tail ++ ['\n'])) = .mark d :: ts)
    (hreturn : '\r' ∉ head ∧ isWordChar c = false ∧ '\r' ∉ c :: tail)
    (hplain : isPlain hs = true ∧ d ≠ ':' ∧ isPlain ts = true ∧ Settled ts) : Fits P text := by
  obtain ⟨hheadless, hc, htailless⟩ := hreturn
  obtain ⟨hhs, hd, hts, hsettled⟩ := hplain
  obtain ⟨hclosed, hpieces⟩ := pieces_naming hname htext hhead htail hc
  refine ⟨fun hreturn => ?_, hclosed, ?_⟩
  · rw [htext] at hreturn
    rcases List.mem_append.1 hreturn with hmem | hmem
    · rcases List.mem_append.1 hmem with hmem | hmem
      · exact hheadless hmem
      · exact absurd (hname.2 _ hmem) (by decide)
    · exact htailless hmem
  · rw [hpieces]
    exact within_naming hP hhs hd hts hsettled

/-- A line without the name of the parser, as it stands. -/
theorem fits_plain {text : String} {s : List Char} (htext : text.toList = s)
    (hline : '\r' ∉ s ∧ Cursor.after {} (s ++ ['\n']) = {} ∧
      isPlain (Cursor.pieces {} (s ++ ['\n'])) = true ∧
        Settled (Cursor.pieces {} (s ++ ['\n']))) : Fits P text := by
  obtain ⟨hreturn, hclosed, hplain, hsettled⟩ := hline
  rw [← htext] at hreturn hclosed hplain hsettled
  exact ⟨hreturn, chunk_of_after hclosed, within_of_isPlain hplain hsettled⟩

theorem fits_namingTexts (hname : IsWord name.toList) (hP : P (bare name.toList)) {t : String}
    (h : t ∈ namingTexts name) : Fits P t := by
  have hspell (s : List Char) : (String.ofList s).toList = s := String.toList_ofList
  have hbrace : Cursor.after {} [' ', '\x7b', '\n'] = {} ∧
      Cursor.pieces {} [' ', '\x7b', '\n'] = [.mark '\x7b'] := by decide +kernel
  have hok : Cursor.after {} ['O', 'k', '('] = {} ∧
      Cursor.pieces {} ['O', 'k', '('] = [.word ['O', 'k'], .mark '('] := by decide +kernel
  rcases List.mem_cons.1 h with rfl | h
  · refine fits_naming hname hP (toList_append_append_eq (hspell _) rfl (hspell _)) ⟨?_, rfl⟩ hbrace
      ?_ ?_
    · decide +kernel
    · decide +kernel
    · decide +kernel
  rcases List.mem_cons.1 h with rfl | h
  · refine fits_naming hname hP (toList_append_append_eq (hspell _) rfl (hspell _)) ⟨?_, rfl⟩ hbrace
      ?_ ?_
    · decide +kernel
    · decide +kernel
    · decide +kernel
  unfold construction at h
  split at h
  · rw [Code.texts, List.mem_singleton] at h
    subst h
    have htail : Cursor.after {}
          [' ', '\x7b', ' ', 'r', 'u', 'l', 'e', 's', ' ', '\x7d', ')', '\n'] = {} ∧
        Cursor.pieces {} [' ', '\x7b', ' ', 'r', 'u', 'l', 'e', 's', ' ', '\x7d', ')', '\n'] =
          [.mark '\x7b', .word ['r', 'u', 'l', 'e', 's'], .mark '\x7d', .mark ')'] := by
      decide +kernel
    exact fits_naming hname hP (toList_append_append_eq (hspell _) rfl (hspell _)) hok htail
      (by decide +kernel) (by decide +kernel)
  · rw [Code.block, Code.texts, Code.textsAll, Code.texts, Code.textsAll] at h
    rcases List.mem_cons.1 h with rfl | h
    · exact fits_naming hname hP (toList_append_append_eq (hspell _) rfl (hspell _)) hok hbrace
        (by decide +kernel) (by decide +kernel)
    rcases List.mem_cons.1 h with rfl | h
    · exact fits_plain (hspell _) (by decide +kernel)
    · rw [List.mem_singleton.1 h]
      exact fits_plain (toList_append_eq (hspell _) (hspell _)) (by decide +kernel)

/-- The lines of the fixed part are about the parser and types of the emitted module only. -/
theorem fits_texts (hname : IsWord name.toList) {t : String} (h : t ∈ Code.textsAll (items name)) :
    Fits (fun w => w = bare name.toList ∨ String.ofList w ∈ moduleTypes) t := by
  rcases mem_texts_items h with h | h
  · exact fits_namingTexts hname (.inl rfl) h
  · have hfixed : t ∈ Code.textsAll fixedItems := by
      rw [fixedItems, Code.textsAll_append]
      exact List.mem_append_right _ h
    obtain ⟨hreturn, hclosed, hwithin⟩ := fits_fixedItems hfixed
    exact ⟨hreturn, hclosed, hwithin.mono fun _ => .inr⟩

end Naming

/-- Parsers are named by words. -/
theorem isWord_of_parserName {name id : String} (h : parserName name = .ok id) :
    IsWord id.toList := by
  unfold parserName at h
  split at h
  · cases h
  · rename_i hid
    split at h
    · cases h
    · cases h
      exact isWord_of_identifier? hid

/-- The fixed part holds no carriage return. -/
theorem returnless_support {name : String} (hname : IsWord name.toList) :
    '\r' ∉ (support name).toList := by
  intro h
  obtain hblank | hfeed | ⟨t, ht, hreturn⟩ := Code.holds_of_mem_renderAll (items name) h
  · cases hblank
  · cases hfeed
  · exact (fits_texts hname ht).returnless hreturn

end TopDown.Emission
