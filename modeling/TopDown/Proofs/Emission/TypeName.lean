import TopDown.Emission.Identifier
import TopDown.Proofs.Text.Lines

/-!
# Type names of emitted source

* `Cursor.pieces` : the words and marks of the code of a text, without its literals and comments;
* `declared`, `mentioned` : the names that are declared as types, and the words that no path leads
  to; `bare` : the name that a word stands for, raw or not;
* `NamesType`, `IsTypeName` : the types that are declared or mentioned without a path;
* `Chunk` : a text that is read alike in front of any other; `chunk_of_after`, `Chunk.append`;
* `Settled`, `declared_append`, `mentioned_append` : pieces that do not bear on those behind them;
* `Within` : pieces that declare and mention only certain types.
-/

namespace TopDown.Emission

open Text

/-! ## Words -/

/-- Where a character of source text stands. -/
inductive Zone where
  | code
  /-- Directly behind a slash of the code. -/
  | slash
  | literal
  /-- Inside a literal, directly behind a backslash. -/
  | escape
  | comment
  deriving DecidableEq

def Zone.isCode : Zone → Bool
  | code | slash => true
  | literal | escape | comment => false

def Zone.next : Zone → Char → Zone
  | slash, '/' => comment
  | code, '/' => slash
  | code, '"' | slash, '"' => literal
  | code, _ | slash, _ => code
  | literal, '"' => code
  | literal, '\\' => escape
  | literal, _ | escape, _ => literal
  | comment, '\n' => code
  | comment, _ => comment

/-- A word of source text, or another character of its code. -/
inductive Piece where
  | word (text : List Char)
  | mark (c : Char)
  deriving DecidableEq

/-- A character of a word. The hash mark belongs to raw identifiers. -/
def isWordChar (c : Char) : Bool := isStart c || isContinue c || c == '#'

/-- A place in source text, and what has been read there of a word. -/
structure Cursor where
  zone : Zone := .code
  word : List Char := []
  deriving DecidableEq

namespace Cursor

/-- The word that ends here, if there is one. -/
def flush (k : Cursor) : List Piece := if k.word.isEmpty then [] else [.word k.word]

/-- The pieces that a character completes, and the place behind it. -/
def step (k : Cursor) (c : Char) : List Piece × Cursor :=
  if k.zone.isCode then
    if isWordChar c then ([], ⟨.code, k.word ++ [c]⟩)
    else (k.flush ++ (if isBlank c then [] else [.mark c]), ⟨k.zone.next c, []⟩)
  else ([], ⟨k.zone.next c, []⟩)

/-- The words and marks of the code. Literals and comments have none. -/
def pieces (k : Cursor) : List Char → List Piece
  | [] => k.flush
  | c :: s => (k.step c).1 ++ (k.step c).2.pieces s

def after (k : Cursor) (s : List Char) : Cursor := s.foldl (fun k c => (k.step c).2) k

end Cursor

/-! ## Names -/

/-- The words that declare a type. -/
def declares (w : List Char) : Bool :=
  ["struct", "enum", "type", "trait"].contains (String.ofList w)

/-- What stands in front of a piece. -/
structure Context where
  /-- Whether a type is declared here. -/
  declaring : Bool := false
  /-- How many colons stand in a row. Two of them go on with a path. -/
  colons : Nat := 0
  deriving DecidableEq

def Context.next (x : Context) : Piece → Context
  | .word w => ⟨declares w, 0⟩
  | .mark c => ⟨false, if c = ':' then x.colons + 1 else 0⟩

/-- The names of the types that are declared. -/
def declared (x : Context) : List Piece → List (List Char)
  | [] => []
  | .word w :: ps =>
    if x.declaring then w :: declared (x.next (.word w)) ps else declared (x.next (.word w)) ps
  | .mark c :: ps => declared (x.next (.mark c)) ps

/-- The words that no path leads to. -/
def mentioned (x : Context) : List Piece → List (List Char)
  | [] => []
  | .word w :: ps =>
    if x.colons < 2 then w :: mentioned (x.next (.word w)) ps
    else mentioned (x.next (.word w)) ps
  | .mark c :: ps => mentioned (x.next (.mark c)) ps

/-- The name that an identifier stands for. A raw identifier stands for the same name as a plain
one. -/
def bare : List Char → List Char
  | 'r' :: '#' :: w => w
  | w => w

def bareName (id : String) : String := String.ofList (bare id.toList)

/-- The types of the language itself and those that every module knows. -/
def languageTypes : List String :=
  ["bool", "char", "str", "i8", "i16", "i32", "i64", "i128", "isize", "u8", "u16", "u32", "u64",
   "u128", "usize", "f32", "f64", "Box", "Option", "Result", "String", "Vec"]

/-- The types that the code of an emitted module is about, its parser apart. -/
def moduleTypes : List String :=
  ["Token", "Node", "Error", "Symbol", "Result", "Option", "Vec", "String", "usize", "str", "char"]

/-- The name of a type that is declared or mentioned without a path. -/
def NamesType (ps : List Piece) (x : String) : Prop :=
  (∃ w ∈ mentioned {} ps, String.ofList (bare w) = x) ∧
    (x ∈ languageTypes ∨ ∃ w ∈ declared {} ps, String.ofList (bare w) = x)

instance (ps : List Piece) (x : String) : Decidable (NamesType ps x) :=
  inferInstanceAs (Decidable (_ ∧ _))

/-- The name of a type that a text declares or mentions without a path. -/
def IsTypeName (text x : String) : Prop := NamesType (Cursor.pieces {} text.toList) x

/-! ## Texts in a row -/

variable {k : Cursor} {s t w : List Char} {ps qs : List Piece} {c : Char} {p : Piece}

theorem pieces_append (h : k.after s = {}) (t : List Char) :
    k.pieces (s ++ t) = k.pieces s ++ Cursor.pieces {} t := by
  induction s generalizing k with
  | nil =>
    cases h
    rfl
  | cons c s ih => rw [List.cons_append, Cursor.pieces, Cursor.pieces, ih h, List.append_assoc]

/-- A text that has these pieces in front of any other text. -/
def Chunk (s : List Char) (ps : List Piece) : Prop :=
  ∀ t, Cursor.pieces {} (s ++ t) = ps ++ Cursor.pieces {} t

theorem chunk_of_after (h : Cursor.after {} s = {}) : Chunk s (Cursor.pieces {} s) :=
  pieces_append h

theorem chunk_nil : Chunk [] [] := fun _ => rfl

theorem Chunk.append (hs : Chunk s ps) (ht : Chunk t qs) : Chunk (s ++ t) (ps ++ qs) := by
  intro u
  rw [List.append_assoc, hs, ht, List.append_assoc]

theorem Chunk.pieces_eq (h : Chunk s ps) : Cursor.pieces {} s = ps := by
  have hs := h []
  rwa [List.append_nil, show Cursor.pieces {} [] = [] from rfl, List.append_nil] at hs

theorem chunk_spaces (n : Nat) : Chunk (List.replicate n ' ') [] := by
  induction n with
  | zero => exact chunk_nil
  | succ n ih => exact ih

/-- A run of word characters is read on. -/
theorem pieces_run (hw : ∀ c ∈ w, isWordChar c = true) (v t : List Char) :
    Cursor.pieces ⟨.code, v⟩ (w ++ t) = Cursor.pieces ⟨.code, v ++ w⟩ t := by
  induction w generalizing v with
  | nil => rw [List.nil_append, List.append_nil]
  | cons c w ih =>
    obtain ⟨hc, hw⟩ := List.forall_mem_cons.1 hw
    have hstep : Cursor.step ⟨.code, v⟩ c = ([], ⟨.code, v ++ [c]⟩) := by
      simp [Cursor.step, Zone.isCode, hc]
    rw [List.cons_append, Cursor.pieces, hstep, List.nil_append, ih hw, List.append_assoc,
      List.singleton_append]

/-- A word of its own, such as an identifier. -/
def IsWord (w : List Char) : Prop := w ≠ [] ∧ ∀ c ∈ w, isWordChar c = true

theorem isWord_of_readWord {rest : List Char} (h : readWord s = some (w, rest)) : IsWord w := by
  cases s with
  | nil => cases h
  | cons c s =>
    rw [readWord] at h
    split at h
    · rename_i hc
      cases h
      refine ⟨List.cons_ne_nil _ _, List.forall_mem_cons.2 ⟨?_, fun d hd => ?_⟩⟩
      · simp [isWordChar, hc]
      · simp [isWordChar, List.mem_takeWhile_imp hd]
    · cases h

theorem isWord_of_readIdentifier {rest : List Char} {id : String}
    (h : readIdentifier s = some (id, rest)) : IsWord id.toList := by
  unfold readIdentifier at h
  split at h
  · split at h
    · rename_i w _ hw
      split at h
      · cases h
      · cases h
        obtain ⟨-, hchars⟩ := isWord_of_readWord hw
        rw [String.toList_append, String.toList_ofList, String.toList_ofList]
        exact ⟨by simp, List.forall_mem_append.2 ⟨List.all_eq_true.1 (by decide), hchars⟩⟩
    · cases h
  · split at h
    · rename_i w _ hw
      split at h
      · cases h
      · cases h
        rw [String.toList_ofList]
        exact isWord_of_readWord hw
    · cases h

/-- An identifier is a word. -/
theorem isWord_of_identifier? {id : String} (h : identifier? s = some id) : IsWord id.toList := by
  unfold identifier? at h
  split at h
  · rename_i hread
    split at h
    · cases h
      exact isWord_of_readIdentifier hread
    · cases h
  · cases h

theorem step_word (hw : w ≠ []) (hc : isWordChar c = false) :
    Cursor.step ⟨.code, w⟩ c = (.word w :: (Cursor.step {} c).1, (Cursor.step {} c).2) := by
  simp [Cursor.step, Zone.isCode, hc, hw, Cursor.flush]

/-- The last word of a text ends in front of anything else. -/
theorem pieces_append_of_stops (h : (k.after s).zone = .code) (ht : Stops isWordChar t) :
    k.pieces (s ++ t) = k.pieces s ++ Cursor.pieces {} t := by
  induction s generalizing k with
  | nil =>
    obtain ⟨zone, v⟩ := k
    cases h
    by_cases hv : v = []
    · rw [hv]
      rfl
    · have hflush : Cursor.flush ⟨.code, v⟩ = [.word v] := by simp [Cursor.flush, hv]
      rw [List.nil_append, Cursor.pieces.eq_1, hflush]
      cases t with
      | nil => exact hflush
      | cons c t => rw [Cursor.pieces, step_word hv (ht c rfl)]; rfl
  | cons c s ih => rw [List.cons_append, Cursor.pieces, Cursor.pieces, ih h, List.append_assoc]

theorem after_run (hw : ∀ c ∈ w, isWordChar c = true) (v : List Char) :
    Cursor.after ⟨.code, v⟩ w = ⟨.code, v ++ w⟩ := by
  induction w generalizing v with
  | nil => rw [List.append_nil]; rfl
  | cons c w ih =>
    obtain ⟨hc, hw⟩ := List.forall_mem_cons.1 hw
    have hstep : Cursor.step ⟨.code, v⟩ c = ([], ⟨.code, v ++ [c]⟩) := by
      simp [Cursor.step, Zone.isCode, hc]
    rw [Cursor.after, List.foldl_cons, hstep]
    exact (ih hw _).trans (by rw [List.append_assoc, List.singleton_append])

theorem after_append (k : Cursor) (s t : List Char) : k.after (s ++ t) = (k.after s).after t :=
  List.foldl_append

theorem pieces_word (hw : IsWord w) (ht : Stops isWordChar t) :
    Cursor.pieces {} (w ++ t) = .word w :: Cursor.pieces {} t := by
  have hpieces : Cursor.pieces {} w = [.word w] := by
    have hrun := pieces_run hw.2 [] []
    rw [List.append_nil] at hrun
    rw [hrun]
    simp [Cursor.pieces, Cursor.flush, hw.1]
  rw [pieces_append_of_stops (by rw [after_run hw.2]) ht, hpieces]
  rfl

/-- A word leaves no trace behind the character that ends it. -/
theorem after_word (hw : IsWord w) (hc : isWordChar c = false) (t : List Char) :
    Cursor.after {} (w ++ c :: t) = Cursor.after {} (c :: t) := by
  rw [after_append, after_run hw.2, List.nil_append, Cursor.after, List.foldl_cons,
    step_word hw.1 hc]
  rfl

/-! ## Names in a row -/

/-- Nothing of these pieces bears on what stands behind them. -/
def Settled (ps : List Piece) : Prop := ps.foldl Context.next {} = {}

instance (ps : List Piece) : Decidable (Settled ps) := inferInstanceAs (Decidable (_ = _))

theorem Settled.append (hps : Settled ps) (hqs : Settled qs) : Settled (ps ++ qs) := by
  unfold Settled
  rw [List.foldl_append, hps, hqs]

theorem declared_append {x : Context} (h : ps.foldl Context.next x = {}) (qs : List Piece) :
    declared x (ps ++ qs) = declared x ps ++ declared {} qs := by
  induction ps generalizing x with
  | nil =>
    cases h
    rfl
  | cons p ps ih =>
    cases p with
    | mark c => exact ih h
    | word w =>
      rw [List.cons_append, declared, declared, ih h]
      split
      · rfl
      · rfl

theorem mentioned_append {x : Context} (h : ps.foldl Context.next x = {}) (qs : List Piece) :
    mentioned x (ps ++ qs) = mentioned x ps ++ mentioned {} qs := by
  induction ps generalizing x with
  | nil =>
    cases h
    rfl
  | cons p ps ih =>
    cases p with
    | mark c => exact ih h
    | word w =>
      rw [List.cons_append, mentioned, mentioned, ih h]
      split
      · rfl
      · rfl

theorem word_mem_of_mentioned {x : Context} (h : w ∈ mentioned x ps) : .word w ∈ ps := by
  fun_induction mentioned x ps with
  | case1 => cases h
  | case2 x w' ps _ ih =>
    rcases List.mem_cons.1 h with rfl | h
    · exact List.mem_cons_self
    · exact List.mem_cons_of_mem _ (ih h)
  | case3 x w' ps _ ih => exact List.mem_cons_of_mem _ (ih h)
  | case4 x c ps ih => exact List.mem_cons_of_mem _ (ih h)

/-- What pieces name they name among others. -/
theorem NamesType.append_left {x : String} (h : NamesType ps x) (hps : Settled ps)
    (qs : List Piece) : NamesType (ps ++ qs) x := by
  obtain ⟨⟨v, hv, hx⟩, htype⟩ := h
  rw [NamesType, mentioned_append hps, declared_append hps]
  refine ⟨⟨v, List.mem_append_left _ hv, hx⟩, htype.imp_right fun ⟨w, hw, hx⟩ => ?_⟩
  exact ⟨w, List.mem_append_left _ hw, hx⟩

theorem NamesType.append_right {x : String} (h : NamesType qs x) (hps : Settled ps) :
    NamesType (ps ++ qs) x := by
  obtain ⟨⟨v, hv, hx⟩, htype⟩ := h
  rw [NamesType, mentioned_append hps, declared_append hps]
  refine ⟨⟨v, List.mem_append_right _ hv, hx⟩, htype.imp_right fun ⟨w, hw, hx⟩ => ?_⟩
  exact ⟨w, List.mem_append_right _ hw, hx⟩

theorem NamesType.flatMap {α : Type} {xs : List α} {f : α → List Piece} {a : α} {x : String}
    (h : NamesType (f a) x) (ha : a ∈ xs) (hsettled : ∀ a ∈ xs, Settled (f a)) :
    NamesType (xs.flatMap f) x := by
  induction xs with
  | nil => cases ha
  | cons b xs ih =>
    obtain ⟨hb, hxs⟩ := List.forall_mem_cons.1 hsettled
    rw [List.flatMap_cons]
    rcases List.mem_cons.1 ha with rfl | ha
    · exact h.append_left hb _
    · exact (ih ha hxs).append_right hb

/-- The pieces declare and mention only types of which `P` holds. -/
structure Within (P : List Char → Prop) (ps : List Piece) : Prop where
  settled : Settled ps
  language : ∀ w, .word w ∈ ps → String.ofList (bare w) ∈ languageTypes → P (bare w)
  declared : ∀ w ∈ declared {} ps, P (bare w)

namespace Within

variable {P Q : List Char → Prop}

theorem nil : Within P [] := ⟨rfl, fun _ h => absurd h List.not_mem_nil, fun _ h => nomatch h⟩

theorem append (hps : Within P ps) (hqs : Within P qs) : Within P (ps ++ qs) where
  settled := hps.settled.append hqs.settled
  language w h := (List.mem_append.1 h).elim (hps.language w) (hqs.language w)
  declared w h := by
    rw [declared_append hps.settled] at h
    exact (List.mem_append.1 h).elim (hps.declared w) (hqs.declared w)

theorem flatMap {α : Type} {xs : List α} {f : α → List Piece} (h : ∀ x ∈ xs, Within P (f x)) :
    Within P (xs.flatMap f) := by
  induction xs with
  | nil => exact nil
  | cons x xs ih =>
    obtain ⟨hx, hxs⟩ := List.forall_mem_cons.1 h
    exact hx.append (ih hxs)

theorem mono (h : Within P ps) (hPQ : ∀ w, P w → Q w) : Within Q ps where
  settled := h.settled
  language w hw hlanguage := hPQ _ (h.language w hw hlanguage)
  declared w hw := hPQ _ (h.declared w hw)

/-- Such pieces name no other types. -/
theorem of_namesType (h : Within P ps) {x : String} (hx : NamesType ps x) :
    ∃ w, String.ofList w = x ∧ P w := by
  obtain ⟨⟨v, hv, hmention⟩, hlanguage | ⟨w, hw, hdeclared⟩⟩ := hx
  · exact ⟨bare v, hmention, h.language v (word_mem_of_mentioned hv) (hmention ▸ hlanguage)⟩
  · exact ⟨bare w, hdeclared, h.declared w hw⟩

end Within

end TopDown.Emission
