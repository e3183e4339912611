import TopDown.Emission.Fragment
import TopDown.Proofs.Text.Lines
import TopDown.Proofs.Text.Literal

/-!
# Emitted source without its layout

Blanks, line breaks and commas that stand outside string literals only lay emitted source out. What
is left of a text without them does not depend on where its lists are broken or how deep it is
indented.

* `Region`, `condenseFrom` : a text without the layout of its code, literals kept as they are;
* `Condenses` : a text that starts and ends outside literals and breaks no line inside one, and
  what is left of it; `Condenses.append`;
* `condenses_of_isCode`, `condenses_quoteString` : texts without literals, and literals;
* `Layout.Spells`, `Layout.Spells.render` : what is left of a layout, however it is broken;
  `Code.Spells`, `Code.Spells.render` : what is left of code, however deep it is indented;
* `condenseFrom_indentText` : what is left of an indented text and what follows it.
-/

namespace TopDown.Emission

open Text

/-! ## Regions -/

/-- Where a character of emitted source stands. -/
inductive Region where
  | code
  | literal
  /-- Inside a literal, directly behind a backslash. -/
  | escape
  deriving DecidableEq

def Region.next : Region → Char → Region
  | code, c => if c = '"' then literal else code
  | literal, c => if c = '"' then code else if c = '\\' then escape else literal
  | escape, _ => literal

/-- A character that only lays code out. -/
def isLoose (c : Char) : Bool := c == ' ' || c == '\n' || c == ','

/-- A text without the loose characters of its code. -/
def condenseFrom (p : Region) : List Char → List Char
  | [] => []
  | c :: s => if p = .code ∧ isLoose c then condenseFrom p s else c :: condenseFrom (p.next c) s

/-- Lines are broken outside literals only, and by line feeds only. -/
def Tame (p : Region) : List Char → Prop
  | [] => True
  | c :: s => c ≠ '\r' ∧ (c = '\n' → p = .code) ∧ Tame (p.next c) s

variable {p : Region} {c : Char} {s t v w : List Char}

theorem next_of_isLoose (hc : isLoose c = true) : Region.next .code c = .code := by
  simp only [isLoose, Bool.or_eq_true, beq_iff_eq] at hc
  rcases hc with (rfl | rfl) | rfl <;> rfl

theorem condenseFrom_append (p : Region) (s t : List Char) : condenseFrom p (s ++ t) =
    condenseFrom p s ++ condenseFrom (s.foldl Region.next p) t := by
  induction s generalizing p with
  | nil => rfl
  | cons c s ih =>
    rw [List.cons_append, condenseFrom, condenseFrom, List.foldl_cons]
    split
    · rename_i h
      rw [ih, h.1, next_of_isLoose h.2]
    · rw [ih, List.cons_append]

theorem tame_append (hs : Tame p s) (ht : Tame (s.foldl Region.next p) t) : Tame p (s ++ t) := by
  induction s generalizing p with
  | nil => exact ht
  | cons c s ih => exact ⟨hs.1, hs.2.1, ih hs.2.2 ht⟩

/-! ## Condensed texts -/

/-- The text starts and ends outside literals, breaks no line inside one, and has `w` left when it
is condensed. -/
structure Condenses (s w : List Char) : Prop where
  closed : s.foldl Region.next .code = .code
  tame : Tame .code s
  condense : condenseFrom .code s = w

theorem Condenses.append (hs : Condenses s v) (ht : Condenses t w) :
    Condenses (s ++ t) (v ++ w) where
  closed := by rw [List.foldl_append, hs.closed, ht.closed]
  tame := tame_append hs.tame (by rw [hs.closed]; exact ht.tame)
  condense := by rw [condenseFrom_append, hs.condense, hs.closed, ht.condense]

/-- What is left of a text without literals. -/
def tight (s : List Char) : List Char := s.filter (!isLoose ·)

/-- No literal starts in the text. -/
def IsCode (s : List Char) : Prop := ∀ c ∈ s, c ≠ '"' ∧ c ≠ '\r'

instance (s : List Char) : Decidable (IsCode s) :=
  decidable_of_iff (s.all fun c => c ≠ '"' ∧ c ≠ '\r') (by simp [IsCode])

/-- The characters of a string constant are looked at without decoding its bytes. -/
theorem isCode_ofList (h : (s.all fun c => c ≠ '"' ∧ c ≠ '\r') = true) :
    IsCode (String.ofList s).toList := by
  rw [String.toList_ofList]
  simpa [IsCode] using h

theorem tight_toList_append (s t : String) :
    tight (s ++ t).toList = tight s.toList ++ tight t.toList := by
  rw [String.toList_append, tight, List.filter_append]
  rfl

theorem IsCode.append (hs : IsCode s) (ht : IsCode t) : IsCode (s ++ t) :=
  List.forall_mem_append.2 ⟨hs, ht⟩

theorem condenses_of_isCode (h : IsCode s) : Condenses s (tight s) := by
  induction s with
  | nil => exact ⟨rfl, trivial, rfl⟩
  | cons c s ih =>
    obtain ⟨hc, hs⟩ := List.forall_mem_cons.1 h
    have hnext : Region.next .code c = .code := if_neg hc.1
    obtain ⟨hclosed, htame, hcondense⟩ := ih hs
    refine ⟨by rw [List.foldl_cons, hnext, hclosed], ⟨hc.2, fun _ => rfl, hnext.symm ▸ htame⟩, ?_⟩
    cases hloose : isLoose c with
    | true => simp [condenseFrom, tight, hloose, hcondense]
    | false => simp [condenseFrom, tight, hloose, hnext, hcondense]

theorem condenses_spaces (n : Nat) : Condenses (spaces n).toList [] := by
  have hcode : IsCode (List.replicate n ' ') := by
    intro c hc
    rw [List.eq_of_mem_replicate hc]
    decide
  have htight : tight (List.replicate n ' ') = [] := by
    rw [tight, List.filter_replicate]
    rfl
  rw [spaces, String.toList_ofList]
  exact htight ▸ condenses_of_isCode hcode

/-- The body of a literal leads to the quote behind it, breaks no line and is kept. -/
theorem body_stays (h : Literal.Body s) : s.foldl Region.next .literal = .literal ∧
    Tame .literal s ∧ condenseFrom .literal s = s := by
  induction h with
  | nil => exact ⟨rfl, trivial, rfl⟩
  | @plain c s hc _ ih =>
    obtain ⟨hquote, hbackslash, hfeed, hreturn⟩ := hc
    obtain ⟨hstays, htame, hkept⟩ := ih
    have hnext : Region.next .literal c = .literal := by
      simp only [Region.next, if_neg hquote, if_neg hbackslash]
    exact ⟨by rw [List.foldl_cons, hnext, hstays],
      ⟨hreturn, fun h => absurd h hfeed, hnext.symm ▸ htame⟩, by simp [condenseFrom, hnext, hkept]⟩
  | @escaped c s hfeed hreturn _ ih =>
    obtain ⟨hstays, htame, hkept⟩ := ih
    have hnext : Region.next .literal '\\' = .escape := rfl
    have hnext' : Region.next .escape c = .literal := rfl
    exact ⟨by rw [List.foldl_cons, List.foldl_cons, hnext, hnext', hstays],
      ⟨by decide, fun h => absurd h (by decide), hreturn, fun h => absurd h hfeed, htame⟩,
      by simp [condenseFrom, hnext, hnext', hkept]⟩

theorem condenses_quoteString (s : String) :
    Condenses (quoteString s).toList (quoteString s).toList := by
  obtain ⟨hstays, htame, hkept⟩ := body_stays (Literal.body_escapeString s.toList)
  have htext : (quoteString s).toList = '"' :: ((escapeString s.toList).toList ++ ['"']) := by
    simp [quoteString]
  rw [htext]
  refine ⟨?_, ⟨by decide, fun h => absurd h (by decide), tame_append htame ?_⟩, ?_⟩
  · rw [List.foldl_cons, List.foldl_append, show Region.next .code '"' = .literal from rfl, hstays]
    rfl
  · rw [show Region.next .code '"' = .literal from rfl, hstays]
    exact ⟨by decide, fun h => absurd h (by decide), trivial⟩
  · have hquote : condenseFrom .literal ['"'] = ['"'] := rfl
    have hopen : ¬ (Region.code = .code ∧ isLoose '"' = true) := by decide
    rw [condenseFrom, if_neg hopen, show Region.next .code '"' = .literal from rfl,
      condenseFrom_append, hstays, hkept, hquote]

/-! ## Layouts -/

mutual

/-- What is left of a layout. -/
inductive Layout.Spells : Layout → List Char → Prop where
  | atom {text : String} {w : List Char} : Condenses text.toList w → Spells (.atom text) w
  | list {opening closing : String} {items : List Layout} {u v w : List Char} :
    Condenses opening.toList u → Layout.AllSpell items v → Condenses closing.toList w →
      Spells (.list opening closing items) (u ++ (v ++ w))

/-- What is left of layouts in a row. -/
inductive Layout.AllSpell : List Layout → List Char → Prop where
  | nil : AllSpell [] []
  | cons {i : Layout} {is : List Layout} {v w : List Char} :
    Layout.Spells i v → AllSpell is w → AllSpell (i :: is) (v ++ w)

end

theorem condenses_break : Condenses "\n".toList [] := condenses_of_isCode (by decide)

namespace Layout

theorem allSpell_map {α : Type} {item : α → Layout} {w : α → List Char} {xs : List α}
    (h : ∀ x ∈ xs, (item x).Spells (w x)) : AllSpell (xs.map item) (xs.flatMap w) := by
  induction xs with
  | nil => exact .nil
  | cons x xs ih =>
    obtain ⟨hx, hxs⟩ := List.forall_mem_cons.1 h
    exact .cons hx (ih hxs)

mutual

theorem Spells.flat {l : Layout} {w : List Char} (h : l.Spells w) : Condenses l.flat.toList w := by
  cases h with
  | atom htext => exact htext
  | list hopening hitems hclosing =>
    rw [Layout.flat, String.toList_append, String.toList_append, List.append_assoc]
    exact hopening.append (hitems.flat.append hclosing)

theorem AllSpell.flat {is : List Layout} {w : List Char} (h : AllSpell is w) :
    Condenses (flatItems is).toList w := by
  cases h with
  | nil => exact ⟨rfl, trivial, rfl⟩
  | @cons i is v w hi his =>
    cases is with
    | nil =>
      cases his
      rw [List.append_nil]
      exact hi.flat
    | cons j is =>
      rw [flatItems, String.toList_append, String.toList_append, List.append_assoc]
      exact hi.flat.append ((condenses_of_isCode (s := ", ".toList) (by decide)).append his.flat)

end

theorem condenses_commaBreak : Condenses ",\n".toList [] := condenses_of_isCode (by decide)

mutual

/-- Where a layout is broken leaves nothing. -/
theorem Spells.render {l : Layout} {w : List Char} (h : l.Spells w) (indent column after : Nat) :
    Condenses (l.render indent column after).toList w := by
  cases h with
  | atom htext => exact htext
  | list hopening hitems hclosing =>
    rw [Layout.render]
    split
    · exact (Spells.list hopening hitems hclosing).flat
    · simp only [String.toList_append, List.append_assoc]
      exact hopening.append (condenses_break.append ((hitems.render _).append
        ((condenses_spaces indent).append hclosing)))

theorem AllSpell.render {is : List Layout} {w : List Char} (h : AllSpell is w) (indent : Nat) :
    Condenses (renderItems indent is).toList w := by
  cases h with
  | nil => exact ⟨rfl, trivial, rfl⟩
  | @cons i is v w hi his =>
    cases is with
    | nil =>
      cases his
      rw [renderItems, String.toList_append, String.toList_append, List.append_assoc]
      exact (condenses_spaces indent).append ((hi.render _ _ _).append condenses_commaBreak)
    | cons j is =>
      simp only [renderItems, String.toList_append, List.append_assoc]
      exact (condenses_spaces indent).append ((hi.render _ _ _).append
        (condenses_commaBreak.append (his.render indent)))

end

end Layout

/-! ## Code -/

mutual

/-- What is left of code. -/
inductive Code.Spells : Code → List Char → Prop where
  | line {text : String} {w : List Char} : Condenses text.toList w → Spells (.line text) w
  | nest {first last : String} {body : List Code} {u v w : List Char} :
    Condenses first.toList u → Code.AllSpell body v → Condenses last.toList w →
      Spells (.nest first body (some last)) (u ++ (v ++ w))

/-- What is left of code in a row. -/
inductive Code.AllSpell : List Code → List Char → Prop where
  | nil : AllSpell [] []
  | cons {c : Code} {cs : List Code} {v w : List Char} :
    Code.Spells c v → AllSpell cs w → AllSpell (c :: cs) (v ++ w)

end

namespace Code

theorem AllSpell.append_map {α : Type} {code : α → Code} {w : α → List Char} {xs : List α}
    (h : ∀ x ∈ xs, (code x).Spells (w x)) {cs : List Code} {v : List Char} (hcs : AllSpell cs v) :
    AllSpell (xs.map code ++ cs) (xs.flatMap w ++ v) := by
  induction xs with
  | nil => exact hcs
  | cons x xs ih =>
    obtain ⟨hx, hxs⟩ := List.forall_mem_cons.1 h
    rw [List.map_cons, List.cons_append, List.flatMap_cons, List.append_assoc]
    exact .cons hx (ih hxs)

theorem condenses_line {text : String} {w : List Char} (h : Condenses text.toList w)
    (indent : Nat) : Condenses (spaces indent ++ text ++ "\n").toList w := by
  have hline := (condenses_spaces indent).append (h.append condenses_break)
  rwa [List.nil_append, List.append_nil, ← List.append_assoc, ← String.toList_append,
    ← String.toList_append] at hline

mutual

/-- The indentation of code leaves nothing. -/
theorem Spells.render {c : Code} {w : List Char} (h : c.Spells w) (indent : Nat) :
    Condenses (c.render indent).toList w := by
  cases h with
  | line htext => exact condenses_line htext indent
  | nest hfirst hbody hlast =>
    rw [Code.render, String.toList_append, String.toList_append, List.append_assoc]
    exact (condenses_line hfirst indent).append
      ((hbody.render _).append (condenses_line hlast indent))

theorem AllSpell.render {cs : List Code} {w : List Char} (h : AllSpell cs w) (indent : Nat) :
    Condenses (renderAll indent cs).toList w := by
  cases h with
  | nil => exact ⟨rfl, trivial, rfl⟩
  | cons hc hcs =>
    rw [renderAll, String.toList_append]
    exact (hc.render indent).append (hcs.render indent)

end

end Code

/-! ## Indentation -/

/-- The lines of a text with their indentation, but for that of the first one, and `rest` behind
them. -/
def indentRest (depth : Nat) (rest : List Char) : List (List Char) → List Char
  | [] => '\n' :: rest
  | l :: ls => l ++ '\n' :: ((ls.flatMap fun l => (indentLine depth l).toList) ++ rest)

theorem indentRest_consLine (depth : Nat) (rest : List Char) (c : Char) (ls : List (List Char)) :
    indentRest depth rest (consLine c ls) = c :: indentRest depth rest ls := by
  cases ls <;> rfl

theorem condenseFrom_indentLine (depth : Nat) (l rest : List Char) :
    condenseFrom .code ((indentLine depth l).toList ++ rest) =
      condenseFrom .code (l ++ '\n' :: rest) := by
  unfold indentLine
  split
  · rename_i hl
    rw [List.isEmpty_iff.1 hl]
    rfl
  · have hspaces := condenses_spaces (indentWidth * depth)
    simp only [String.toList_append, String.toList_ofList, List.append_assoc]
    rw [condenseFrom_append, hspaces.condense, hspaces.closed]
    rfl

/-- In front of a whole line the indentation that is missing leaves nothing. -/
theorem condenseFrom_flatMap_indentLine (depth : Nat) (ls : List (List Char)) (rest : List Char) :
    condenseFrom .code ((ls.flatMap fun l => (indentLine depth l).toList) ++ rest) =
      condenseFrom .code (indentRest depth rest ls) := by
  cases ls with
  | nil => rfl
  | cons l ls => rw [List.flatMap_cons, List.append_assoc, condenseFrom_indentLine, indentRest]

/-- Indentation leaves nothing of a text that breaks its lines outside literals. -/
theorem condenseFrom_indentRest (htame : Tame p s) (hclosed : s.foldl Region.next p = .code)
    (depth : Nat) (rest : List Char) :
    condenseFrom p (indentRest depth rest (lines s)) = condenseFrom p (s ++ rest) := by
  fun_induction lines s generalizing p with
  | case1 =>
    cases hclosed
    rfl
  | case2 s ih =>
    cases htame.2.1 rfl
    have hrest := ih htame.2.2 hclosed
    have hfeed (t : List Char) : condenseFrom .code ('\n' :: t) = condenseFrom .code t := rfl
    rw [indentRest, List.nil_append, List.cons_append, hfeed, hfeed,
      condenseFrom_flatMap_indentLine]
    exact hrest
  | case3 s => exact absurd rfl htame.1
  | case4 c s _ _ ih =>
    have hrest := ih htame.2.2 hclosed
    rw [indentRest_consLine, List.cons_append, condenseFrom, condenseFrom]
    split
    · rename_i h
      rw [h.1, next_of_isLoose h.2] at hrest
      rw [h.1, hrest]
    · rw [hrest]

/-- A text is condensed to the same however deep it is indented. -/
theorem condenseFrom_indentText {text : String} (h : Condenses text.toList w) (depth : Nat)
    (rest : List Char) : condenseFrom .code ((indentText depth text).toList ++ rest) =
      w ++ condenseFrom .code rest := by
  have hrest : condenseFrom .code (text.toList ++ rest) = w ++ condenseFrom .code rest := by
    rw [condenseFrom_append, h.condense, h.closed]
  unfold indentText
  split
  · exact hrest
  · rw [String.toList_join, List.flatMap_map, condenseFrom_flatMap_indentLine,
      condenseFrom_indentRest h.tame h.closed, hrest]

end TopDown.Emission
