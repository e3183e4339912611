import TopDown.Proofs.Emission.Condensed
import TopDown.Proofs.Machine.Leftmost
import TopDown.Proofs.Standalone.Prediction

/-!
# Emitted tables determine what they were made of

Condensed, every part of the emitted tables tells where it ends: a literal by its quote, a number by
the character behind it, a list by the bracket that none of its items starts with. So equal texts
are made of equal tables, wherever their lists are broken and however deep they are indented.

* `Delimits` : texts of values that tell where they end; `digits_append_inj`, `flatMap_append_inj` :
  numbers and rows of items do, before what they cannot be read on into;
* `delimits_row`, `delimits_production`, `delimits_arm` : so do the parts of tables;
* `Faithful` : a text with tokens that determine its value, however it is laid out;
* `Tables.tokens` : the tokens of tables; `faithful_render` : those of their text;
* `KeepsTokens` : printers of tables that write these tokens in any layout;
  `keepsTokens_tablesFragment` : the fragments of tables are printed by one;
* `tablesFragment_determines` : equal fragments, or equal texts of such printers, are made of equal
  grammars, equal rule rows and tables that predict alike.
-/

namespace TopDown.Emission

open Text

/-! ## Texts that tell where they end -/

/-- Whatever stands behind the text of a value, the value and what stands behind it can be told. -/
def Delimits {α : Type} (w : α → List Char) : Prop :=
  ∀ {a b : α} {r s : List Char}, w a ++ r = w b ++ s → a = b ∧ r = s

/-- The digits of a number. -/
abbrev digits (n : Nat) : List Char := Nat.toDigits 10 n

theorem toList_toString (n : Nat) : (toString n).toList = digits n := by
  rw [Nat.toString_eq_repr, Nat.toList_repr]

theorem isDigit_of_mem_digits {n : Nat} : ∀ c ∈ digits n, c.isDigit = true :=
  fun _ hc => Nat.isDigit_of_mem_toDigits (by decide) (by decide) hc

/-- Numbers tell where they end before what is no digit. -/
theorem digits_append_inj {m n : Nat} {r s : List Char} (hr : Stops Char.isDigit r)
    (hs : Stops Char.isDigit s) (h : digits m ++ r = digits n ++ s) : m = n ∧ r = s := by
  have hdigits : digits m = digits n := by
    rw [← takeWhile_append_stop isDigit_of_mem_digits hr, h,
      takeWhile_append_stop isDigit_of_mem_digits hs]
  refine ⟨?_, List.append_cancel_left (hdigits ▸ h)⟩
  calc
    m = Nat.ofDigitChars 10 (digits m) 0 := Nat.ofDigitChars_ten_toDigits.symm
    _ = Nat.ofDigitChars 10 (digits n) 0 := by rw [hdigits]
    _ = n := Nat.ofDigitChars_ten_toDigits

theorem digits_cons_inj {m n : Nat} {c : Char} (hc : c.isDigit = false) {r s : List Char}
    (h : digits m ++ c :: r = digits n ++ c :: s) : m = n ∧ r = s := by
  obtain ⟨hn, hrest⟩ := digits_append_inj (stops_cons hc r) (stops_cons hc s) h
  exact ⟨hn, (List.cons.inj hrest).2⟩

/-- Items in a row tell where they end if a character stands behind them that none starts with. -/
theorem flatMap_append_inj {α : Type} {w : α → List Char} (hw : Delimits w) {c : Char}
    (hc : ∀ a, (w a).head? ≠ none ∧ (w a).head? ≠ some c) {xs ys : List α} {r s : List Char}
    (h : xs.flatMap w ++ c :: r = ys.flatMap w ++ c :: s) : xs = ys ∧ r = s := by
  have hstop (a : α) (t r : List Char) : c :: r ≠ w a ++ t := by
    intro heq
    obtain ⟨hne, hhead⟩ := hc a
    cases ha : w a with
    | nil => exact hne (by rw [ha]; rfl)
    | cons d u =>
      rw [ha] at heq hhead
      exact hhead (congrArg some (List.cons.inj heq).1.symm)
  induction xs generalizing ys with
  | nil =>
    cases ys with
    | nil => exact ⟨rfl, (List.cons.inj h).2⟩
    | cons y ys =>
      rw [List.flatMap_cons, List.append_assoc] at h
      exact absurd h (hstop y _ r)
  | cons x xs ih =>
    rw [List.flatMap_cons, List.append_assoc] at h
    cases ys with
    | nil => exact absurd h.symm (hstop x _ s)
    | cons y ys =>
      rw [List.flatMap_cons, List.append_assoc] at h
      obtain ⟨rfl, htail⟩ := hw h
      obtain ⟨rfl, rfl⟩ := ih htail
      exact ⟨rfl, rfl⟩

/-! ## Atoms -/

/-- A text without literals that has nothing loose in it. -/
def IsTight (s : List Char) : Prop := ∀ c ∈ s, (c ≠ '"' ∧ c ≠ '\r') ∧ isLoose c = false

instance (s : List Char) : Decidable (IsTight s) :=
  decidable_of_iff (s.all fun c => (c ≠ '"' ∧ c ≠ '\r') ∧ isLoose c = false) (by simp [IsTight])

theorem isTight_ofList {s : List Char}
    (h : (s.all fun c => (c ≠ '"' ∧ c ≠ '\r') ∧ isLoose c = false) = true) :
    IsTight (String.ofList s).toList := by
  rw [String.toList_ofList]
  simpa [IsTight] using h

theorem condenses_of_isTight {s : List Char} (h : IsTight s) : Condenses s s := by
  have htight : tight s = s := List.filter_eq_self.2 fun c hc => by simp [(h c hc).2]
  have hcode := condenses_of_isCode fun c hc => (h c hc).1
  rwa [htight] at hcode

theorem IsTight.append {s t : List Char} (hs : IsTight s) (ht : IsTight t) : IsTight (s ++ t) :=
  List.forall_mem_append.2 ⟨hs, ht⟩

theorem isTight_digits (n : Nat) : IsTight (digits n) := by
  intro c hc
  have hdigit := isDigit_of_mem_digits c hc
  refine ⟨⟨?_, ?_⟩, ?_⟩
  · rintro rfl
    cases hdigit
  · rintro rfl
    cases hdigit
  · simp only [isLoose, Bool.or_eq_false_iff, beq_eq_false_iff_ne]
    refine ⟨⟨?_, ?_⟩, ?_⟩ <;>
    · rintro rfl
      cases hdigit

theorem condenses_toString (n : Nat) : Condenses (toString n).toList (digits n) := by
  rw [toList_toString]
  exact condenses_of_isTight (isTight_digits n)

/-- A number and a closing parenthesis behind `head`. -/
def call (head : String) (n : Nat) : List Char := head.toList ++ (digits n ++ [')'])

theorem toList_call (head : String) (n : Nat) :
    (head ++ toString n ++ ")").toList = call head n := by
  rw [String.toList_append, String.toList_append, toList_toString, List.append_assoc]
  rfl

theorem delimits_call (head : String) : Delimits (call head) := by
  intro m n r s h
  simp only [call, List.append_assoc, List.append_cancel_left_eq] at h
  exact digits_cons_inj rfl h

theorem isTight_call (head : String) (h : IsTight head.toList) (n : Nat) : IsTight (call head n) :=
  h.append ((isTight_digits n).append (by decide))

/-- The text of an option, character by character. -/
theorem toList_optionText (o : Option Nat) :
    (optionText o).toList = o.elim "None".toList (call "Some(") := by
  cases o with
  | none => rfl
  | some n => exact toList_call "Some(" n

theorem isTight_optionText (o : Option Nat) : IsTight (optionText o).toList := by
  rw [toList_optionText]
  cases o with
  | none => decide
  | some n => exact isTight_call "Some(" (by decide) n

theorem delimits_optionText : Delimits fun o => (optionText o).toList := by
  intro o o' r s h
  simp only [toList_optionText] at h
  cases o <;> cases o'
  case none.none => exact ⟨rfl, List.append_cancel_left h⟩
  case some.some m n =>
    obtain ⟨rfl, hrest⟩ := delimits_call "Some(" h
    exact ⟨rfl, hrest⟩
  all_goals exact absurd (List.cons.inj h).1 (by decide)

theorem stops_optionText (o : Option Nat) (s : List Char) :
    Stops Char.isDigit ((optionText o).toList ++ s) := by
  rw [toList_optionText]
  cases o <;> exact stops_cons rfl _

/-- The text of a symbol, character by character. -/
theorem toList_symbolText (s : Symbol) : (symbolText s).toList = match s with
    | .terminal id => call "Symbol::Terminal(" id
    | .nonterminal id => call "Symbol::Nonterminal(" id
    | .empty => "Symbol::Empty".toList := by
  cases s with
  | terminal id => exact toList_call "Symbol::Terminal(" id
  | nonterminal id => exact toList_call "Symbol::Nonterminal(" id
  | empty => rfl

theorem isTight_symbolText (s : Symbol) : IsTight (symbolText s).toList := by
  rw [toList_symbolText]
  cases s with
  | terminal id => exact isTight_call "Symbol::Terminal(" (isTight_ofList (by decide +kernel)) id
  | nonterminal id =>
    exact isTight_call "Symbol::Nonterminal(" (isTight_ofList (by decide +kernel)) id
  | empty => exact isTight_ofList (by decide +kernel)

theorem delimits_symbolText : Delimits fun s => (symbolText s).toList := by
  intro s s' r r' h
  simp only [toList_symbolText] at h
  cases s <;> cases s'
  case terminal.terminal id id' =>
    obtain ⟨rfl, hrest⟩ := delimits_call "Symbol::Terminal(" h
    exact ⟨rfl, hrest⟩
  case nonterminal.nonterminal id id' =>
    obtain ⟨rfl, hrest⟩ := delimits_call "Symbol::Nonterminal(" h
    exact ⟨rfl, hrest⟩
  case empty.empty => exact ⟨rfl, List.append_cancel_left h⟩
  -- symbols of different kinds differ in the ninth character
  all_goals
    have hkind := congrArg (·[8]?) h
    simp [call] at hkind

/-! ## Slices and tuples -/

variable {α : Type} {item : α → Layout} {w : α → List Char}

/-- A slice of items, condensed. -/
def slice (w : α → List Char) (xs : List α) : List Char :=
  ['&', '['] ++ (xs.flatMap w ++ [']'])

theorem spells_sliceLayout {xs : List α} (h : ∀ x ∈ xs, (item x).Spells (w x)) :
    (sliceLayout (xs.map item)).Spells (slice w xs) :=
  .list (condenses_of_isTight (by decide)) (Layout.allSpell_map h)
    (condenses_of_isTight (by decide))

/-- No item of a slice is taken for its end. -/
theorem delimits_slice (hw : Delimits w)
    (hstop : ∀ a, (w a).head? ≠ none ∧ (w a).head? ≠ some ']') : Delimits (slice w) := by
  intro xs ys r s h
  simp only [slice, List.append_assoc, List.append_cancel_left_eq] at h
  exact flatMap_append_inj hw hstop h

theorem spells_tupleLayout {items : List Layout} {v : List Char} (h : Layout.AllSpell items v) :
    (tupleLayout items).Spells (['('] ++ (v ++ [')'])) :=
  .list (condenses_of_isTight (by decide)) h (condenses_of_isTight (by decide))

theorem spells_quoteString (s : String) :
    (Layout.atom (quoteString s)).Spells (quoteString s).toList := .atom (condenses_quoteString s)

theorem delimits_quoteString : Delimits fun s => (quoteString s).toList := quoteString_append_inj

/-- Names in a slice of literals, condensed. -/
def names : List String → List Char := slice fun s => (quoteString s).toList

theorem spells_stringsLayout (xs : List String) : (stringsLayout xs).Spells (names xs) :=
  spells_sliceLayout fun s _ => spells_quoteString s

theorem delimits_names : Delimits names := by
  refine delimits_slice delimits_quoteString fun s => ?_
  have hhead : (quoteString s).toList.head? = some '"' := by simp [quoteString]
  rw [hhead]
  decide

/-- The row of a rule, condensed. -/
def row (r : RuleRow) : List Char :=
  ['('] ++ (((quoteString r.name).toList ++ ((quoteString r.pattern).toList ++
    ((optionText r.terminal).toList ++ (digits r.priority ++ [])))) ++ [')'])

theorem spells_ruleLayout (r : RuleRow) : (ruleLayout r).Spells (row r) :=
  spells_tupleLayout (.cons (spells_quoteString _) (.cons (spells_quoteString _)
    (.cons (.atom (condenses_of_isTight (isTight_optionText _)))
      (.cons (.atom (condenses_toString _)) .nil))))

theorem delimits_row : Delimits row := by
  intro r r' s s' h
  simp only [row, List.append_assoc, List.append_cancel_left_eq, List.nil_append] at h
  obtain ⟨hname, hbehindName⟩ := quoteString_append_inj h
  obtain ⟨hpattern, hbehindPattern⟩ := quoteString_append_inj hbehindName
  obtain ⟨hterminal, hbehindTerminal⟩ := delimits_optionText hbehindPattern
  obtain ⟨hpriority, hend⟩ := digits_cons_inj rfl hbehindTerminal
  refine ⟨?_, hend⟩
  cases r
  cases r'
  exact RuleRow.mk.injEq .. ▸ ⟨hname, hpattern, hterminal, hpriority⟩

/-- A body, condensed. -/
def body : List Symbol → List Char := slice fun s => (symbolText s).toList

theorem delimits_body : Delimits body := by
  refine delimits_slice delimits_symbolText fun s => ?_
  have hhead : (symbolText s).toList.head? = some 'S' := by
    rw [toList_symbolText]
    cases s <;> rfl
  rw [hhead]
  decide

/-- A production, condensed. -/
def production (p : Production) : List Char :=
  ['('] ++ ((digits p.lhs ++ (body p.body ++ [])) ++ [')'])

theorem spells_productionLayout (p : Production) : (productionLayout p).Spells (production p) :=
  spells_tupleLayout (.cons (.atom (condenses_toString _)) (.cons
    (spells_sliceLayout fun s _ => .atom (condenses_of_isTight (isTight_symbolText s))) .nil))

theorem delimits_production : Delimits production := by
  intro p p' s s' h
  simp only [production, List.append_assoc, List.append_cancel_left_eq, List.nil_append] at h
  obtain ⟨hlhs, hbehindLhs⟩ :=
    digits_append_inj (stops_cons rfl _) (stops_cons rfl _) h
  obtain ⟨hbody, hend⟩ := delimits_body hbehindLhs
  refine ⟨?_, (List.cons.inj hend).2⟩
  cases p
  cases p'
  exact Production.mk.injEq .. ▸ ⟨hlhs, hbody⟩

/-- The case of a cell, condensed. -/
def arm (a : Arm) : List Char :=
  ['('] ++ (digits a.nonterminal ++ ((optionText a.lookahead).toList ++
    (")=>Some(".toList ++ (digits a.production ++ [')']))))

theorem delimits_arm : Delimits arm := by
  intro a a' s s' h
  simp only [arm, List.append_assoc, List.append_cancel_left_eq] at h
  obtain ⟨hnonterminal, hbehind⟩ :=
    digits_append_inj (stops_optionText _ _) (stops_optionText _ _) h
  obtain ⟨hlookahead, hbehindLookahead⟩ := delimits_optionText hbehind
  rw [List.append_cancel_left_eq] at hbehindLookahead
  obtain ⟨hproduction, hend⟩ := digits_cons_inj rfl hbehindLookahead
  refine ⟨?_, hend⟩
  cases a
  cases a'
  exact Arm.mk.injEq .. ▸ ⟨hnonterminal, hlookahead, hproduction⟩

/-! ## Code -/

theorem spells_armCode (a : Arm) : (armCode a).Spells (arm a) := by
  have hopen : Condenses "(".toList ['('] := condenses_of_isCode (by decide)
  have hcomma : Condenses ", ".toList [] := condenses_of_isCode (by decide)
  have harrow : Condenses ") => Some(".toList ")=>Some(".toList :=
    condenses_of_isCode (by decide)
  have hend : Condenses "),".toList [')'] := condenses_of_isCode (by decide)
  have hline := hopen.append ((condenses_toString a.nonterminal).append (hcomma.append
    ((condenses_of_isTight (isTight_optionText a.lookahead)).append
      (harrow.append ((condenses_toString a.production).append hend)))))
  refine .line ?_
  simpa only [arm, String.toList_append, List.append_assoc, List.nil_append] using hline

/-- The cases of the prediction function, and the underscore of the case behind them. -/
def arms (as : List Arm) : List Char := as.flatMap arm ++ ['_']

theorem arms_append_inj {as bs : List Arm} {r s : List Char} (h : arms as ++ r = arms bs ++ s) :
    as = bs ∧ r = s := by
  simp only [arms, List.append_assoc] at h
  exact flatMap_append_inj delimits_arm (fun a => ⟨by simp [arm], by simp [arm]⟩) h

/-- Texts of code in a row, without blanks, line breaks and commas. -/
def written (texts : List String) : List Char := texts.flatMap fun text => tight text.toList

theorem spells_line {text : String} (h : IsCode text.toList) :
    (Code.line text).Spells (tight text.toList) := .line (condenses_of_isCode h)

/-- The type of symbols, condensed. -/
def symbolTokens : List Char :=
  written ["#[derive(Copy, Debug, Eq, Clone, PartialEq)]", "pub enum Symbol", " \x7b",
    "Terminal(usize),", "Nonterminal(usize),", "Empty,", "\x7d"]

theorem allSpell_symbolType : Code.AllSpell symbolType symbolTokens := by
  have hvariants : Code.AllSpell [.line "Terminal(usize),", .line "Nonterminal(usize),",
      .line "Empty,"] _ :=
    .cons (spells_line (isCode_ofList (by decide +kernel))) (.cons
      (spells_line (isCode_ofList (by decide +kernel)))
        (.cons (spells_line (isCode_ofList (by decide +kernel))) .nil))
  have hfirst : Condenses ("pub enum Symbol" ++ " \x7b").toList _ :=
    condenses_of_isCode (by decide +kernel)
  have hlast : Condenses ("\x7d" ++ "").toList (tight "\x7d".toList) :=
    condenses_of_isCode (by decide)
  have htype : Code.AllSpell symbolType _ :=
    .cons (spells_line (isCode_ofList (by decide +kernel)))
      (.cons (.nest hfirst hvariants hlast) .nil)
  simpa only [symbolTokens, written, tight_toList_append, List.flatMap_cons, List.flatMap_nil,
    List.append_assoc, List.append_nil] using htype

/-- The head of the prediction function and of its cases, condensed. -/
def predictHead : List Char :=
  written ["/// Production to expand for a nonterminal and lookahead terminal,",
    "/// with `None` standing for the end of input.",
    "pub fn predict(nonterminal: usize, lookahead: Option<usize>) -> Option<usize>", " \x7b",
    "match (nonterminal, lookahead)", " \x7b"]

/-- The end of the prediction function behind the underscore of its last case, condensed. -/
def predictEnd : List Char := written ["=> None,", "\x7d", "\x7d"]

theorem allSpell_predictCode (as : List Arm) :
    Code.AllSpell (predictCode as) (predictHead ++ (arms as ++ predictEnd)) := by
  have hlast : Condenses "_ => None,".toList (['_'] ++ tight "=> None,".toList) :=
    condenses_of_isCode (by decide)
  have hcases := Code.AllSpell.append_map (fun a (_ : a ∈ as) => spells_armCode a)
    (.cons (.line hlast) .nil)
  have hmatch : Condenses ("match (nonterminal, lookahead)" ++ " \x7b").toList _ :=
    condenses_of_isCode (by decide +kernel)
  have hfunction : Condenses
      ("pub fn predict(nonterminal: usize, lookahead: Option<usize>) -> Option<usize>" ++
        " \x7b").toList _ := condenses_of_isCode (by decide +kernel)
  have hbrace : Condenses ("\x7d" ++ "").toList (tight "\x7d".toList) :=
    condenses_of_isCode (by decide)
  have hcode : Code.AllSpell (predictCode as) _ :=
    .cons (spells_line (isCode_ofList (by decide +kernel))) (.cons
      (spells_line (isCode_ofList (by decide +kernel))) (.cons
        (.nest hfunction (.cons (.nest hmatch hcases hbrace) .nil) hbrace) .nil))
  simpa only [predictHead, arms, predictEnd, written, tight_toList_append, List.flatMap_cons,
    List.flatMap_nil, List.append_assoc, List.append_nil] using hcode

/-! ## Tables -/

/-- However it is laid out, the text of a value has tokens `w`, which determine the value and where
they end. -/
structure Faithful {α : Type} (text : α → String) (w : α → List Char) : Prop where
  condenses : ∀ a, Condenses (text a).toList (w a)
  delimits : Delimits w

namespace Faithful

variable {β : Type} {f : α → String} {g : β → String} {v : α → List Char} {w : β → List Char}

theorem append (hf : Faithful f v) (hg : Faithful g w) :
    Faithful (fun ab : α × β => f ab.1 ++ g ab.2) fun ab => v ab.1 ++ w ab.2 where
  condenses ab := by
    rw [String.toList_append]
    exact (hf.condenses _).append (hg.condenses _)
  delimits {ab ab' r s} h := by
    simp only [List.append_assoc] at h
    obtain ⟨ha, hbehind⟩ := hf.delimits h
    obtain ⟨hb, hrest⟩ := hg.delimits hbehind
    exact ⟨Prod.ext ha hb, hrest⟩

/-- A text that is the same for all values may stand in front. -/
theorem prepend (hg : Faithful g w) {head : String} {u : List Char}
    (hhead : Condenses head.toList u) : Faithful (fun b => head ++ g b) fun b => u ++ w b where
  condenses b := by
    rw [String.toList_append]
    exact hhead.append (hg.condenses b)
  delimits {b b' r s} h := by
    simp only [List.append_assoc, List.append_cancel_left_eq] at h
    exact hg.delimits h

theorem comap (hf : Faithful f v) {part : β → α} (hpart : Function.Injective part) :
    Faithful (fun b => f (part b)) fun b => v (part b) where
  condenses b := hf.condenses (part b)
  delimits h := by
    obtain ⟨ha, hrest⟩ := hf.delimits h
    exact ⟨hpart ha, hrest⟩

end Faithful

theorem condenses_semicolon : Condenses ";\n".toList (tight ";\n".toList) :=
  condenses_of_isCode (by decide)

/-- A constant determines what its list is made of. -/
theorem faithful_constant (head : String) (hhead : IsCode head.toList) {layout : α → Layout}
    (hlayout : ∀ a, (layout a).Spells (w a)) (hw : Delimits w) :
    Faithful (fun a => constant head (layout a)) fun a =>
      tight head.toList ++ (w a ++ tight ";\n".toList) := by
  have hlist : Faithful (fun a => (layout a).render 0 head.utf8ByteSize 1 ++ ";\n") fun a =>
      w a ++ tight ";\n".toList := by
    refine ⟨fun a => ?_, fun {a b r s} h => ?_⟩
    · rw [String.toList_append]
      exact ((hlayout a).render _ _ _).append condenses_semicolon
    · simp only [List.append_assoc] at h
      obtain ⟨ha, hend⟩ := hw h
      exact ⟨ha, List.append_cancel_left hend⟩
  simpa only [constant, String.append_assoc] using hlist.prepend (condenses_of_isCode hhead)

theorem faithful_number :
    Faithful (fun n : Nat => toString n ++ ";\n") fun n => digits n ++ tight ";\n".toList := by
  refine ⟨fun n => ?_, fun {m n r s} h => ?_⟩
  · rw [String.toList_append]
    exact (condenses_toString n).append condenses_semicolon
  · simp only [List.append_assoc] at h
    exact digits_cons_inj rfl h

theorem faithful_quoteString : Faithful (fun s => quoteString s) fun s => (quoteString s).toList :=
  ⟨condenses_quoteString, delimits_quoteString⟩

theorem faithful_predictCode :
    Faithful (fun as => Code.renderAll 0 (predictCode as)) fun as =>
      predictHead ++ (arms as ++ predictEnd) := by
  refine ⟨fun as => (allSpell_predictCode as).render 0, fun {as bs r s} h => ?_⟩
  simp only [List.append_assoc, List.append_cancel_left_eq] at h
  obtain ⟨has, hrest⟩ := arms_append_inj h
  exact ⟨has, List.append_cancel_left hrest⟩

theorem spells_rules (rows : List RuleRow) :
    (sliceLayout (rows.map ruleLayout)).Spells (slice row rows) :=
  spells_sliceLayout fun r _ => spells_ruleLayout r

theorem spells_productions (ps : List Production) :
    (sliceLayout (ps.map productionLayout)).Spells (slice production ps) :=
  spells_sliceLayout fun p _ => spells_productionLayout p

/-- The parts of tables in the order in which they are written. -/
def Tables.parts (t : Tables) : List String × List String × Nat × String × List RuleRow ×
    List Production × List Arm :=
  (t.terminals, t.nonterminals, t.start, t.emptyName, t.rules, t.productions, t.arms)

theorem Tables.parts_injective : Function.Injective Tables.parts := by
  intro t t' h
  cases t
  cases t'
  cases h
  rfl

/-- The tokens of tables in a row, without anything between them. Commas between items are left out,
since a broken list has one more. -/
def Tables.tokens (t : Tables) : List Char :=
  symbolTokens ++
    written ["pub const TERMINALS: &[&str] = "] ++ names t.terminals ++
    written [";\n", "pub const NONTERMINALS: &[&str] = "] ++ names t.nonterminals ++
    written [";\n", "pub const START: usize = "] ++ digits t.start ++
    written [";\n", "#[allow(dead_code)]\n", "pub const EMPTY: &str = "] ++
      (quoteString t.emptyName).toList ++
    written [";\n", "/// Lexical rules as `(name, pattern, terminal, priority)`. Separators\n",
      "/// have no terminal.\n",
      "pub const RULES: &[(&str, &str, Option<usize>, usize)] = "] ++ slice row t.rules ++
    written [";\n", "/// Productions as `(left-hand side, body)`.\n",
      "pub const PRODUCTIONS: &[(usize, &[Symbol])] = "] ++ slice production t.productions ++
    written [";\n"] ++ predictHead ++ Emission.arms t.arms ++ predictEnd

/-- The text of tables is a layout of their tokens, which determine them. -/
theorem faithful_render : Faithful Tables.render Tables.tokens := by
  -- every text between two parts is code without literals
  have hcode (text : String) (h : IsCode text.toList) : Condenses text.toList (tight text.toList) :=
    condenses_of_isCode h
  have hterminals := faithful_constant "pub const TERMINALS: &[&str] = "
    (isCode_ofList (by decide +kernel)) spells_stringsLayout delimits_names
  have hnonterminals := faithful_constant "pub const NONTERMINALS: &[&str] = "
    (isCode_ofList (by decide +kernel)) spells_stringsLayout delimits_names
  have hstart := faithful_number.prepend
    (hcode "pub const START: usize = " (isCode_ofList (by decide +kernel)))
  have hempty := (faithful_quoteString.prepend
    (hcode "pub const EMPTY: &str = " (isCode_ofList (by decide +kernel)))).prepend
      (hcode "#[allow(dead_code)]\n" (isCode_ofList (by decide +kernel)))
  have hrules := (((faithful_constant "pub const RULES: &[(&str, &str, Option<usize>, usize)] = "
    (isCode_ofList (by decide +kernel)) spells_rules
      (delimits_slice delimits_row fun r => by simp [row])).prepend
        (hcode "/// have no terminal.\n" (isCode_ofList (by decide +kernel)))).prepend
          (hcode "/// Lexical rules as `(name, pattern, terminal, priority)`. Separators\n"
            (isCode_ofList (by decide +kernel)))).prepend condenses_semicolon
  have hproductions := (faithful_constant "pub const PRODUCTIONS: &[(usize, &[Symbol])] = "
    (isCode_ofList (by decide +kernel)) spells_productions
      (delimits_slice delimits_production fun p => by simp [production])).prepend
        (hcode "/// Productions as `(left-hand side, body)`.\n"
          (isCode_ofList (by decide +kernel)))
  have hparts := (hterminals.append (hnonterminals.append (hstart.append (hempty.append
    (hrules.append (hproductions.append faithful_predictCode)))))).prepend
      (allSpell_symbolType.render 0)
  have htables := hparts.comap Tables.parts_injective
  refine (congrArg₂ Faithful (funext fun t => ?_) (funext fun t => ?_)).mp htables
  · unfold Tables.render Tables.parts
    simp only [String.append_assoc]
  · unfold Tables.tokens Tables.parts
    simp only [written, List.flatMap_cons, List.flatMap_nil, List.append_assoc, List.append_nil]

theorem tokens_injective : Function.Injective Tables.tokens := fun _ _ h =>
  (faithful_render.delimits (congrArg (· ++ []) h)).1

/-! ## Printers -/

/-- The printer writes the tokens of tables at every depth, with whatever layout. -/
def KeepsTokens (print : Tables → Nat → String) : Prop :=
  ∀ t depth, condenseFrom .code (print t depth).toList = t.tokens

theorem keepsTokens_tablesFragment : KeepsTokens tablesFragment := by
  intro t depth
  rw [tablesFragment, String.toList_append,
    condenseFrom_indentText (faithful_render.condenses t)]
  exact List.append_nil _

/-- Texts of two printers that keep the tokens are equal only if the tables are. -/
theorem KeepsTokens.inj {print print' : Tables → Nat → String} (h : KeepsTokens print)
    (h' : KeepsTokens print') {t t' : Tables} {depth depth' : Nat}
    (heq : print t depth = print' t' depth') : t = t' :=
  tokens_injective (by rw [← h t depth, heq, h' t' depth'])

open Standalone (predict_of)

variable {g g' : Grammar} {rows rows' : List RuleRow} {t t' : Table}

/-- A text of emitted tables, at whatever depth and in whatever layout, determines the grammar, the
rule rows and all predictions that it was made of, as long as its tokens are kept; the fragments of
tables are such texts. The first of its cases that fits predicts what the table does. -/
theorem tablesFragment_determines (ht : t.Ordered) (ht' : t'.Ordered) :
    (∀ depth depth', tablesFragment (Tables.of g rows t) depth =
        tablesFragment (Tables.of g' rows' t') depth' →
      g = g' ∧ rows = rows' ∧ ∀ a x, t.predict a x = t'.predict a x) ∧
    (KeepsTokens tablesFragment ∧
      ∀ print print', KeepsTokens print → KeepsTokens print' → ∀ depth depth',
        print (Tables.of g rows t) depth = print' (Tables.of g' rows' t') depth' →
        g = g' ∧ rows = rows' ∧ ∀ a x, t.predict a x = t'.predict a x) ∧
    ∀ a x, Standalone.predict (Tables.of g rows t) a (lookaheadId x) = t.predict a x := by
  have hdetermines (h : Tables.of g rows t = Tables.of g' rows' t') :
      g = g' ∧ rows = rows' ∧ ∀ a x, t.predict a x = t'.predict a x := by
    have hpredict (a : Nat) (x : Lookahead) : t.predict a x = t'.predict a x := calc
      t.predict a x = Standalone.predict (Tables.of g rows t) a (lookaheadId x) :=
        (predict_of ht).symm
      _ = Standalone.predict (Tables.of g' rows' t') a (lookaheadId x) := by rw [h]
      _ = t'.predict a x := predict_of ht'
    simp only [Tables.of, Tables.mk.injEq] at h
    obtain ⟨hterminals, hnonterminals, -, hempty, hrows, hproductions, -⟩ := h
    cases g
    cases g'
    exact ⟨Grammar.mk.injEq .. ▸ ⟨hterminals, hnonterminals, hproductions, hempty⟩, hrows,
      hpredict⟩
  have hkeeps := keepsTokens_tablesFragment
  exact ⟨fun _ _ h => hdetermines (hkeeps.inj hkeeps h),
    ⟨hkeeps, fun _ _ hprint hprint' _ _ h => hdetermines (hprint.inj hprint' h)⟩,
    fun a x => predict_of ht⟩

open Machine (parens) in
/-- A cell that nothing claims leaves no trace, and nothing is predicted by it; a quote in a name
does not hide where the name ends. -/
theorem tablesFragment_determines_parens :
    let rows := [RuleRow.mk "open" "\\(" (some 0) 0]
    let padded := Table.mk (parens.table.cells ++ [⟨1, .finish, []⟩])
    (parens.table.Ordered ∧ padded.Ordered) ∧
      tablesFragment (.of parens rows parens.table) 1 = tablesFragment (.of parens rows padded) 1 ∧
      (∀ a x, parens.table.predict a x = padded.predict a x) ∧
      ∀ depth depth',
        tablesFragment (.of parens [⟨"open\", \"", "\\(", some 0, 0⟩] parens.table) depth ≠
          tablesFragment (.of parens [⟨"open", "\", \"\\(", some 0, 0⟩] parens.table) depth' := by
  intro rows padded
  have hparens : parens.table.Ordered := parens.ordered_table
  have hpadded : padded.Ordered := by
    refine List.pairwise_append.2 ⟨hparens, List.pairwise_singleton _ _, fun c hc d hd => ?_⟩
    rw [List.mem_singleton.1 hd]
    have hfirst : ∀ c ∈ parens.table.cells, c.nonterminal < 1 := by decide +kernel
    exact Or.inl (hfirst c hc)
  have hfragment : tablesFragment (.of parens rows parens.table) 1 =
      tablesFragment (.of parens rows padded) 1 := by
    have harms : armsOf padded = armsOf parens.table := by decide +kernel
    rw [Tables.of, Tables.of, harms]
  refine ⟨⟨hparens, hpadded⟩, hfragment,
    ((tablesFragment_determines hparens hpadded).1 1 1 hfragment).2.2, fun depth depth' h => ?_⟩
  have hrows := ((tablesFragment_determines hparens hparens).1 depth depth' h).2.1
  exact absurd hrows (by decide)

end TopDown.Emission
