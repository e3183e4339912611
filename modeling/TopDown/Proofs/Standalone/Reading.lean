import TopDown.Compilation
import TopDown.Proofs.Grammar.Declared
import TopDown.Proofs.Tokenizer.Reading
import TopDown.Standalone

/-!
# Reading with emitted rules

* `SameRule`, `SameToken` : a rule and a token of an emitted parser, which know their terminal by
  number;
* `exists_sameRules` : the rules of a lexicon make an emitted parser with the same rules;
* `foldl_better` : its best match is the longest match of the tokenizer;
* `tokenizeFrom_of_reads`, `sameReading` : it reads the same tokens, up to the same end.
-/

namespace TopDown

namespace Standalone

open Emission (Tables RuleRow ruleRow ruleRows)
open Text

variable {g : Grammar} {engine : Pattern.Engine}

/-! ## Rules -/

/-- The number of a terminal, where there is a terminal. -/
abbrev SameTerminal (g : Grammar) : Option String → Option Nat → Prop :=
  Option.Rel fun name id => g.terminal? name = some id

/-- A rule that matches alike and stands for the same terminal. -/
structure SameRule (g : Grammar) (m : Matcher) (r : Standalone.Rule) : Prop where
  find : r.find = m.find
  terminal : SameTerminal g m.terminal r.terminal
  priority : r.priority = m.priority

/-- The compiled rule of a row. -/
def compileRow (engine : Pattern.Engine) (row : RuleRow) : Option Standalone.Rule :=
  (engine row.pattern).map fun find => .mk find row.terminal row.priority

/-- A rule with a matcher has a row, which compiles to the same rule. -/
theorem exists_row {r : TopDown.Rule} {m : Matcher} (h : Tokenizer.matcherOf r engine = .ok m)
    (hknown : ∀ name, r.terminal? = some name → ∃ id, g.terminal? name = some id) :
    ∃ row rule, ruleRow g r = .ok row ∧ compileRow engine row = some rule ∧
      SameRule g m rule := by
  unfold Tokenizer.matcherOf at h
  split at h
  · rename_i find hcompile
    cases h
    cases hterminal : r.terminal? with
    | none =>
      refine ⟨⟨r.name, Pattern.anchoredText r.pattern, none, r.priority⟩,
        ⟨find, none, r.priority⟩, ?_, ?_, rfl, ?_, rfl⟩
      · simp [ruleRow, hterminal]
      · simp [compileRow, hcompile]
      · exact .none
    | some name =>
      obtain ⟨id, hid⟩ := hknown name hterminal
      refine ⟨⟨r.name, Pattern.anchoredText r.pattern, some id, r.priority⟩,
        ⟨find, some id, r.priority⟩, ?_, ?_, rfl, ?_, rfl⟩
      · simp [ruleRow, hterminal, hid]
      · simp [compileRow, hcompile]
      · exact .some hid
  · cases h

theorem exists_rows {rules : List TopDown.Rule} {matchers : List Matcher}
    (h : List.Forall₂ (fun r m => Tokenizer.matcherOf r engine = .ok m) rules matchers)
    (hknown : ∀ r ∈ rules, ∀ name, r.terminal? = some name → ∃ id, g.terminal? name = some id) :
    ∃ rows rules', List.Forall₂ (fun r row => ruleRow g r = .ok row) rules rows ∧
      List.Forall₂ (fun row rule => compileRow engine row = some rule) rows rules' ∧
      List.Forall₂ (SameRule g) matchers rules' := by
  induction h with
  | nil => exact ⟨[], [], .nil, .nil, .nil⟩
  | cons hm _ ih =>
    obtain ⟨hknown, hknown'⟩ := List.forall_mem_cons.1 hknown
    obtain ⟨row, rule, hrow, hcompile, hsame⟩ := exists_row hm hknown
    obtain ⟨rows, rules', hrows, hcompiles, hsames⟩ := ih hknown'
    exact ⟨row :: rows, rule :: rules', .cons hrow hrows, .cons hcompile hcompiles,
      .cons hsame hsames⟩

/-- The rules of a lexicon make an emitted parser that has the rules of the tokenizer. -/
theorem exists_sameRules {ds : Grammar.Declarations} {x : Lexicon} {options : Grammar.Options}
    {tokenizer : Tokenizer} (hg : Grammar.resolve ds x options = .ok g)
    (h : Tokenizer.ofLexicon x engine = .ok tokenizer) (t : Table) :
    ∃ rows rules, ruleRows g x = .ok rows ∧
      Parser.new (Tables.of g rows t) engine = .ok ⟨Tables.of g rows t, rules⟩ ∧
      List.Forall₂ (SameRule g) tokenizer rules := by
  obtain ⟨rows, rules, hrows, hcompiles, hsames⟩ := exists_rows (mapM_eq_ok.1 h)
    fun r hr name hname => Grammar.exists_terminal? hg hr hname
  have hmapM : rows.mapM (compileRow engine) = some rules := mapM_eq_some.2 hcompiles
  refine ⟨rows, rules, mapM_eq_ok.2 hrows, ?_, hsames⟩
  unfold Parser.new
  split
  · rename_i rules' hrules'
    cases hmapM.symm.trans hrules'
    rfl
  · rename_i hnone
    cases hmapM.symm.trans hnone

/-! ## Matches -/

/-- A match with its length, terminal and priority. -/
def SameMatch (g : Grammar) (m : Match) (best : Nat × Option Nat × Nat) : Prop :=
  m.length = best.1 ∧ SameTerminal g m.matcher.terminal best.2.1 ∧ m.matcher.priority = best.2.2

/-- The better of a match and the best match so far. -/
def pick (best : Option Match) (m : Match) : Option Match :=
  match best with
  | none => some m
  | some b => if m.beats b then some m else some b

theorem better_of_none {rest : List Char} {best : Option (Nat × Option Nat × Nat)}
    {m : Matcher} {r : Standalone.Rule} (hr : SameRule g m r) (h : m.match? rest = none) :
    Parser.better rest best r = best := by
  unfold Matcher.match? at h
  rw [← hr.find] at h
  unfold Parser.better
  match hfind : r.find rest with
  | none => rfl
  | some 0 => rfl
  | some (n + 1) => simp [hfind] at h

theorem better_of_some {rest : List Char} {best : Option Match}
    {best' : Option (Nat × Option Nat × Nat)} {m : Matcher} {r : Standalone.Rule} {found : Match}
    (hr : SameRule g m r) (h : m.match? rest = some found)
    (hbest : Option.Rel (SameMatch g) best best') :
    Option.Rel (SameMatch g) (pick best found) (Parser.better rest best' r) := by
  unfold Matcher.match? at h
  rw [← hr.find] at h
  unfold Parser.better
  match hfind : r.find rest with
  | none => simp [hfind] at h
  | some 0 => simp [hfind] at h
  | some (n + 1) =>
    simp only [hfind, Nat.zero_lt_succ, dite_true, Option.some.injEq] at h
    cases h
    have hfound : SameMatch g ⟨m, n + 1, Nat.zero_lt_succ n⟩ (n + 1, r.terminal, r.priority) :=
      ⟨rfl, hr.terminal, hr.priority.symm⟩
    cases hbest with
    | none => exact .some hfound
    | @some b b' hb =>
      obtain ⟨length, terminal, priority⟩ := b'
      obtain ⟨hlength, hterminal, hpriority⟩ := hb
      have hbeats : (Match.mk m (n + 1) (Nat.zero_lt_succ n)).beats b =
          (decide (length < n + 1) || (n + 1 == length && decide (r.priority < priority))) := by
        cases hlength
        cases hpriority
        rw [Match.beats, hr.priority]
      simp only [pick, hbeats]
      split
      · exact .some hfound
      · exact .some ⟨hlength, hterminal, hpriority⟩

/-- The best match by the emitted rules is the longest match. -/
theorem foldl_better {rest : List Char} {matchers : List Matcher}
    {rules : List Standalone.Rule} (h : List.Forall₂ (SameRule g) matchers rules) :
    ∀ {best : Option Match} {best' : Option (Nat × Option Nat × Nat)},
      Option.Rel (SameMatch g) best best' →
      Option.Rel (SameMatch g) ((matchers.filterMap (·.match? rest)).foldl pick best)
        (rules.foldl (Parser.better rest) best') := by
  induction h with
  | nil => exact fun hbest => hbest
  | @cons m r _ _ hr _ ih =>
    intro best best' hbest
    rw [List.foldl_cons]
    cases hm : m.match? rest with
    | none =>
      rw [List.filterMap_cons_none (f := fun m : Matcher => m.match? rest) hm, better_of_none hr hm]
      exact ih hbest
    | some found =>
      rw [List.filterMap_cons_some (f := fun m : Matcher => m.match? rest) hm, List.foldl_cons]
      exact ih (better_of_some hr hm hbest)

theorem longest?_better {t : Tokenizer} {rules : List Standalone.Rule}
    (h : List.Forall₂ (SameRule g) t rules) (rest : List Char) :
    Option.Rel (SameMatch g) (t.longest? rest) (rules.foldl (Parser.better rest) none) :=
  foldl_better h .none

/-! ## Tokens -/

/-- A token by the number of its terminal, its text and where it starts. -/
structure SameToken (g : Grammar) (token : TopDown.Token) (token' : Standalone.Token) : Prop where
  terminal : g.terminal? token.terminal = some token'.terminal
  text : token'.text = token.text
  offset : token'.offset = token.start

/-- How an emitted parser reads what is read as `tokens` and `last`. -/
inductive ReadsAs (g : Grammar) (tokens : List TopDown.Token) :
    Pull → Except Standalone.Error (List Standalone.Token) → Prop
  | finish {n tokens'} : List.Forall₂ (SameToken g) tokens tokens' →
      ReadsAs g tokens (.ok (.finish n)) (.ok tokens')
  | noMatch {n c} : ReadsAs g tokens (.error (.noMatch n c)) (.error (.noMatch n c))

theorem ReadsAs.prepend {tokens front : List TopDown.Token} {front' : List Standalone.Token}
    {last : Pull} {result : Except Standalone.Error (List Standalone.Token)}
    (h : ReadsAs g tokens last result) (hfront : List.Forall₂ (SameToken g) front front') :
    ReadsAs g (front ++ tokens) last (result.map (front' ++ ·)) := by
  cases h with
  | finish htokens => exact .finish (List.rel_append hfront htokens)
  | noMatch => exact .noMatch

/-- One match of an emitted parser: the token of its terminal, if it has one, and the rest. -/
theorem tokenizeFrom_of_match {t : Tokenizer} {rules : List Standalone.Rule}
    (hrules : List.Forall₂ (SameRule g) t rules) {c : Char} {cs : List Char} {m : Match}
    (hm : t.longest? (c :: cs) = some m) (fuel offset : Nat) :
    ∃ terminal, SameTerminal g m.matcher.terminal terminal ∧
      Parser.tokenizeFrom rules (fuel + 1) offset (c :: cs) =
        (Parser.tokenizeFrom rules fuel (offset + byteSize ((c :: cs).take m.length))
          ((c :: cs).drop m.length)).map
            ((terminal.map fun id => ⟨id, String.ofList ((c :: cs).take m.length), offset⟩).toList
              ++ ·) := by
  have hbest := longest?_better hrules (c :: cs)
  rw [hm] at hbest
  rw [Parser.tokenizeFrom]
  generalize rules.foldl (Parser.better (c :: cs)) none = best at hbest
  cases hbest with
  | @some _ b hbest =>
    obtain ⟨length, terminal, priority⟩ := b
    obtain ⟨rfl, hterminal, -⟩ := hbest
    refine ⟨terminal, hterminal, ?_⟩
    simp only
    cases Parser.tokenizeFrom rules fuel (offset + byteSize ((c :: cs).take m.length))
        ((c :: cs).drop m.length) with
    | error e => rfl
    | ok tokens => cases terminal <;> rfl

/-- Fuel for a text is fuel for one match and what it leaves. -/
theorem exists_fuel {c : Char} {cs : List Char} {fuel : Nat} (m : Match)
    (h : (c :: cs).length ≤ fuel) :
    ∃ fuel', fuel = fuel' + 1 ∧ ((c :: cs).drop m.length).length ≤ fuel' := by
  obtain ⟨fuel, rfl⟩ := Nat.exists_eq_add_of_le' (Nat.le_trans (Nat.le_add_left 1 cs.length) h)
  have hpos := m.length_pos
  refine ⟨fuel, rfl, ?_⟩
  simp only [List.length_drop, List.length_cons] at h ⊢
  omega

/-- An emitted parser reads the same tokens, up to the same end. -/
theorem tokenizeFrom_of_reads {t : Tokenizer} {rules : List Standalone.Rule}
    (hrules : List.Forall₂ (SameRule g) t rules) {offset : Nat} {rest : List Char}
    {tokens : List TopDown.Token} {last : Pull} (h : t.Reads offset rest tokens last) :
    ∀ {fuel : Nat}, rest.length ≤ fuel →
      ReadsAs g tokens last (Parser.tokenizeFrom rules fuel offset rest) := by
  induction h with
  | finish =>
    intro fuel _
    rw [Parser.tokenizeFrom]
    exact .finish .nil
  | @noMatch offset c cs hnone =>
    intro fuel hfuel
    obtain ⟨fuel, rfl⟩ := Nat.exists_eq_add_of_lt (Nat.lt_of_lt_of_le cs.length.zero_lt_succ hfuel)
    have hbest := longest?_better hrules (c :: cs)
    rw [hnone] at hbest
    rw [Parser.tokenizeFrom]
    generalize rules.foldl (Parser.better (c :: cs)) none = best at hbest
    cases hbest
    exact .noMatch
  | @separator offset c cs m tokens last hm hterminal _ ih =>
    intro fuel hfuel
    obtain ⟨fuel, rfl, hrest⟩ := exists_fuel m hfuel
    obtain ⟨terminal, hsame, heq⟩ := tokenizeFrom_of_match hrules hm fuel offset
    rw [heq]
    rw [hterminal] at hsame
    cases hsame
    exact ReadsAs.prepend (ih hrest) .nil
  | @token offset c cs m name tokens last hm hterminal _ ih =>
    intro fuel hfuel
    obtain ⟨fuel, rfl, hrest⟩ := exists_fuel m hfuel
    obtain ⟨terminal, hsame, heq⟩ := tokenizeFrom_of_match hrules hm fuel offset
    rw [heq]
    rw [hterminal] at hsame
    cases hsame with
    | some hid => exact ReadsAs.prepend (ih hrest) (.cons ⟨hid, rfl, rfl⟩ .nil)

/-- The same reading: tokens that are the same, or the same first character without a match. -/
inductive SameReading (g : Grammar) : Except LexError (List TopDown.Token) →
    Except Standalone.Error (List Standalone.Token) → Prop
  | tokens {tokens tokens'} : List.Forall₂ (SameToken g) tokens tokens' →
      SameReading g (.ok tokens) (.ok tokens')
  | noMatch {offset character} :
      SameReading g (.error (.noMatch offset character)) (.error (.noMatch offset character))

/-- An emitted parser reads an input as the tokenizer does. -/
theorem sameReading {t : Tokenizer} {p : Parser} (hrules : List.Forall₂ (SameRule g) t p.rules)
    (input : String) : SameReading g (t.tokenize input) (p.tokenize input) := by
  unfold Parser.tokenize
  cases h : t.tokenize input with
  | ok tokens =>
    have hreads := tokenizeFrom_of_reads hrules (Tokenizer.scan_of_tokenize h).1 (Nat.le_refl _)
    generalize Parser.tokenizeFrom p.rules _ _ _ = result at hreads
    cases hreads with
    | finish htokens => exact .tokens htokens
  | error e =>
    obtain ⟨tokens, offset, character, rfl, hreads, -⟩ := Tokenizer.scan_of_error h
    have hreads := tokenizeFrom_of_reads hrules hreads (Nat.le_refl _)
    generalize Parser.tokenizeFrom p.rules _ _ _ = result at hreads
    cases hreads
    exact .noMatch

end Standalone

end TopDown
