import TopDown.Proofs.Grammar.Declared
import TopDown.Proofs.Machine.Checked
import TopDown.Proofs.Tokenizer.Tiling

/-!
# Resolved grammars keep all numbers in range

* `Scanner.exists_matcher_of_mem_lexemes` : every token comes from a matcher of its tokenizer;
* `Grammar.exists_terminal?_of_mem_lexemes` : a resolved grammar knows the terminals of all tokens
  that its lexicon reads;
* `Grammar.resolve_inRange` : the names, symbols and productions of a resolved grammar are in order
  and in range, so neither its analysis nor its table nor any run looks up a number that is not
  there.
-/

namespace TopDown

/-! ## Tokens -/

namespace Scanner

variable {t : Tokenizer} {recovers : Bool} {offset : Nat} {rest : List Char} {token : Token}

theorem tokenizer_pull : (pull t recovers offset rest).2.tokenizer = t := by
  fun_induction pull t recovers offset rest with
  | case1 => rfl
  | case2 => rfl
  | case3 offset c cs m hm text stop hpos hterminal ih => exact ih
  | case4 => rfl

theorem exists_matcher_of_pull (h : (pull t recovers offset rest).1 = .ok (.token token)) :
    ∃ m ∈ t, m.terminal = some token.terminal := by
  fun_induction pull t recovers offset rest with
  | case1 => cases h
  | case2 => cases h
  | case3 offset c cs m hm text stop hpos hterminal ih => exact ih h
  | case4 offset c cs m hm text stop hpos terminal hterminal =>
    have hdecides := t.longest?_decides (c :: cs)
    rw [hm] at hdecides
    obtain ⟨i, hwins⟩ := hdecides
    cases h
    exact ⟨m.matcher, List.mem_of_getElem? hwins.1, hterminal⟩

/-- Every token comes from a matcher of the scanner's tokenizer. -/
theorem exists_matcher_of_mem_lexemes {s : Scanner} (h : .ok (.token token) ∈ s.lexemes) :
    ∃ m ∈ s.tokenizer, m.terminal = some token.terminal := by
  fun_induction lexemes s with
  | case1 => cases h
  | case2 s p s' hnext _ ih =>
    unfold next at hnext
    split at hnext
    · cases hnext
    have hpull := Option.some.inj hnext
    rcases List.mem_cons.1 h with rfl | h
    · exact exists_matcher_of_pull (congrArg Prod.fst hpull)
    · have hs' : s'.tokenizer = s.tokenizer := by
        rw [← tokenizer_pull (t := s.tokenizer), hpull]
      exact hs' ▸ ih h

end Scanner

namespace Grammar

variable {ds : Declarations} {x : Lexicon} {options : Options} {g : Grammar}

/-- A resolved grammar knows the terminals of all tokens that its lexicon reads. -/
theorem exists_terminal?_of_mem_lexemes (h : resolve ds x options = .ok g) {s : Scanner}
    {engine : Pattern.Engine} (hs : Tokenizer.ofLexicon x engine = .ok s.tokenizer) {token : Token}
    (htoken : .ok (.token token) ∈ s.lexemes) : ∃ id, g.terminal? token.terminal = some id := by
  obtain ⟨m, hm, hterminal⟩ := Scanner.exists_matcher_of_mem_lexemes htoken
  obtain ⟨r, hr, hmatcher⟩ := exists_of_mem_right (mapM_eq_ok.1 hs) hm
  have hrule : r.terminal? = m.terminal := by
    unfold Tokenizer.matcherOf at hmatcher
    split at hmatcher
    · cases hmatcher
      rfl
    · cases hmatcher
  exact exists_terminal? h hr (hrule.trans hterminal)

/-- The grammar that a text resolves to over any lexicon has its names, symbols and productions in
order and in range, since the number of a name is the position of its declaration. Therefore no
number that is out of range is looked up in its analysis, in the building or the choice of its table
or in a run with that table, whatever the stream and the recorder. All tokens that scanners of the
lexicon read, strict or not, have terminals of the grammar. -/
theorem resolve_inRange {text : String} (hds : Declarations.parse text = .ok ds)
    (h : resolve ds x options = .ok g) :
    g.Declared x text ∧
      (∀ d id, (d, id) ∈ ds.zipIdx → g.nonterminal? d.lhs = some id) ∧
      Analysis.of? g = some (Analysis.of g) ∧
      Table.build? g (Analysis.of g) = some (Table.build g (Analysis.of g)) ∧
      (∀ strategy, select? strategy g = some (select strategy g)) ∧
      (∀ (σ ι : Type) (r : Recorder σ ι) (stream : List Pull) (s : σ),
        Machine.drive? g (Table.build g (Analysis.of g)) r stream s =
          some (Machine.drive g (Table.build g (Analysis.of g)) r stream s)) ∧
      ∀ (s : Scanner) (engine : Pattern.Engine), Tokenizer.ofLexicon x engine = .ok s.tokenizer →
        ∀ token, .ok (.token token) ∈ s.lexemes → ∃ id, g.terminal? token.terminal = some id := by
  have hnodup := Declarations.nodup_names_of_parse hds
  have hg : g.WellFormed := .of_resolve hnodup h
  exact ⟨.of_resolve hds h, fun _ _ => nonterminal?_of_mem_zipIdx hnodup h, Analysis.of?_eq hg,
    Table.build?_eq hg, select?_eq hg, fun _ _ => Machine.drive?_eq hg,
    fun _ _ hs _ => exists_terminal?_of_mem_lexemes h hs⟩

/-- A grammar text whose first left-hand side comes up again, and whose table has conflicts. -/
def scattered : String := "S -> TS\nT -> (S)\n | eps\nS -> eps\n"

def scatteredDeclarations : Declarations :=
  [⟨"S", 1, [⟨1, "TS"⟩, ⟨4, "eps"⟩]⟩, ⟨"T", 2, [⟨2, "(S)"⟩, ⟨3, "eps"⟩]⟩]

def scatteredGrammar : Grammar where
  terminals := ["(", ")"]
  nonterminals := ["S", "T"]
  productions := [⟨0, [.nonterminal 1, .nonterminal 0]⟩, ⟨0, [.empty]⟩,
    ⟨1, [.terminal 0, .nonterminal 0, .terminal 1]⟩, ⟨1, [.empty]⟩]
  emptyName := "$"

theorem resolve_inRange_scattered :
    Declarations.parse scattered = .ok scatteredDeclarations ∧
      resolve scatteredDeclarations Machine.parensLexicon {} = .ok scatteredGrammar ∧
      scatteredGrammar.Declared Machine.parensLexicon scattered ∧
      scatteredGrammar.nonterminal? "T" = some 1 ∧
      scatteredGrammar.table.isDeterministic = false ∧
      select? .ll1 scatteredGrammar = some (select .ll1 scatteredGrammar) ∧
      ∃ t, Tokenizer.ofLexicon Machine.parensLexicon = .ok t ∧
        ∃ token, .ok (.token token) ∈ (t.scan "(").lexemes ∧
          ∃ id, scatteredGrammar.terminal? token.terminal = some id := by
  have hds : Declarations.parse scattered = .ok scatteredDeclarations := by decide +kernel
  have hg : resolve scatteredDeclarations Machine.parensLexicon {} = .ok scatteredGrammar := by
    decide +kernel
  have hlexemes : (Tokenizer.ofLexicon Machine.parensLexicon).toOption.map
      (fun t => (t.scan "(").lexemes) =
        some [.ok (.token ⟨"TERMINAL", "(", "(", 0, 1⟩), .ok (.finish 1)] := by
    decide +kernel
  obtain ⟨hdeclared, hnumbers, -, -, hselect, -, htokens⟩ := resolve_inRange hds hg
  refine ⟨hds, hg, hdeclared, hnumbers _ 1 (List.mem_cons_of_mem _ List.mem_cons_self),
    by decide +kernel, hselect .ll1, ?_⟩
  cases ht : Tokenizer.ofLexicon Machine.parensLexicon with
  | error e =>
    rw [ht] at hlexemes
    cases hlexemes
  | ok t =>
    rw [ht] at hlexemes
    have hmem : .ok (.token ⟨"TERMINAL", "(", "(", 0, 1⟩) ∈ (t.scan "(").lexemes := by
      have hscan : (t.scan "(").lexemes = _ := Option.some.inj hlexemes
      rw [hscan]
      exact List.mem_cons_self
    exact ⟨t, rfl, _, hmem, htokens (t.scan "(") Pattern.engine ht _ hmem⟩

end Grammar

end TopDown
