import TopDown.Compilation
import TopDown.Proofs.Grammar.Declared
import TopDown.Proofs.Table.Cells

/-!
# What a compilation is made of

`Compilation.Sound` : the parts of a compilation come from each other, and its table has no
conflicts. `Compilation.sound_of_ofTexts` : this holds of what two texts compile to.
-/

namespace TopDown.Compilation

/-- The grammar is that of some distinct declarations, the tokenizer that of the lexicon with an
engine, and the table that of the grammar. -/
structure Sound (c : Compilation) (options : Grammar.Options) (engine : Pattern.Engine) : Prop where
  grammar : ∃ ds : Grammar.Declarations, ds.names.Nodup ∧
    Grammar.resolve ds c.lexer.lexicon options = .ok c.grammar
  tokenizer : Tokenizer.ofLexicon c.lexer.lexicon engine = .ok c.lexer.tokenizer
  table : c.table = c.grammar.table
  deterministic : c.grammar.table.isDeterministic = true

theorem ofLexicon_of_ofText {text : String} {engine : Pattern.Engine} {lexer : Lexer}
    (h : Lexer.ofText text engine = .ok lexer) :
    Tokenizer.ofLexicon lexer.lexicon engine = .ok lexer.tokenizer := by
  simp only [Lexer.ofText, Lexer.ofLexicon] at h
  split at h
  · split at h
    · rename_i htokenizer
      cases h
      exact htokenizer
    · cases h
  · cases h

theorem select_eq_ok {strategy : Strategy} {g : Grammar} {analysis : Analysis} {table : Table}
    (h : select strategy g = .ok (analysis, table)) :
    table = g.table ∧ g.table.isDeterministic = true := by
  rw [Grammar.select_eq] at h
  split at h
  · rename_i hdeterministic
    cases h
    exact ⟨rfl, hdeterministic⟩
  · cases h

theorem nodup_names_of_readGrammar {text : String} {ds : Grammar.Declarations}
    (h : readGrammar text = .ok ds) : ds.names.Nodup := by
  unfold readGrammar at h
  cases hds : Grammar.Declarations.parse text with
  | ok ds' =>
    rw [hds] at h
    cases h
    exact Grammar.Declarations.nodup_names_of_parse hds
  | error e =>
    rw [hds] at h
    cases h

theorem sound_of_ofTexts {lexicon grammar : String} {strategy : Strategy}
    {options : Grammar.Options} {engine : Pattern.Engine} {c : Compilation}
    (h : ofTexts lexicon grammar strategy options engine = .ok c) : c.Sound options engine := by
  simp only [ofTexts, join] at h
  split at h
  · cases h
  rename_i lexer hlexer
  split at h
  · cases h
  rename_i ds hds
  simp only [assemble] at h
  split at h
  · cases h
  rename_i g hg
  split at h
  · cases h
  rename_i analysis table hselect
  cases h
  obtain ⟨htable, hdeterministic⟩ := select_eq_ok hselect
  exact ⟨⟨ds, nodup_names_of_readGrammar hds, hg⟩, ofLexicon_of_ofText hlexer, htable,
    hdeterministic⟩

end TopDown.Compilation
