import TopDown.Emission.Fragment
import TopDown.Failure
import TopDown.Grammar.Resolve
import TopDown.Lexicon.File
import TopDown.Tree.Parse
import TopDown.Validation

/-!
# From two texts to a parser

* `Lexer.ofText` : a lexicon text with the tokenizer of its rules;
* `Compilation.ofTexts` : everything that follows from a lexicon text and a grammar text. Faults of
  the lexicon come before those of the grammar, and malformed lines before unusable patterns and
  unknown symbols;
* `Compilation.parse`, `Compilation.validate`, `Compilation.emit` : what a finished parser is for;
* `lint` : all faults of a pair of texts. A grammar's symbols are looked up only if nothing else is
  wrong.
-/

namespace TopDown

/-- A lexicon that can be used for reading. -/
structure Lexer where
  lexicon : Lexicon
  tokenizer : Tokenizer

namespace Lexer

def ofLexicon (x : Lexicon) (engine : Pattern.Engine := Pattern.engine) : Except Failure Lexer :=
  match Tokenizer.ofLexicon x engine with
  | .ok tokenizer => .ok ⟨x, tokenizer⟩
  | .error e => .error (.lexical e)

def ofText (text : String) (engine : Pattern.Engine := Pattern.engine) : Except Failure Lexer :=
  match Lexicon.parse text with
  | .ok x => ofLexicon x engine
  | .error e => .error (.spec e)

end Lexer

/-- A language that is ready to be parsed. -/
structure Compilation where
  lexer : Lexer
  grammar : Grammar
  analysis : Analysis
  table : Table

/-- The declarations of a grammar text. -/
def readGrammar (text : String) : Except Failure Grammar.Declarations :=
  (Grammar.Declarations.parse text).mapError .spec

namespace Compilation

/-- Puts a lexer and the declarations of a grammar together. -/
def assemble (lexer : Lexer) (ds : Grammar.Declarations) (strategy : Strategy)
    (options : Grammar.Options) : Except Failure Compilation :=
  match Grammar.resolve ds lexer.lexicon options with
  | .error e => .error (.spec e)
  | .ok g =>
    match select strategy g with
    | .error e => .error (.determinism e)
    | .ok (analysis, table) => .ok ⟨lexer, g, analysis, table⟩

/-- Puts the outcomes of reading the two texts together. -/
def join (lexer : Except Failure Lexer) (ds : Except Failure Grammar.Declarations)
    (strategy : Strategy) (options : Grammar.Options) : Except Failure Compilation :=
  match lexer with
  | .error e => .error e
  | .ok lexer =>
    match ds with
    | .error e => .error e
    | .ok ds => assemble lexer ds strategy options

def ofTexts (lexicon grammar : String) (strategy : Strategy) (options : Grammar.Options)
    (engine : Pattern.Engine := Pattern.engine) : Except Failure Compilation :=
  join (Lexer.ofText lexicon engine) (readGrammar grammar) strategy options

/-- The parser of this name inside the modules of `path`, ready to be written out. -/
def emit (c : Compilation) (name path : String) : Except Failure Emission.Parser :=
  (Emission.emit c.grammar c.lexer.lexicon c.table name path).mapError .emit

/-- The source text of the parser. -/
def source (c : Compilation) (name path : String) : Except Failure String :=
  (c.emit name path).map Emission.Parser.source

/-- The parse tree of an input, at most `maxDepth` levels deep. -/
def parse (c : Compilation) (maxDepth : Nat) (input : String) : Except Failure ParseTree :=
  (parseTree c.grammar c.table c.lexer.tokenizer maxDepth input).mapError .parse

/-- The verdict on an input, with a trace. -/
def validate (c : Compilation) (input : String) : Validation :=
  TopDown.validate c.grammar c.table c.lexer.tokenizer input

end Compilation

/-- The faults of a lexicon text: those of its lines, then the first unusable pattern among the
other lines. -/
def lintLexicon (text : String) (engine : Pattern.Engine := Pattern.engine) :
    Lexicon × List Failure :=
  let (x, errors) := Lexicon.lint text
  match Tokenizer.ofLexicon x engine with
  | .ok _ => (x, errors.map .spec)
  | .error e => (x, errors.map .spec ++ [.lexical e])

/-- All faults of a lexicon text and a grammar text. -/
def lint (lexicon grammar : String) (options : Grammar.Options)
    (engine : Pattern.Engine := Pattern.engine) : List Failure :=
  let (x, faults) := lintLexicon lexicon engine
  match Grammar.Declarations.parse grammar with
  | .error e => faults ++ [.spec e]
  | .ok ds =>
    if faults.isEmpty then
      match Grammar.resolve ds x options with
      | .error e => [.spec e]
      | .ok _ => []
    else faults

end TopDown
