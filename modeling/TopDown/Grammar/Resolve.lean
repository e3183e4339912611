import TopDown.Grammar.Declarations
import TopDown.Grammar.Vocabulary

/-!
# From declarations to a grammar

* `Options` : the spellings of the empty symbol that every grammar may use;
* `normalize` : a body without empty symbols, or `[.empty]` if nothing else is in it;
* `frame` : the names of a grammar, each once;
* `resolve` : the grammar that declarations describe over a lexicon. A production has the position
  of its declaration for its left-hand side, which is the number of the name if none is declared
  twice.
-/

namespace TopDown.Grammar

/-- Spellings of the empty symbol besides those of the lexicon. -/
structure Options where
  emptySymbols : List String := ["$", "eps"]
  deriving DecidableEq

/-- Drops the empty symbols of a body that holds anything else. -/
def normalize (symbols : List Symbol) : List Symbol :=
  let body := symbols.filter (· ≠ .empty)
  if body.isEmpty then [.empty] else body

/-- All spellings of the empty symbol, those of the lexicon first. -/
def emptySpellings (lexicon : Lexicon) (options : Options) : List String :=
  (lexicon.spellings .empty ++ options.emptySymbols).filter (!·.isEmpty)

/-- The symbols of a grammar, without productions. A name is numbered when it is met first. -/
def frame (ds : Declarations) (lexicon : Lexicon) (options : Options) : Grammar where
  terminals := lexicon.terminalNames.foldl addNew []
  nonterminals := ds.names.foldl addNew []
  productions := []
  emptyName := (emptySpellings lexicon options).headD "$"

/-- The production of one alternative of `d`, whose left-hand side has the number `lhs`. -/
def resolveAlternative (g : Grammar) (v : Vocabulary) (d : Declaration) (lhs : Nat)
    (a : Alternative) : Except SpecError Production :=
  match v.symbolsOf g a.text.toList with
  | .ok symbols => .ok ⟨lhs, normalize symbols⟩
  | .error symbol =>
    .error (.unresolved (String.ofList symbol) (d.lhs ++ " -> " ++ a.text) a.line)

/-- The grammar of the declarations, every symbol looked up among the left-hand sides, the
lexicon's rules and the spellings of the empty symbol. -/
def resolve (ds : Declarations) (lexicon : Lexicon) (options : Options) :
    Except SpecError Grammar :=
  if ds.isEmpty then .error .noProductions
  else
    let g := frame ds lexicon options
    let v := Vocabulary.ofGrammar g lexicon (emptySpellings lexicon options)
    let work := ds.zipIdx.flatMap fun (d, lhs) => d.alternatives.map fun a => (d, lhs, a)
    match work.mapM fun (d, lhs, a) => resolveAlternative g v d lhs a with
    | .ok productions => .ok { g with productions }
    | .error e => .error e

end TopDown.Grammar
