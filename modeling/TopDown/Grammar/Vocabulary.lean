import TopDown.Grammar.Basic
import TopDown.Grammar.Piece
import TopDown.Lexicon.Basic
import TopDown.Unicode.Property

/-!
# Vocabularies: what the words of a body mean

Symbols may stand side by side in a word. A word is cut from the left, each time by the longest
spelling that starts what is left of it.

* `Meaning` : the symbol of a spelling, or that it names a nonterminal nobody declares;
* `Entry`, `Vocabulary` : spellings with their meanings, no spelling empty;
* `Vocabulary.longest?` : the entry that wins at the start of a text; among equally long ones a
  nonterminal wins over the empty symbol, the empty symbol over a terminal, the earlier entry over
  the later one;
* `Vocabulary.symbolsOfWord`, `Vocabulary.symbolsOf` : the symbols of a word and of an alternative.
-/

namespace TopDown.Grammar

open Text

/-- What a spelling stands for. -/
inductive Meaning where
  | symbol (s : Symbol)
  /-- The spelling of a nonterminal that is never a left-hand side. -/
  | undeclared
  deriving DecidableEq

/-- Precedence among equally long spellings, lowest first. -/
def Meaning.rank : Meaning → Nat
  | symbol (.nonterminal _) | undeclared => 0
  | symbol .empty => 1
  | symbol (.terminal _) => 2

/-- A spelling and its meaning. -/
structure Entry where
  spelling : List Char
  meaning : Meaning
  spelling_ne_nil : spelling ≠ []

/-- Entries in order of precedence. -/
abbrev Vocabulary := List Entry

namespace Entry

/-- The entry for a spelling, unless that is empty. -/
def ofSpelling? (spelling : String) (meaning : Meaning) : Option Entry :=
  if h : spelling.toList ≠ [] then some ⟨spelling.toList, meaning, h⟩ else none

/-- Whether `e` wins over an earlier entry `best` that also matches. -/
def beats (e best : Entry) : Bool :=
  best.spelling.length < e.spelling.length ||
    (e.spelling.length == best.spelling.length && e.meaning.rank < best.meaning.rank)

end Entry

/-- The meaning of a spelling that the lexicon declares for a nonterminal. -/
def nonterminalMeaning (g : Grammar) (spelling : String) : Meaning :=
  match g.nonterminal? spelling with
  | some id => .symbol (.nonterminal id)
  | none => .undeclared

namespace Vocabulary

/-- The spellings of all symbols of `g`: left-hand sides, the lexicon's nonterminal spellings, the
spellings of the empty symbol, and terminals. -/
def ofGrammar (g : Grammar) (lexicon : Lexicon) (empties : List String) : Vocabulary :=
  g.nonterminals.zipIdx.filterMap (fun (name, id) =>
    Entry.ofSpelling? name (.symbol (.nonterminal id))) ++
  (lexicon.spellings .nonterminal).filterMap (fun s =>
    Entry.ofSpelling? s (nonterminalMeaning g s)) ++
  empties.filterMap (Entry.ofSpelling? · (.symbol .empty)) ++
  g.terminals.zipIdx.filterMap (fun (name, id) =>
    Entry.ofSpelling? name (.symbol (.terminal id)))

/-- The winning entry at the start of `rest`. -/
def longest? (v : Vocabulary) (rest : List Char) : Option Entry :=
  v.foldl
    (fun best e =>
      if e.spelling.isPrefixOf rest then
        match best with
        | none => some e
        | some b => if e.beats b then some e else some b
      else best)
    none

end Vocabulary

/-- A character that may stand in a name. -/
def isNameLike (c : Char) : Bool := Unicode.isAlphanumeric c || c == '_' || c == '\''

/-- The part of `rest` to blame when no entry starts it: the name at its start, or its first
character. -/
def unmatched (rest : List Char) : List Char :=
  let name := rest.takeWhile isNameLike
  if name.isEmpty then rest.take 1 else name

namespace Vocabulary

/-- The symbols of a word, or the part of it that has no meaning. -/
def symbolsOfWord (v : Vocabulary) (rest : List Char) : Except (List Char) (List Symbol) :=
  match rest with
  | [] => .ok []
  | c :: cs =>
    match v.longest? (c :: cs) with
    | none => .error (unmatched (c :: cs))
    | some e =>
      match e.meaning with
      | .undeclared => .error e.spelling
      | .symbol s =>
        have := List.length_pos_iff.2 e.spelling_ne_nil
        match v.symbolsOfWord ((c :: cs).drop e.spelling.length) with
        | .ok symbols => .ok (s :: symbols)
        | .error text => .error text
termination_by rest.length
decreasing_by
  simp only [List.length_drop, List.length_cons]
  omega

/-- The symbols of a piece, or the text to blame. A literal names the terminal of its unescaped
content. -/
def symbolsOfPiece (v : Vocabulary) (g : Grammar) : Piece → Except (List Char) (List Symbol)
  | .literal _ content =>
    match g.terminal? (String.ofList (unescape content)) with
    | some id => .ok [.terminal id]
    | none => .error ('"' :: unescape content ++ ['"'])
  | .word text => v.symbolsOfWord text

/-- The symbols of an alternative, or the text to blame. -/
def symbolsOf (v : Vocabulary) (g : Grammar) (text : List Char) :
    Except (List Char) (List Symbol) :=
  match (pieces text).mapM (v.symbolsOfPiece g) with
  | .ok symbols => .ok symbols.flatten
  | .error text => .error text

end Vocabulary

end TopDown.Grammar
