import TopDown.ParseError
import TopDown.Table.Basic

/-!
# The predictive stack machine

The machine reads a token stream with a stack of symbols. What a run produces is left to a
recorder, which gives out a slot for every stack entry and is told of every move before it is made.
The slots lie on a stack of their own, which is pushed and popped beside the other one.

* `StackEntry`, `Action` : what lies on the stack, and the moves;
* `Recorder` : the answers to a run's events;
* `chooseAction` : the move for the top of the stack under the lookahead, or why there is none;
* `Config`, `step` : the state of a run and one move; `push` : a symbol and its slot, each on its
  stack;
* `Grammar.moveBound` : how many moves a run can make at most. Under one lookahead the nonterminals
  on a path of expansions are distinct, so what one stack entry expands to has a bounded size;
* `drive` : a whole run.
-/

namespace TopDown

/-- An item on the stack. -/
inductive StackEntry where
  | finish
  | symbol (s : Symbol)
  deriving DecidableEq

def StackEntry.label (g : Grammar) : StackEntry → String
  | finish => "<end>"
  | symbol s => g.symbolName s

/-- A move of the machine. -/
inductive Action where
  /-- Pop a terminal that the current token stands for. -/
  | shift
  /-- Replace a nonterminal by the body of a production. -/
  | expand (production : Nat)
  /-- Pop the empty symbol. -/
  | epsilon
  | accept
  deriving DecidableEq

/-- Keeps a state `σ` along a run and a slot `ι` for every stack entry. Of the two stacks it is
shown that of the symbols, with its top first. -/
structure Recorder (σ ι : Type) where
  root : Nat → σ → ι × σ
  /-- One slot for every symbol of the body, in order; an error rejects the input. -/
  expand : ι → Production → Lexeme → σ → Except ParseError (List ι) × σ
  shift : ι → Token → σ → σ
  epsilon : ι → σ → σ
  /-- A move that is about to be made. -/
  step : List StackEntry → Lexeme → Action → σ → σ
  /-- The end of a run that rejects its input. -/
  reject : List StackEntry → ParseError → σ → σ

namespace Machine

/-- The error of seeing a lexeme where only `expected` may stand. -/
def unexpected (g : Grammar) (expected : List Lookahead) (l : Lexeme) : ParseError :=
  .unexpected l.offset (expected.map (·.describe g)) l.describe

/-- What a lexeme means to the table; a token of a terminal that the grammar lacks means nothing. -/
def lookahead? (g : Grammar) : Lexeme → Option Lookahead
  | .finish _ => some .finish
  | .token t => (g.terminal? t.terminal).map .terminal

/-- The move for the stack's top under a lexeme. -/
def chooseAction (g : Grammar) (t : Table) (entry : StackEntry) (l : Lexeme) :
    Except ParseError Action :=
  match entry with
  | .finish =>
    if lookahead? g l = some .finish then .ok .accept else .error (unexpected g [.finish] l)
  | .symbol .empty => .ok .epsilon
  | .symbol (.terminal id) =>
    if lookahead? g l = some (.terminal id) then .ok .shift
    else .error (unexpected g [.terminal id] l)
  | .symbol (.nonterminal id) =>
    match (lookahead? g l).bind (t.predict id) with
    | some production => .ok (.expand production)
    | none => .error (unexpected g (t.expected id) l)

/-- The next lexeme of a stream. A stream that has run out is at its end. -/
def advance : List Pull → Except LexError (Lexeme × List Pull)
  | [] => .ok (.finish 0, [])
  | .ok l :: rest => .ok (l, rest)
  | .error e :: _ => .error e

/-- The state of a run. -/
structure Config (σ ι : Type) where
  /-- The stack, top first. -/
  stack : List StackEntry
  /-- The slots of the entries, on a stack of their own. -/
  slots : List ι
  lookahead : Lexeme
  /-- The stream behind the lookahead. -/
  rest : List Pull
  record : σ

/-- Where a move leads. -/
inductive Outcome (σ ι : Type) where
  | running (c : Config σ ι)
  | accepted (record : σ)
  | rejected (stack : List StackEntry) (slots : List ι) (error : ParseError) (record : σ)

section

variable {σ ι : Type} (g : Grammar) (t : Table) (r : Recorder σ ι)

/-- Reads on behind a terminal, which has been popped. -/
def shift (below : List StackEntry) (under : List ι) (slot : ι) (l : Lexeme) (rest : List Pull)
    (record : σ) : Outcome σ ι :=
  let record :=
    match l with
    | .token t => r.shift slot t record
    | .finish _ => record
  match advance rest with
  | .ok (l, rest) => .running ⟨below, under, l, rest, record⟩
  | .error e => .rejected below under (.lexical e) record

/-- Pushes a symbol on the one stack and its slot on the other. -/
def push (both : List StackEntry × List ι) (x : Symbol × ι) : List StackEntry × List ι :=
  (.symbol x.1 :: both.1, x.2 :: both.2)

/-- Puts the body of a production in place of a nonterminal, which has been popped. The last symbol
is pushed first. -/
def expand (below : List StackEntry) (under : List ι) (slot : ι) (p : Production) (l : Lexeme)
    (rest : List Pull) (record : σ) : Outcome σ ι :=
  match r.expand slot p l record with
  | (.ok slots, record) =>
    let both := (p.body.zip slots).reverse.foldl push (below, under)
    .running ⟨both.1, both.2, l, rest, record⟩
  | (.error e, record) => .rejected below under e record

/-- One move. The top of each stack is popped before the move is made; a run accepts too when one of
the stacks is empty. -/
def step : Config σ ι → Outcome σ ι
  | ⟨entry :: below, slot :: under, l, rest, record⟩ =>
    match chooseAction g t entry l with
    | .error e => .rejected (entry :: below) (slot :: under) e record
    | .ok action =>
      let record := r.step (entry :: below) l action record
      match action with
      | .accept => .accepted record
      | .epsilon => .running ⟨below, under, l, rest, r.epsilon slot record⟩
      | .shift => shift r below under slot l rest record
      | .expand id => expand r below under slot (g.productions.getD id ⟨g.start, []⟩) l rest record
  | ⟨_, _, _, _, record⟩ => .accepted record

/-- At most `n` moves. -/
def run : Nat → Config σ ι → Outcome σ ι
  | 0, c => .running c
  | n + 1, c =>
    match step g t r c with
    | .running c => run n c
    | outcome => outcome

end

end Machine

namespace Grammar

/-- The length of the longest body. -/
def maxBody (g : Grammar) : Nat := (g.productions.map (·.body.length)).foldl max 0

/-- More moves than any run over `n` lexemes makes. -/
def moveBound (g : Grammar) (n : Nat) : Nat :=
  Nat.pow (g.maxBody + 2) (2 * g.nonterminals.length + 4) * (n + 4)

end Grammar

namespace Machine

variable {σ ι : Type}

/-- The configuration a run starts in: the start symbol over the end marker, both with the root's
slot. -/
def initial (g : Grammar) (root : ι) (l : Lexeme) (rest : List Pull) (record : σ) : Config σ ι :=
  ⟨[.symbol (.nonterminal g.start), .finish], [root, root], l, rest, record⟩

/-- Ends a run: the verdict and the final record. -/
def finish (r : Recorder σ ι) : Outcome σ ι → Except ParseError Unit × σ
  | .accepted record => (.ok (), record)
  | .rejected stack _ e record => (.error e, r.reject stack e record)
  | .running c =>
    let e := .unexpected c.lookahead.offset [] c.lookahead.describe
    (.error e, r.reject c.stack e c.record)

/-- Runs the machine over a stream, from the record `s` on. -/
def drive (g : Grammar) (t : Table) (r : Recorder σ ι) (stream : List Pull) (s : σ) :
    Except ParseError Unit × σ :=
  let (root, s) := r.root g.start s
  match advance stream with
  | .error e =>
    let e := .lexical e
    (.error e, r.reject (initial g root (.finish 0) [] s).stack e s)
  | .ok (l, rest) =>
    finish r (run g t r (g.moveBound stream.length) (initial g root l rest s))

end Machine

end TopDown
