import TopDown.Proofs.Machine.Acceptance
import TopDown.Proofs.Text.Lines
import TopDown.Proofs.Tree.Derivation

/-!
# Traces are faithful

A line of a trace says in words what was done. Replayed from the first stack, over the lexemes of
the input and with the table at hand, the lines give back every stack of the run, and the verdict is
what the last of these stacks calls for.

* `TraceStep.verb`, `verb_eq` : the first word of an action, which tells the moves apart;
* `Validation.replay` : what the lines of a trace do to a stack and the lexemes in front of it;
* `Validation.Follows` : lines that can be replayed, with what they show and leave;
  `Follows.shift`, `Follows.epsilon`, `Follows.expand` : every move adds such a line;
* `traced_start`, `traced_step` : the invariant of a run;
* `Validation.Logs`, `exists_logs` : a trace whose last line is the verdict, however the run ends;
* `validate_replays` : every trace is one.
-/

namespace TopDown

open Machine

/-- The first word of the action. -/
def TraceStep.verb (line : TraceStep) : String :=
  String.ofList (line.action.toList.takeWhile (· ≠ ' '))

theorem verb_eq {line : TraceStep} {word : String} (text : String)
    (h : line.action = word ++ " " ++ text) (hword : ' ' ∉ word.toList) : line.verb = word := by
  have hrun : ∀ c ∈ word.toList, decide (c ≠ ' ') = true := by
    intro c hc
    simp only [decide_eq_true_eq]
    rintro rfl
    exact hword hc
  rw [TraceStep.verb, h, String.toList_append, String.toList_append, List.append_assoc,
    Text.takeWhile_append_stop hrun (by simp [Text.Stops]), String.ofList_toList]

namespace Validation

/-! ## Replay -/

/-- The production that the table predicts for the top of a stack under the next lexeme. -/
def predicted? (g : Grammar) (t : Table) (top : StackEntry) (pending : List Pull) :
    Option Production :=
  match top, advance pending with
  | .symbol (.nonterminal a), .ok (l, _) =>
    ((lookahead? g l).bind (t.predict a)).bind fun id => g.productions[id]?
  | _, _ => none

/-- What a line does to a stack and the lexemes in front of it. A match takes the top and a lexeme
off, a skip takes the top off, and a prediction puts in place of the top the body of the production
that the table predicts. It must show this production as `A -> x y z`, by the names of its symbols.
No other line can be replayed. -/
def replayLine (g : Grammar) (t : Table) (line : TraceStep) :
    List StackEntry × List Pull → Option (List StackEntry × List Pull)
  | ([], _) => none
  | (top :: below, pending) =>
    if line.verb = "match" then some (below, pending.tail)
    else if line.verb = "skip" then some (below, pending)
    else if line.verb = "predict" then
      (predicted? g t top pending).bind fun p =>
        if line.action = "predict " ++ g.nonterminalName p.lhs ++ " -> " ++
            " ".intercalate (p.body.map g.symbolName) then
          some (p.body.map .symbol ++ below, pending)
        else none
    else none

/-- What lines do one after the other. -/
def replay (g : Grammar) (t : Table) (lines : List TraceStep)
    (x : List StackEntry × List Pull) : Option (List StackEntry × List Pull) :=
  lines.foldlM (fun x line => replayLine g t line x) x

/-- The line shows the stack that the lines before it lead to. -/
def Shows (g : Grammar) (t : Table) (x : List StackEntry × List Pull) (before : List TraceStep)
    (line : TraceStep) : Prop :=
  ∃ stack pending, replay g t before x = some (stack, pending) ∧ line.depth = stack.length ∧
    stack.head?.map (StackEntry.label g) = some line.top

variable {g : Grammar} {t : Table} {x : List StackEntry × List Pull} {lines : List TraceStep}
  {line : TraceStep} {stack below : List StackEntry} {pending : List Pull}

theorem replay_concat {y : List StackEntry × List Pull} (h : replay g t lines x = some y) :
    replay g t (lines ++ [line]) x = replayLine g t line y := by
  rw [replay, List.foldlM_append]
  rw [replay] at h
  rw [h]
  simp

/-! ## Lines -/

/-- The line of a move on a stack under a lexeme. -/
def lineOf (g : Grammar) (stack : List StackEntry) (l : Lexeme) (action : Action) :
    TraceStep :=
  ⟨stack.length, topLabel g stack, l.describe ++ " at " ++ toString l.offset,
    describeAction g l action⟩

/-- The line of an error on a stack. -/
def lineOfError (g : Grammar) (stack : List StackEntry) (e : ParseError) : TraceStep :=
  ⟨stack.length, topLabel g stack, "offset " ++ toString e.offset, "error: " ++ e.message⟩

/-- The lexeme and the action in the lines that match a token. -/
def matched (lines : List TraceStep) : List (String × String) :=
  (lines.filter (·.verb = "match")).map fun line => (line.input, line.action)

/-- How a token is shown where it is matched. -/
def shown (token : Token) : String × String :=
  ((Lexeme.token token).describe ++ " at " ++ toString token.start,
    "match " ++ (Lexeme.token token).describe)

section Lines

variable (stack : List StackEntry) (l : Lexeme)

theorem verb_shift : (lineOf g stack l .shift).verb = "match" :=
  verb_eq l.describe rfl (by decide)

theorem verb_epsilon : (lineOf g stack l .epsilon).verb = "skip" :=
  verb_eq g.emptyName rfl (by decide)

theorem verb_expand (id : Nat) : (lineOf g stack l (.expand id)).verb = "predict" :=
  verb_eq (g.describe id) rfl (by decide)

theorem replayLine_shift (top : StackEntry) :
    replayLine g t (lineOf g stack l .shift) (top :: below, pending) =
      some (below, pending.tail) := by
  rw [replayLine, if_pos (verb_shift stack l)]

theorem replayLine_epsilon (top : StackEntry) :
    replayLine g t (lineOf g stack l .epsilon) (top :: below, pending) = some (below, pending) := by
  rw [replayLine, verb_epsilon, if_neg (by decide), if_pos rfl]

theorem replayLine_expand {a id : Nat} {y : Lookahead} {p : Production} {rest : List Pull}
    (hnext : advance pending = .ok (l, rest)) (hy : lookahead? g l = some y)
    (hid : t.predict a y = some id) (hp : g.productions[id]? = some p) :
    replayLine g t (lineOf g stack l (.expand id)) (.symbol (.nonterminal a) :: below, pending) =
      some (p.body.map .symbol ++ below, pending) := by
  have hpredicted : predicted? g t (.symbol (.nonterminal a)) pending = some p := by
    simp only [predicted?, hnext, hy, Option.bind_some, hid, hp]
  have haction : (lineOf g stack l (.expand id)).action =
      "predict " ++ g.nonterminalName p.lhs ++ " -> " ++
        " ".intercalate (p.body.map g.symbolName) := by
    simp only [lineOf, describeAction, Grammar.describe, hp, Grammar.describeProduction,
      String.append_assoc]
  rw [replayLine, verb_expand, if_neg (by decide), if_neg (by decide), if_pos rfl, hpredicted,
    Option.bind_some, if_pos haction]

end Lines

theorem matched_concat (lines : List TraceStep) (line : TraceStep) :
    matched (lines ++ [line]) =
      matched lines ++ if line.verb = "match" then [(line.input, line.action)] else [] := by
  rw [matched, List.filter_append, List.map_append, ← matched]
  split <;> simp [*]

/-! ## The invariant -/

/-- Lines that can be replayed down to a stack and the lexemes in front of it. They show every stack
on the way, and the tokens that have been passed. -/
structure Follows (g : Grammar) (x : List StackEntry × List Pull) (lines : List TraceStep)
    (stack : List StackEntry) (pending : List Pull) : Prop where
  shows : ∀ before line after, lines = before ++ line :: after → Shows g g.table x before line
  replayed : replay g g.table lines x = some (stack, pending)
  moves : ∀ line ∈ lines, line.verb ∈ ["match", "skip", "predict"]
  passes : ∃ tokens, Behind x.2 tokens pending ∧ matched lines = tokens.map shown
  grounded : ∃ symbols : List Symbol, stack = symbols.map .symbol ++ [.finish]

namespace Follows

section Moves

variable {top : StackEntry} {l : Lexeme}

/-- A move adds its line, which shows the stack before it. -/
theorem move {action : Action} {stack : List StackEntry} {after : List Pull}
    (h : Follows g x lines (top :: below) pending)
    (hverb : (lineOf g (top :: below) l action).verb ∈ ["match", "skip", "predict"])
    (hreplay : replayLine g g.table (lineOf g (top :: below) l action) (top :: below, pending) =
      some (stack, after))
    (hpasses : ∃ tokens, Behind x.2 tokens after ∧
      matched (lines ++ [lineOf g (top :: below) l action]) = tokens.map shown)
    (hgrounded : ∃ symbols : List Symbol, stack = symbols.map .symbol ++ [.finish]) :
    Follows g x (lines ++ [lineOf g (top :: below) l action]) stack after where
  shows := forall_split_concat h.shows ⟨_, _, h.replayed, rfl, rfl⟩
  replayed := (replay_concat h.replayed).trans hreplay
  moves := List.forall_mem_append.2 ⟨h.moves, List.forall_mem_singleton.2 hverb⟩
  passes := hpasses
  grounded := hgrounded

/-- A line that matches nothing leaves the tokens that have been passed. -/
theorem passes_concat (h : Follows g x lines stack pending) (hverb : line.verb ≠ "match") :
    ∃ tokens, Behind x.2 tokens pending ∧ matched (lines ++ [line]) = tokens.map shown := by
  rw [matched_concat, if_neg hverb, List.append_nil]
  exact h.passes

/-- The symbols under the top lie on the end marker. -/
theorem grounded_below {y : Symbol} (h : Follows g x lines (.symbol y :: below) pending) :
    ∃ symbols : List Symbol, below = symbols.map .symbol ++ [.finish] := by
  obtain ⟨symbols, hsymbols⟩ := h.grounded
  obtain ⟨symbols', -, hbelow⟩ := symbols_below hsymbols
  exact ⟨symbols', hbelow⟩

theorem epsilon (h : Follows g x lines (.symbol .empty :: below) pending) :
    Follows g x (lines ++ [lineOf g (.symbol .empty :: below) l .epsilon]) below pending :=
  h.move (by simp [verb_epsilon]) (replayLine_epsilon _ _ _)
    (h.passes_concat (by simp [verb_epsilon])) h.grounded_below

theorem shift {id : Nat} {token : Token} {rest : List Pull}
    (h : Follows g x lines (.symbol (.terminal id) :: below) (.ok (.token token) :: rest)) :
    Follows g x (lines ++ [lineOf g (.symbol (.terminal id) :: below) (.token token) .shift])
      below rest := by
  refine h.move (by simp [verb_shift]) (replayLine_shift _ _ _) ?_ h.grounded_below
  obtain ⟨tokens, hbehind, hmatched⟩ := h.passes
  refine ⟨tokens ++ [token], hbehind.shift rfl, ?_⟩
  rw [matched_concat, verb_shift, if_pos rfl, hmatched, List.map_append]
  rfl

theorem expand {id : Nat} {y : Lookahead} {p : Production} {rest : List Pull}
    (h : Follows g x lines (.symbol (.nonterminal p.lhs) :: below) pending)
    (hnext : advance pending = .ok (l, rest)) (hy : lookahead? g l = some y)
    (hid : g.table.predict p.lhs y = some id) (hp : g.productions[id]? = some p) :
    Follows g x (lines ++ [lineOf g (.symbol (.nonterminal p.lhs) :: below) l (.expand id)])
      (p.body.map .symbol ++ below) pending := by
  refine h.move (by simp [verb_expand]) (replayLine_expand _ _ hnext hy hid hp)
    (h.passes_concat (by simp [verb_expand])) ?_
  obtain ⟨symbols, hbelow⟩ := h.grounded_below
  exact ⟨p.body ++ symbols, by rw [hbelow, List.map_append, List.append_assoc]⟩

end Moves

end Follows

/-- The stack that a run starts with. -/
def firstStack (g : Grammar) : List StackEntry := [.symbol (.nonterminal g.start), .finish]

/-- The trace so far can be replayed, over what is left of the stream. -/
def Traced (g : Grammar) (stream : List Pull) (c : Config (Array TraceStep) Unit) : Prop :=
  ∃ pending, Follows g (firstStack g, stream) c.record.toList c.stack pending ∧
    advance pending = .ok (c.lookahead, c.rest)

theorem follows_nil (g : Grammar) (stream : List Pull) :
    Follows g (firstStack g, stream) [] (firstStack g) stream where
  shows := forall_split_nil
  replayed := rfl
  moves _ h := nomatch h
  passes := ⟨[], rfl, rfl⟩
  grounded := ⟨[.nonterminal g.start], rfl⟩

theorem traced_start {stream rest : List Pull} {l : Lexeme} (h : advance stream = .ok (l, rest)) :
    Traced g stream (start g (recorder g) l rest #[]) :=
  ⟨stream, follows_nil g stream, h⟩

theorem traced_step {stream : List Pull} (c c' : Config (Array TraceStep) Unit)
    (h : Traced g stream c) (heffect : Effect g g.table (recorder g) c (.running c')) :
    Traced g stream c' := by
  obtain ⟨pending, hfollows, hnext⟩ := h
  cases heffect with
  | epsilon =>
    refine ⟨pending, ?_, hnext⟩
    simp only [recorder, Array.toList_push]
    exact hfollows.epsilon
  | shift hid hadvance =>
    rw [advance_token hnext] at hfollows
    refine ⟨_, ?_, hadvance⟩
    simp only [recorder, Array.toList_push]
    exact hfollows.shift
  | @expand a slot below under l rest s y id slots s' hy hid hs =>
    obtain ⟨hp, rfl⟩ := production_of_predict hid
    have hslots := map_fst_zip_slots (fillsBodies g _ _ _ _ _ _ hs)
    cases hs
    refine ⟨pending, ?_, hnext⟩
    simp only [hslots, recorder, Array.toList_push]
    exact hfollows.expand hnext hy hid hp

/-! ## The verdict -/

/-- A line that can be replayed neither accepts nor shows an error. -/
theorem Follows.not_last (h : Follows g x lines stack pending) (hline : line ∈ lines) :
    line.action ≠ "accept" ∧ ∀ text, line.action ≠ "error: " ++ text := by
  have hverb := h.moves line hline
  constructor
  · intro haccept
    have hword : line.verb = "accept" := by
      rw [TraceStep.verb, haccept]
      decide
    rw [hword] at hverb
    exact absurd hverb (by decide)
  · intro text herror
    have hword : line.verb = "error:" :=
      verb_eq text (herror.trans (by rw [String.append_assoc]; rfl)) (by decide)
    rw [hword] at hverb
    exact absurd hverb (by decide)

/-- The trace of a verdict on an input can be replayed up to its last line, which is what the stack
that the others lead to calls for. -/
structure Logs (g : Grammar) (tokenizer : Tokenizer) (input : String) (v : Validation)
    (moves : List TraceStep) (last : TraceStep) (stack : List StackEntry) (pending : List Pull) :
    Prop where
  trace_eq : v.trace = moves ++ [last]
  follows : Follows g (firstStack g, (tokenizer.scan input).lexemes) moves stack pending
  depth_eq : last.depth = stack.length
  top_eq : stack.head?.map (StackEntry.label g) = some last.top
  accepted : v.accepted = true → v.error = none ∧ last.depth = 1 ∧ last.top = "<end>" ∧
    last.action = "accept" ∧ ∃ tokens, tokenizer.tokenize input = .ok tokens ∧
      matched moves = tokens.map shown
  rejected : v.accepted = false → ∃ e, v.error = some e ∧ Refuses g g.table stack pending e ∧
    last.input = "offset " ++ toString e.offset ∧ last.action = "error: " ++ e.message

/-- A trace has one last line. -/
theorem Logs.of_trace_eq {tokenizer : Tokenizer} {input : String} {v : Validation}
    {moves moves' : List TraceStep} {last last' : TraceStep}
    (h : Logs g tokenizer input v moves last stack pending) (htrace : v.trace = moves' ++ [last']) :
    Logs g tokenizer input v moves' last' stack pending := by
  obtain ⟨rfl, hlast⟩ := List.append_inj' (h.trace_eq.symm.trans htrace) rfl
  obtain rfl := List.singleton_inj.1 hlast
  exact h

section Verdict

variable {tokenizer : Tokenizer} {input : String}

/-- The log of a run that is rejected. -/
theorem Follows.logs_rejection {e : ParseError}
    (h : Follows g (firstStack g, (tokenizer.scan input).lexemes) lines stack pending)
    (hrefuses : Refuses g g.table stack pending e) :
    Logs g tokenizer input ⟨false, lines ++ [lineOfError g stack e], some e⟩ lines
      (lineOfError g stack e) stack pending where
  trace_eq := rfl
  follows := h
  depth_eq := rfl
  top_eq := by
    obtain ⟨symbols, hsymbols⟩ := h.grounded
    cases stack with
    | nil => cases symbols <;> cases hsymbols
    | cons top below => rfl
  accepted := nofun
  rejected _ := ⟨e, rfl, hrefuses, rfl, rfl⟩

/-- The log of a run that accepts. -/
theorem Follows.logs_acceptance {n : Nat}
    (h : Follows g (firstStack g, (tokenizer.scan input).lexemes) lines (.finish :: below) pending)
    (hend : AtEnd pending) :
    Logs g tokenizer input ⟨true, lines ++ [lineOf g (.finish :: below) (.finish n) .accept], none⟩
      lines (lineOf g (.finish :: below) (.finish n) .accept) (.finish :: below) pending where
  trace_eq := rfl
  follows := h
  depth_eq := rfl
  top_eq := rfl
  accepted _ := by
    obtain ⟨symbols, hsymbols⟩ := h.grounded
    obtain ⟨tokens, hbehind, hmatched⟩ := h.passes
    refine ⟨rfl, ?_, rfl, rfl, tokens, tokenize_of_behind hbehind hend, hmatched⟩
    cases symbols with
    | nil =>
      cases hsymbols
      rfl
    | cons x symbols => cases hsymbols
  rejected := nofun

end Verdict

/-- The verdict of a run that has ended. -/
def ofResult : Except ParseError Unit × Array TraceStep → Validation
  | (.ok (), steps) => ⟨true, steps.toList, none⟩
  | (.error e, steps) => ⟨false, steps.toList, some e⟩

theorem validate_of_error {tokenizer : Tokenizer} {input : String} {e : LexError}
    (h : advance (tokenizer.scan input).lexemes = .error e) :
    validate g t tokenizer input =
      ⟨false, [lineOfError g (firstStack g) (.lexical e)], some (.lexical e)⟩ := by
  simp only [validate, drive, h]
  rfl

theorem validate_of_advance {tokenizer : Tokenizer} {input : String} {l : Lexeme}
    {rest : List Pull} (h : advance (tokenizer.scan input).lexemes = .ok (l, rest)) :
    validate g t tokenizer input =
      ofResult (finish (recorder g) (run g t (recorder g)
        (g.moveBound (tokenizer.scan input).lexemes.length)
        (start g (recorder g) l rest #[]))) := by
  rw [← drive_of_advance h]
  rfl

/-- The last move of a run ends its log. -/
theorem exists_logs {tokenizer : Tokenizer} {input : String} {c : Config (Array TraceStep) Unit}
    {outcome : Outcome (Array TraceStep) Unit}
    (h : Traced g (tokenizer.scan input).lexemes c) (hfinal : outcome.IsFinal)
    (heffect : Effect g g.table (recorder g) c outcome) :
    ∃ moves last stack pending, Logs g tokenizer input (ofResult (finish (recorder g) outcome))
      moves last stack pending := by
  obtain ⟨pending, hfollows, hnext⟩ := h
  cases heffect with
  | exhausted =>
    obtain ⟨symbols, hsymbols⟩ := hfollows.grounded
    cases symbols <;> cases hsymbols
  | stuck hchoose =>
    have hlogs := hfollows.logs_rejection (.stuck hnext hchoose)
    exact ⟨_, _, _, _, by simpa [ofResult, finish, recorder, lineOfError] using hlogs⟩
  | @accept slot below under n =>
    have hlogs := hfollows.logs_acceptance (n := n) (atEnd_of_advance hnext)
    exact ⟨_, _, _, _, by simpa [ofResult, finish, recorder, lineOf] using hlogs⟩
  | epsilon => cases hfinal
  | shift => cases hfinal
  | unreadable hid hadvance =>
    rw [advance_token hnext] at hfollows
    have hlogs := hfollows.shift.logs_rejection (refuses_of_advance hadvance)
    exact ⟨_, _, _, _, by simpa [ofResult, finish, recorder, lineOf, lineOfError] using hlogs⟩
  | expand => cases hfinal
  | refused _ _ hs => cases hs

end Validation

open Validation

/-- All lines of a trace but the last can be replayed from the first stack, over the lexemes of the
input: each shows the stack that those before it lead to, and so does the last. That one accepts
the end marker alone, once each token of the input has been matched by one line, or it shows the
error that the stack calls for and that is returned. -/
theorem validate_replays {ds : Grammar.Declarations} {lexicon : Lexicon}
    {options : Grammar.Options} {g : Grammar} (hds : ds.names.Nodup)
    (hg : Grammar.resolve ds lexicon options = .ok g) (tokenizer : Tokenizer) (input : String) :
    ∃ moves last stack pending,
      Logs g tokenizer input (validate g g.table tokenizer input) moves last stack pending ∧
        ∀ line ∈ moves, line.action ≠ "accept" ∧ ∀ text, line.action ≠ "error: " ++ text := by
  have hg := Grammar.WellFormed.of_resolve hds hg
  suffices hlogs : ∃ moves last stack pending,
      Logs g tokenizer input (validate g g.table tokenizer input) moves last stack pending by
    obtain ⟨moves, last, stack, pending, hlogs⟩ := hlogs
    exact ⟨moves, last, stack, pending, hlogs, fun _ => hlogs.follows.not_last⟩
  cases hnext : advance (tokenizer.scan input).lexemes with
  | error e =>
    rw [validate_of_error hnext]
    exact ⟨_, _, _, _, (follows_nil g _).logs_rejection (refuses_of_advance hnext)⟩
  | ok next =>
    obtain ⟨l, rest⟩ := next
    rw [validate_of_advance hnext]
    have hfinal := run_halts hg (fillsBodies g) hnext #[] (Nat.le_succ _)
    obtain ⟨c, hc, heffect⟩ := run_stopped traced_step (paired_start ..) (traced_start hnext) hfinal
    exact exists_logs hc hfinal heffect

/-- The lines for `()` show what is predicted, matched and skipped, and those for `(` end with the
error. In `(]` the run ends between two lexemes. -/
theorem validate_replays_parens :
    (∃ stack pending, Logs parens parensTokenizer "()"
      (validate parens parens.table parensTokenizer "()")
      [⟨2, "S", "`(` at 0", "predict S -> ( S ) S"⟩, ⟨5, "(", "`(` at 0", "match `(`"⟩,
        ⟨4, "S", "`)` at 1", "predict S -> eps"⟩, ⟨4, "eps", "`)` at 1", "skip eps"⟩,
        ⟨3, ")", "`)` at 1", "match `)`"⟩, ⟨2, "S", "end of input at 2", "predict S -> eps"⟩,
        ⟨2, "eps", "end of input at 2", "skip eps"⟩]
      ⟨1, "<end>", "end of input at 2", "accept"⟩ stack pending) ∧
    (∃ stack pending, Logs parens parensTokenizer "("
      (validate parens parens.table parensTokenizer "(")
      [⟨2, "S", "`(` at 0", "predict S -> ( S ) S"⟩, ⟨5, "(", "`(` at 0", "match `(`"⟩,
        ⟨4, "S", "end of input at 1", "predict S -> eps"⟩,
        ⟨4, "eps", "end of input at 1", "skip eps"⟩]
      ⟨3, ")", "offset 1", "error: syntax error at offset 1: expected `)`, found end of input"⟩
      stack pending) ∧
    (validate parens parens.table parensTokenizer "()").accepted = true ∧
    (validate parens parens.table parensTokenizer "(").accepted = false ∧
    (validate parens parens.table parensTokenizer "(]").accepted = false ∧
    ∃ moves last stack pending, Logs parens parensTokenizer "(]"
      (validate parens parens.table parensTokenizer "(]") moves last stack pending ∧
      moves.map TraceStep.action = ["predict S -> ( S ) S", "match `(`"] ∧
      last.depth = 4 ∧ last.top = "S" ∧ last.input = "offset 1" := by
  obtain ⟨_, _, stack, pending, haccepted, -⟩ :=
    validate_replays (by decide) resolve_parens parensTokenizer "()"
  obtain ⟨_, _, stack', pending', hrejected, -⟩ :=
    validate_replays (by decide) resolve_parens parensTokenizer "("
  obtain ⟨moves, last, stack'', pending'', hunreadable, -⟩ :=
    validate_replays (by decide) resolve_parens parensTokenizer "(]"
  have htexts : (validate parens parens.table parensTokenizer "(]").trace.dropLast.map
      TraceStep.action = ["predict S -> ( S ) S", "match `(`"] := by decide +kernel
  have hlast : (validate parens parens.table parensTokenizer "(]").trace.getLast?.map
      (fun line => (line.depth, line.top, line.input)) = some (4, "S", "offset 1") := by
    decide +kernel
  rw [hunreadable.trace_eq, List.dropLast_concat] at htexts
  rw [hunreadable.trace_eq, List.getLast?_concat] at hlast
  obtain ⟨hdepth, hshown⟩ := Prod.mk.inj (Option.some.inj hlast)
  obtain ⟨htop, hinput⟩ := Prod.mk.inj hshown
  exact ⟨⟨stack, pending, haccepted.of_trace_eq (by decide +kernel)⟩,
    ⟨stack', pending', hrejected.of_trace_eq (by decide +kernel)⟩,
    by decide +kernel, by decide +kernel, by decide +kernel,
    moves, last, stack'', pending'', hunreadable, htexts, hdepth, htop, hinput⟩

end TopDown
