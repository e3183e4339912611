import TopDown.Proofs.Grammar.Language
import TopDown.Proofs.Machine.Run
import TopDown.Proofs.Table.Cells
import TopDown.Proofs.Tokenizer.Reading

/-!
# Every run is a leftmost derivation

The tokens shifted so far and the symbols on the stack make up a sentential form. A shift moves a
terminal from the one to the other, an expansion applies its production at the leftmost
nonterminal, and nothing else changes the form.

* `Reflects` : the form that a list of reports derives is that of the shifted tokens and a stack;
* `Leftmost`, `leftmost_start`, `leftmost_step` : the invariant of a run;
* `drive_derives_leftmost` : it holds at every report, and a run that accepts has shifted all tokens
  up to the end.
-/

namespace TopDown.Machine

open Grammar

variable {σ ι : Type} {g : Grammar} {r : Recorder σ ι}

/-! ## Forms -/

/-- The terminals of tokens, which the grammar must know. -/
def terminalsOf (g : Grammar) (tokens : List Token) : Option (List Nat) :=
  tokens.mapM fun token => g.terminal? token.terminal

/-- The productions reported so far derive, each at the leftmost nonterminal, the form of the tokens
shifted so far and the symbols of the stack, which lie on the end marker. -/
def Reflects (g : Grammar) (calls : List StepCall) (stack : List StackEntry) : Prop :=
  ∃ w symbols, terminalsOf g (StepCall.tokens calls) = some w ∧
    stack = symbols.map .symbol ++ [.finish] ∧
    g.deriveLeftmost (StepCall.productions calls) [.nonterminal g.start] =
      some (w.map .terminal ++ bare symbols)

/-- The symbols of a stack without its top. -/
theorem symbols_below {x : Symbol} {below : List StackEntry} {symbols : List Symbol}
    (h : .symbol x :: below = symbols.map StackEntry.symbol ++ [.finish]) :
    ∃ symbols', symbols = x :: symbols' ∧ below = symbols'.map .symbol ++ [.finish] := by
  cases symbols with
  | nil => cases h
  | cons y symbols =>
    cases h
    exact ⟨symbols, rfl, rfl⟩

section Reports

variable {calls : List StepCall} {stack : List StackEntry} {l : Lexeme}

theorem Reflects.epsilon (h : Reflects g calls (.symbol .empty :: stack)) :
    Reflects g (calls ++ [⟨.symbol .empty :: stack, l, .epsilon⟩]) stack := by
  obtain ⟨w, symbols, hw, hstack, hform⟩ := h
  obtain ⟨symbols, rfl, hbelow⟩ := symbols_below hstack
  refine ⟨w, symbols, ?_, hbelow, ?_⟩
  · rw [StepCall.tokens_concat]
    simpa [StepCall.token?] using hw
  · rw [StepCall.productions_concat]
    simpa [StepCall.production?] using hform

theorem Reflects.shift {id : Nat} {token : Token} (hid : g.terminal? token.terminal = some id)
    (h : Reflects g calls (.symbol (.terminal id) :: stack)) :
    Reflects g (calls ++ [⟨.symbol (.terminal id) :: stack, .token token, .shift⟩]) stack := by
  obtain ⟨w, symbols, hw, hstack, hform⟩ := h
  obtain ⟨symbols, rfl, hbelow⟩ := symbols_below hstack
  refine ⟨w ++ [id], symbols, ?_, hbelow, ?_⟩
  · unfold terminalsOf at hw ⊢
    rw [StepCall.tokens_concat, List.mapM_append, hw]
    simp [StepCall.token?, hid]
  · rw [StepCall.productions_concat]
    simpa [StepCall.production?] using hform

theorem Reflects.expand {id : Nat} {p : Production} (hp : g.productions[id]? = some p)
    (h : Reflects g calls (.symbol (.nonterminal p.lhs) :: stack)) :
    Reflects g (calls ++ [⟨.symbol (.nonterminal p.lhs) :: stack, l, .expand id⟩])
      (p.body.map .symbol ++ stack) := by
  obtain ⟨w, symbols, hw, hstack, hform⟩ := h
  obtain ⟨symbols, rfl, rfl⟩ := symbols_below hstack
  refine ⟨w, p.body ++ symbols, ?_, ?_, ?_⟩
  · rw [StepCall.tokens_concat]
    simpa [StepCall.token?] using hw
  · rw [List.map_append, List.append_assoc]
  · have hid : StepCall.production? ⟨.symbol (.nonterminal p.lhs) :: (symbols.map .symbol ++
        [.finish]), l, .expand id⟩ = some id := rfl
    rw [StepCall.productions_concat, hid, Option.toList_some, deriveLeftmost_concat, hform,
      Option.bind_some, bare_append]
    exact rewriteLeftmost_terminals hp w (bare symbols)

end Reports

/-! ## The invariant -/

/-- Every report in a list reflects the stack it was made with. -/
def AllReflect (g : Grammar) (calls : List StepCall) : Prop :=
  ∀ before call after, calls = before ++ call :: after → Reflects g before call.stack

theorem AllReflect.concat {calls : List StepCall} {call : StepCall} (h : AllReflect g calls)
    (hcall : Reflects g calls call.stack) : AllReflect g (calls ++ [call]) :=
  forall_split_concat h hcall

/-- What is left of a stream once tokens have been read off it. -/
def Behind (stream : List Pull) (tokens : List Token) (pending : List Pull) : Prop :=
  stream = Token.pulls tokens ++ pending

/-- The invariant of a run: all reports and the stack reflect the reports before them, and the
stream is the shifted tokens with what is pending behind them. -/
structure Leftmost (g : Grammar) (stream : List Pull) (c : Config (σ × List StepCall) ι) :
    Prop where
  calls : AllReflect g c.record.2
  reflects : Reflects g c.record.2 c.stack
  pending : ∃ pending, Behind stream (StepCall.tokens c.record.2) pending ∧
    advance pending = .ok (c.lookahead, c.rest)

theorem leftmost_start {stream rest : List Pull} {l : Lexeme} (h : advance stream = .ok (l, rest))
    (s : σ) : Leftmost g stream (start g r.logged l rest (s, [])) where
  calls := forall_split_nil
  reflects := ⟨[], [.nonterminal g.start], rfl, rfl, rfl⟩
  pending := ⟨stream, rfl, h⟩

/-- A token that comes next is at the head of the stream. -/
theorem advance_token {pending rest : List Pull} {token : Token}
    (h : advance pending = .ok (.token token, rest)) :
    pending = .ok (.token token) :: rest := by
  match pending with
  | [] => cases h
  | .ok l :: _ =>
    cases h
    rfl
  | .error e :: _ => cases h

/-- With a slot for every symbol the whole body is pushed. -/
theorem map_fst_zip_slots {p : Production} {slots : List ι} (h : slots.length = p.body.length) :
    (p.body.zip slots).map (fun x => StackEntry.symbol x.1) = p.body.map .symbol := by
  calc (p.body.zip slots).map (fun x => StackEntry.symbol x.1)
      = ((p.body.zip slots).map Prod.fst).map .symbol := List.map_map.symm
    _ = p.body.map .symbol := by rw [List.map_fst_zip (Nat.le_of_eq h.symm)]

theorem map_snd_zip_slots {p : Production} {slots : List ι} (h : slots.length = p.body.length) :
    (p.body.zip slots).map Prod.snd = slots := List.map_snd_zip (Nat.le_of_eq h)

/-- A shift takes a token off what is pending. -/
theorem Behind.shift {stream pending rest : List Pull} {tokens : List Token} {token : Token}
    (h : Behind stream tokens pending) (hnext : advance pending = .ok (.token token, rest)) :
    Behind stream (tokens ++ [token]) rest := by
  rw [Behind, h, advance_token hnext]
  simp [Token.pulls]

/-- What is predicted is a production of the nonterminal. -/
theorem production_of_predict {a id : Nat} {x : Lookahead} (h : g.table.predict a x = some id) :
    g.productions[id]? = some (g.productions.getD id ⟨g.start, []⟩) ∧
      (g.productions.getD id ⟨g.start, []⟩).lhs = a := by
  obtain ⟨p, hp, hlhs, -⟩ := predict_table h
  rw [List.getD_eq_getElem?_getD, hp]
  exact ⟨rfl, hlhs⟩

theorem leftmost_step (hr : r.FillsBodies) {stream : List Pull}
    (c c' : Config (σ × List StepCall) ι) (h : Leftmost g stream c)
    (heffect : Effect g g.table r.logged c (.running c')) : Leftmost g stream c' := by
  obtain ⟨hcalls, hreflects, hpending⟩ := h
  cases heffect with
  | epsilon =>
    refine ⟨hcalls.concat hreflects, hreflects.epsilon, ?_⟩
    simpa [Recorder.logged, StepCall.tokens_concat, StepCall.token?] using hpending
  | @shift id slot below under token rest s l' rest' hid hadvance =>
    obtain ⟨pending, hbehind, hnext⟩ := hpending
    refine ⟨hcalls.concat hreflects, hreflects.shift hid, ⟨rest, ?_, hadvance⟩⟩
    simpa [Recorder.logged, StepCall.tokens_concat, StepCall.token?] using hbehind.shift hnext
  | @expand a slot below under l rest s x id slots s' hx hid hs =>
    obtain ⟨hp, rfl⟩ := production_of_predict hid
    have hslots := map_fst_zip_slots (hr.logged _ _ _ _ _ _ hs)
    have hs' := reports_expand hs
    refine ⟨?_, ?_, ?_⟩
    · simp only [hs']
      exact hcalls.concat hreflects
    · simp only [hs', hslots]
      exact hreflects.expand hp
    · simpa [hs', StepCall.tokens_concat, StepCall.token?] using hpending

/-! ## A whole run -/

theorem allReflect_of_effect {stream : List Pull} {c : Config (σ × List StepCall) ι}
    {outcome : Outcome (σ × List StepCall) ι} (h : Leftmost g stream c)
    (heffect : Effect g g.table r.logged c outcome) : AllReflect g outcome.record.2 := by
  rcases heffect.reports with hrecord | ⟨action, hrecord⟩
  · rw [hrecord]
    exact h.calls
  · rw [hrecord]
    exact h.calls.concat h.reflects

theorem allReflect_stepCalls (hr : r.FillsBodies) (stream : List Pull) (s : σ) :
    AllReflect g (stepCalls g g.table r stream s) := by
  cases h : advance stream with
  | error e =>
    rw [stepCalls_of_error h]
    exact forall_split_nil
  | ok next =>
    obtain ⟨l, rest⟩ := next
    rw [stepCalls_of_advance h]
    have hstart := leftmost_start (g := g) (r := r) h s
    rcases (run g g.table r.logged (g.moveBound stream.length)
        (start g r.logged l rest (s, []))).running_or_final with ⟨c, hrun⟩ | hfinal
    · rw [hrun]
      exact (run_running (leftmost_step hr) (paired_start ..) hstart hrun).calls
    · obtain ⟨c, hc, heffect⟩ := run_stopped (leftmost_step hr) (paired_start ..) hstart hfinal
      exact allReflect_of_effect hc heffect

/-- The stream is at its end. -/
def AtEnd (pending : List Pull) : Prop :=
  pending = [] ∨ ∃ n rest, pending = .ok (.finish n) :: rest

theorem atEnd_of_advance {pending rest : List Pull} {n : Nat}
    (h : advance pending = .ok (.finish n, rest)) : AtEnd pending := by
  match pending with
  | [] => exact .inl rfl
  | .ok l :: rest =>
    cases h
    exact .inr ⟨n, rest, rfl⟩
  | .error e :: _ => cases h

/-- A run that accepts has shifted all tokens up to the end, and has derived them. -/
theorem derives_of_accepted (hr : r.FillsBodies) {stream : List Pull} {s : σ}
    (h : (drive g g.table r stream s).1 = .ok ()) :
    ∃ pending w, Behind stream (StepCall.tokens (stepCalls g g.table r stream s)) pending ∧
      AtEnd pending ∧
      terminalsOf g (StepCall.tokens (stepCalls g g.table r stream s)) = some w ∧
      g.deriveLeftmost (StepCall.productions (stepCalls g g.table r stream s))
        [.nonterminal g.start] = some (w.map .terminal) := by
  rw [← (drive_logged (g := g) (r := r) stream s []).1] at h
  cases hnext : advance stream with
  | error e =>
    rw [drive_of_error hnext] at h
    cases h
  | ok next =>
    obtain ⟨l, rest⟩ := next
    rw [drive_of_advance hnext] at h
    obtain ⟨s', hrun⟩ := finish_eq_ok h
    obtain ⟨c, hc, heffect⟩ := run_stopped (leftmost_step hr) (paired_start ..)
      (leftmost_start hnext s) (by rw [hrun]; trivial)
    rw [stepCalls_of_advance hnext]
    rw [hrun] at heffect ⊢
    obtain ⟨-, ⟨w, symbols, hw, hstack, hform⟩, pending, hbehind, hpending⟩ := hc
    cases heffect with
    | exhausted => cases symbols <;> cases hstack
    | accept =>
      cases symbols with
      | cons x symbols => cases hstack
      | nil =>
        refine ⟨pending, w, ?_, atEnd_of_advance hpending, ?_, ?_⟩
        · simpa [Outcome.record, Recorder.logged, StepCall.tokens_concat, StepCall.token?]
            using hbehind
        · simpa [Outcome.record, Recorder.logged, StepCall.tokens_concat, StepCall.token?]
            using hw
        · simpa [Outcome.record, Recorder.logged, StepCall.productions_concat,
            StepCall.production?] using hform

/-- At every report of a run, the tokens shifted before it and the stack are the form that the
productions expanded before it derive, each at the leftmost nonterminal. A run that accepts has
shifted exactly the tokens before the end of the stream. -/
theorem drive_derives_leftmost (hr : r.FillsBodies) (stream : List Pull) (s : σ) :
    (∀ before call after, stepCalls g g.table r stream s = before ++ call :: after →
      ∃ w symbols, terminalsOf g (StepCall.tokens before) = some w ∧
        call.stack = symbols.map .symbol ++ [.finish] ∧
        g.deriveLeftmost (StepCall.productions before) [.nonterminal g.start] =
          some (w.map .terminal ++ bare symbols)) ∧
    ((drive g g.table r stream s).1 = .ok () →
      ∃ rest, stream = (StepCall.tokens (stepCalls g g.table r stream s)).map
          (fun token => .ok (.token token)) ++ rest ∧
        (rest = [] ∨ ∃ n rest', rest = .ok (.finish n) :: rest')) := by
  refine ⟨allReflect_stepCalls hr stream s, fun h => ?_⟩
  obtain ⟨rest, -, hbehind, hend, -⟩ := derives_of_accepted hr h
  exact ⟨rest, hbehind, hend⟩

/-- Nested parentheses: `S -> ( S ) S`, or nothing. -/
def parens : Grammar where
  terminals := ["(", ")"]
  nonterminals := ["S"]
  productions := [⟨0, [.terminal 0, .nonterminal 0, .terminal 1, .nonterminal 0]⟩, ⟨0, [.empty]⟩]
  emptyName := "eps"

/-- Declarations of nested parentheses. -/
def parensDeclarations : Declarations := [⟨"S", 1, [⟨1, "(S)S"⟩, ⟨1, "eps"⟩]⟩]

/-- The rules for an opening and a closing parenthesis. -/
def parensLexicon : Lexicon :=
  ⟨[⟨"TERMINAL", "\\(", 1, false⟩, ⟨"TERMINAL", "\\)", 2, false⟩]⟩

theorem resolve_parens : resolve parensDeclarations parensLexicon ⟨["eps"]⟩ = .ok parens := by
  decide +kernel

/-- The lexemes of `()`. -/
def onePair : List Pull :=
  [.ok (.token ⟨"open", "(", "(", 0, 1⟩), .ok (.token ⟨"close", ")", ")", 1, 2⟩), .ok (.finish 2)]

theorem drive_derives_leftmost_onePair :
    (Journal.recorder none).FillsBodies ∧
      ∃ rest, onePair = (StepCall.tokens (stepCalls parens parens.table (Journal.recorder none)
          onePair {})).map (fun token => .ok (.token token)) ++ rest ∧
        (rest = [] ∨ ∃ n rest', rest = .ok (.finish n) :: rest') :=
  ⟨Journal.fillsBodies none,
    (drive_derives_leftmost (Journal.fillsBodies none) onePair {}).2 (by decide +kernel)⟩

end TopDown.Machine
