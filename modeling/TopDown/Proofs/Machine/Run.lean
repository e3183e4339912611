import TopDown.Machine.Journal

/-!
# Runs of the stack machine

* `Config.Paired`, `foldl_push` : the two stacks have the same height, and what is pushed lies in
  order on both;
* `Machine.Effect`, `effect_step` : all that one move can do, and that nothing else happens;
  `Effect.paired`, `paired_run` : every move keeps the stacks at the same height;
* `Machine.Refuses` : a stack without a move, and the error that says so;
* `moves_or_ends` : a machine makes a move or comes to an end;
* `run_running`, `run_stopped` : what every move keeps holds along a run and before its last move;
* `drive_of_advance`, `drive_of_error` : a whole run by its first lexeme;
* `Recorder.FillsBodies` : the recorder gives one slot for every symbol of a body;
* `Recorder.Extends`, `drive_extends` : a recorder that keeps more changes nothing else;
* `Recorder.logged`, `StepCall`, `drive_logged` : one that also keeps all reports of moves;
* `Machine.stepCalls` : the reports of a run; `StepCall.tokens`, `StepCall.productions` : the tokens
  shifted and the productions expanded in a list of reports.
-/

namespace TopDown

variable {σ ι : Type}

/-- One slot for every symbol of a body. -/
def Recorder.FillsBodies (r : Recorder σ ι) : Prop :=
  ∀ slot p l s slots s', r.expand slot p l s = (.ok slots, s') → slots.length = p.body.length

theorem Journal.fillsBodies (failAfter : Option Nat) : (recorder failAfter).FillsBodies := by
  intro slot p l j slots j' h
  simp only [recorder] at h
  split at h
  · cases h
  · cases h
    simp

namespace Machine

variable {g : Grammar} {t : Table} {r : Recorder σ ι}

/-! ## Two stacks -/

/-- Every entry of the stack has its slot. -/
def Config.Paired (c : Config σ ι) : Prop := c.stack.length = c.slots.length

/-- What is pushed from the last pair to the first lies in order on both stacks. -/
theorem foldl_push (xs : List (Symbol × ι)) (below : List StackEntry) (under : List ι) :
    xs.reverse.foldl push (below, under) =
      (xs.map (fun x => .symbol x.1) ++ below, xs.map Prod.snd ++ under) := by
  rw [List.foldl_reverse]
  induction xs with
  | nil => rfl
  | cons x xs ih => rw [List.foldr_cons, ih]; rfl

/-! ## One move -/

/-- What one move can do to two stacks with a slot for every entry. -/
inductive Effect (g : Grammar) (t : Table) (r : Recorder σ ι) : Config σ ι → Outcome σ ι → Prop
  | exhausted {l rest s} : Effect g t r ⟨[], [], l, rest, s⟩ (.accepted s)
  | stuck {entry slot below under l rest s e} : chooseAction g t entry l = .error e →
      Effect g t r ⟨entry :: below, slot :: under, l, rest, s⟩
        (.rejected (entry :: below) (slot :: under) e s)
  | accept {slot below under n rest s} :
      Effect g t r ⟨.finish :: below, slot :: under, .finish n, rest, s⟩
        (.accepted (r.step (.finish :: below) (.finish n) .accept s))
  | epsilon {slot below under l rest s} :
      Effect g t r ⟨.symbol .empty :: below, slot :: under, l, rest, s⟩
        (.running ⟨below, under, l, rest,
          r.epsilon slot (r.step (.symbol .empty :: below) l .epsilon s)⟩)
  | shift {id slot below under token rest s l' rest'} : g.terminal? token.terminal = some id →
      advance rest = .ok (l', rest') →
      Effect g t r ⟨.symbol (.terminal id) :: below, slot :: under, .token token, rest, s⟩
        (.running ⟨below, under, l', rest', r.shift slot token
          (r.step (.symbol (.terminal id) :: below) (.token token) .shift s)⟩)
  | unreadable {id slot below under token rest s e} : g.terminal? token.terminal = some id →
      advance rest = .error e →
      Effect g t r ⟨.symbol (.terminal id) :: below, slot :: under, .token token, rest, s⟩
        (.rejected below under (.lexical e) (r.shift slot token
          (r.step (.symbol (.terminal id) :: below) (.token token) .shift s)))
  | expand {a slot below under l rest s x id slots s'} : lookahead? g l = some x →
      t.predict a x = some id →
      r.expand slot (g.productions.getD id ⟨g.start, []⟩) l
        (r.step (.symbol (.nonterminal a) :: below) l (.expand id) s) = (.ok slots, s') →
      Effect g t r ⟨.symbol (.nonterminal a) :: below, slot :: under, l, rest, s⟩
        (.running ⟨((g.productions.getD id ⟨g.start, []⟩).body.zip slots).map
            (fun x => .symbol x.1) ++ below,
          ((g.productions.getD id ⟨g.start, []⟩).body.zip slots).map Prod.snd ++ under,
          l, rest, s'⟩)
  | refused {a slot below under l rest s x id e s'} : lookahead? g l = some x →
      t.predict a x = some id →
      r.expand slot (g.productions.getD id ⟨g.start, []⟩) l
        (r.step (.symbol (.nonterminal a) :: below) l (.expand id) s) = (.error e, s') →
      Effect g t r ⟨.symbol (.nonterminal a) :: below, slot :: under, l, rest, s⟩
        (.rejected below under e s')

theorem lookahead?_eq_finish {l : Lexeme} (h : lookahead? g l = some .finish) :
    ∃ n, l = .finish n := by
  cases l with
  | finish n => exact ⟨n, rfl⟩
  | token token =>
    obtain ⟨_, _, h⟩ := Option.map_eq_some_iff.1 h
    cases h

theorem lookahead?_eq_terminal {l : Lexeme} {id : Nat}
    (h : lookahead? g l = some (.terminal id)) :
    ∃ token, l = .token token ∧ g.terminal? token.terminal = some id := by
  cases l with
  | finish n => cases h
  | token token =>
    obtain ⟨_, hid, h⟩ := Option.map_eq_some_iff.1 h
    cases h
    exact ⟨token, rfl, hid⟩

theorem effect_step {c : Config σ ι} (hc : c.Paired) : Effect g t r c (step g t r c) := by
  obtain ⟨_ | ⟨entry, below⟩, _ | ⟨slot, under⟩, l, rest, s⟩ := c
  · exact .exhausted
  · cases hc
  · cases hc
  cases h : chooseAction g t entry l with
  | error e =>
    simp only [step, h]
    exact .stuck h
  | ok action =>
    simp only [step, h]
    match entry with
    | .finish =>
      simp only [chooseAction] at h
      split at h
      · rename_i hl
        obtain ⟨n, rfl⟩ := lookahead?_eq_finish hl
        cases h
        exact .accept
      · cases h
    | .symbol .empty =>
      cases h
      exact .epsilon
    | .symbol (.terminal id) =>
      simp only [chooseAction] at h
      split at h
      · rename_i hl
        obtain ⟨token, rfl, hid⟩ := lookahead?_eq_terminal hl
        cases h
        simp only [shift]
        cases hadvance : advance rest with
        | ok next => exact .shift hid hadvance
        | error e => exact .unreadable hid hadvance
      · cases h
    | .symbol (.nonterminal a) =>
      simp only [chooseAction] at h
      split at h
      · rename_i id hid
        obtain ⟨x, hx, hid⟩ := Option.bind_eq_some_iff.1 hid
        cases h
        simp only [expand]
        split
        · rename_i slots s' hs
          rw [foldl_push]
          exact .expand hx hid hs
        · rename_i e s' hs
          exact .refused hx hid hs
      · cases h

theorem chooseAction_terminal {id : Nat} {token : Token}
    (h : g.terminal? token.terminal = some id) :
    chooseAction g t (.symbol (.terminal id)) (.token token) = .ok .shift := by
  simp [chooseAction, lookahead?, h]

theorem chooseAction_nonterminal {a id : Nat} {l : Lexeme} {x : Lookahead}
    (hx : lookahead? g l = some x) (hid : t.predict a x = some id) :
    chooseAction g t (.symbol (.nonterminal a)) l = .ok (.expand id) := by
  simp [chooseAction, hx, hid]

/-- What is expected under an entry of the stack. -/
def expectedAt (t : Table) : StackEntry → List Lookahead
  | .finish => [.finish]
  | .symbol .empty => []
  | .symbol (.terminal id) => [.terminal id]
  | .symbol (.nonterminal a) => t.expected a

theorem chooseAction_error {entry : StackEntry} {l : Lexeme} {e : ParseError}
    (h : chooseAction g t entry l = .error e) : e = unexpected g (expectedAt t entry) l := by
  unfold chooseAction at h
  split at h
  · split at h
    · cases h
    · exact (Except.error.inj h).symm
  · cases h
  · split at h
    · cases h
    · exact (Except.error.inj h).symm
  · split at h
    · cases h
    · exact (Except.error.inj h).symm

/-- Nothing but the move's own effect happens. -/
theorem Effect.step_eq {c : Config σ ι} {outcome : Outcome σ ι} (h : Effect g t r c outcome) :
    step g t r c = outcome := by
  cases h with
  | exhausted => rfl
  | stuck h => simp only [step, h]
  | accept => rfl
  | epsilon => rfl
  | shift hid hadvance => simp only [step, chooseAction_terminal hid, Machine.shift, hadvance]
  | unreadable hid hadvance => simp only [step, chooseAction_terminal hid, Machine.shift, hadvance]
  | expand hx hid hs =>
    simp only [step, chooseAction_nonterminal hx hid, Machine.expand, hs, foldl_push]
  | refused hx hid hs => simp only [step, chooseAction_nonterminal hx hid, Machine.expand, hs]

/-- The stacks are popped together, and as much is pushed on the one as on the other. -/
theorem Effect.paired {c c' : Config σ ι} (h : Effect g t r c (.running c')) (hc : c.Paired) :
    c'.Paired := by
  cases h with
  | epsilon => exact Nat.succ.inj hc
  | shift => exact Nat.succ.inj hc
  | expand =>
    simp only [Config.Paired, List.length_append, List.length_map]
    exact congrArg _ (Nat.succ.inj hc)

/-- There is no move for the stack on what is pending, and this is why. -/
inductive Refuses (g : Grammar) (t : Table) : List StackEntry → List Pull → ParseError → Prop
  | unreadable {stack e rest} : Refuses g t stack (.error e :: rest) (.lexical e)
  | stuck {top below pending l rest e} : advance pending = .ok (l, rest) →
      chooseAction g t top l = .error e → Refuses g t (top :: below) pending e

theorem refuses_of_advance {stack : List StackEntry} {pending : List Pull} {e : LexError}
    (h : advance pending = .error e) : Refuses g t stack pending (.lexical e) := by
  match pending with
  | [] => cases h
  | .ok l :: rest => cases h
  | .error e :: rest =>
    cases h
    exact .unreadable

/-! ## Many moves -/

/-- The machine has come to an end. -/
def Outcome.IsFinal : Outcome σ ι → Prop
  | .running _ => False
  | .accepted _ => True
  | .rejected .. => True

theorem Outcome.running_or_final (outcome : Outcome σ ι) :
    (∃ c, outcome = .running c) ∨ outcome.IsFinal := by
  cases outcome with
  | running c => exact .inl ⟨c, rfl⟩
  | accepted s => exact .inr trivial
  | rejected stack slots e s => exact .inr trivial

/-- A machine makes a move, or the next one is its last. -/
theorem moves_or_ends {c : Config σ ι} (hc : c.Paired) :
    (∃ d, Effect g t r c (.running d)) ∨
      ∃ outcome : Outcome σ ι, outcome.IsFinal ∧ Effect g t r c outcome := by
  have heffect := effect_step (g := g) (t := t) (r := r) hc
  rcases (step g t r c).running_or_final with ⟨d, hd⟩ | hfinal
  · rw [hd] at heffect
    exact .inl ⟨d, heffect⟩
  · exact .inr ⟨_, hfinal, heffect⟩

theorem run_succ_of_running {c d : Config σ ι} (h : step g t r c = .running d) (n : Nat) :
    run g t r (n + 1) c = run g t r n d := by
  rw [run, h]

theorem run_succ_of_final {c : Config σ ι} (h : (step g t r c).IsFinal) (n : Nat) :
    run g t r (n + 1) c = step g t r c := by
  rw [run]
  cases hstep : step g t r c with
  | running d =>
    rw [hstep] at h
    cases h
  | accepted s => rfl
  | rejected stack slots e s => rfl

theorem run_succ_of_move {c d : Config σ ι} (h : Effect g t r c (.running d)) (n : Nat) :
    run g t r (n + 1) c = run g t r n d := run_succ_of_running h.step_eq n

theorem run_succ_of_end {c : Config σ ι} {outcome : Outcome σ ι} (hfinal : outcome.IsFinal)
    (h : Effect g t r c outcome) (n : Nat) : run g t r (n + 1) c = outcome := by
  rw [run_succ_of_final (h.step_eq ▸ hfinal), h.step_eq]

/-- A run goes on from where it has got to. -/
theorem run_add {n : Nat} {c d : Config σ ι} (h : run g t r n c = .running d) (m : Nat) :
    run g t r (n + m) c = run g t r m d := by
  induction n generalizing c with
  | zero =>
    cases h
    rw [Nat.zero_add]
  | succ n ih =>
    rw [Nat.add_right_comm]
    rcases (step g t r c).running_or_final with ⟨c', hmove⟩ | hfinal
    · rw [run_succ_of_running hmove] at h ⊢
      exact ih h
    · rw [run_succ_of_final hfinal] at h
      rw [h] at hfinal
      cases hfinal

/-- An end stays an end however many moves are allowed. -/
theorem run_of_le {n m : Nat} {c : Config σ ι} (h : (run g t r n c).IsFinal) (hnm : n ≤ m) :
    run g t r m c = run g t r n c := by
  induction n generalizing c m with
  | zero => cases h
  | succ n ih =>
    obtain ⟨m, rfl⟩ := Nat.exists_eq_add_of_le' (Nat.le_trans (Nat.le_add_left 1 n) hnm)
    rcases (step g t r c).running_or_final with ⟨d, hmove⟩ | hfinal
    · rw [run_succ_of_running hmove] at h ⊢
      rw [run_succ_of_running hmove]
      exact ih h (Nat.le_of_succ_le_succ hnm)
    · rw [run_succ_of_final hfinal, run_succ_of_final hfinal]

/-- Two runs from one configuration that come to an end come to the same end. -/
theorem run_final_unique {n m : Nat} {c : Config σ ι} (hn : (run g t r n c).IsFinal)
    (hm : (run g t r m c).IsFinal) : run g t r n c = run g t r m c := by
  rcases Nat.le_total n m with h | h
  · exact (run_of_le hn h).symm
  · exact run_of_le hm h

/-- What every move takes one of holds, with one to go, before the last move of a run. -/
theorem run_stopped_counting (Inv : Nat → Config σ ι → Prop)
    (hstep : ∀ n c c', Inv (n + 1) c → Effect g t r c (.running c') → Inv n c') {n : Nat}
    {c : Config σ ι} (hpaired : c.Paired) (hc : Inv n c) (h : (run g t r n c).IsFinal) :
    ∃ k c', Inv (k + 1) c' ∧ Effect g t r c' (run g t r n c) := by
  induction n generalizing c with
  | zero => cases h
  | succ n ih =>
    rcases moves_or_ends hpaired with ⟨d, heffect⟩ | ⟨outcome, hfinal, heffect⟩
    · rw [run_succ_of_move heffect] at h ⊢
      exact ih (heffect.paired hpaired) (hstep n c d hc heffect) h
    · rw [run_succ_of_end hfinal heffect]
      exact ⟨n, c, hc, heffect⟩

section Invariant

variable {Inv : Config σ ι → Prop}
  (hstep : ∀ c c', Inv c → Effect g t r c (.running c') → Inv c')

include hstep

/-- What every move keeps holds along a run. -/
theorem run_running {n : Nat} {c c' : Config σ ι} (hpaired : c.Paired) (hc : Inv c)
    (h : run g t r n c = .running c') : Inv c' := by
  induction n generalizing c with
  | zero =>
    cases h
    exact hc
  | succ n ih =>
    rcases moves_or_ends hpaired with ⟨d, heffect⟩ | ⟨outcome, hfinal, heffect⟩
    · rw [run_succ_of_move heffect] at h
      exact ih (heffect.paired hpaired) (hstep c d hc heffect) h
    · rw [run_succ_of_end hfinal heffect] at h
      cases h
      cases hfinal

/-- What every move keeps holds before the last move of a run. -/
theorem run_stopped {n : Nat} {c : Config σ ι} (hpaired : c.Paired) (hc : Inv c)
    (h : (run g t r n c).IsFinal) : ∃ c', Inv c' ∧ Effect g t r c' (run g t r n c) := by
  obtain ⟨_, c', hc', heffect⟩ :=
    run_stopped_counting (fun _ => Inv) (fun _ => hstep) hpaired hc h
  exact ⟨c', hc', heffect⟩

end Invariant

/-! ## A whole run -/

/-- The configuration that a run on `l` and `rest` starts in. -/
def start (g : Grammar) (r : Recorder σ ι) (l : Lexeme) (rest : List Pull) (s : σ) : Config σ ι :=
  initial g (r.root g.start s).1 l rest (r.root g.start s).2

theorem paired_start (l : Lexeme) (rest : List Pull) (s : σ) : (start g r l rest s).Paired := rfl

/-- The stacks keep the same height along a run. -/
theorem paired_run {n : Nat} {c c' : Config σ ι} (hc : c.Paired)
    (h : run g t r n c = .running c') : c'.Paired :=
  run_running (fun _ _ hpaired heffect => heffect.paired hpaired) hc hc h

theorem drive_of_advance {stream rest : List Pull} {l : Lexeme} {s : σ}
    (h : advance stream = .ok (l, rest)) :
    drive g t r stream s =
      finish r (run g t r (g.moveBound stream.length) (start g r l rest s)) := by
  simp only [drive, h, start]

theorem drive_of_error {stream : List Pull} {e : LexError} {s : σ}
    (h : advance stream = .error e) : (drive g t r stream s).1 = .error (.lexical e) := by
  simp only [drive, h]

theorem finish_eq_ok {outcome : Outcome σ ι} (h : (finish r outcome).1 = .ok ()) :
    ∃ s, outcome = .accepted s := by
  cases outcome with
  | running c => cases h
  | accepted s => exact ⟨s, rfl⟩
  | rejected stack slots e s => cases h

end Machine

/-! ## A recorder that keeps more -/

/-- The recorder answers as another one does, and keeps what that one keeps. -/
structure Recorder.Extends {σ' : Type} (r' : Recorder σ' ι) (r : Recorder σ ι) (kept : σ' → σ) :
    Prop where
  root : ∀ start s, (r'.root start s).map id kept = r.root start (kept s)
  expand : ∀ slot p l s, (r'.expand slot p l s).map id kept = r.expand slot p l (kept s)
  shift : ∀ slot token s, kept (r'.shift slot token s) = r.shift slot token (kept s)
  epsilon : ∀ slot s, kept (r'.epsilon slot s) = r.epsilon slot (kept s)
  step : ∀ stack l action s, kept (r'.step stack l action s) = r.step stack l action (kept s)
  reject : ∀ stack e s, kept (r'.reject stack e s) = r.reject stack e (kept s)

namespace Machine

variable {σ' : Type} {g : Grammar} {t : Table} {r : Recorder σ ι} {r' : Recorder σ' ι}
  {kept : σ' → σ}

/-- The configuration with another record. -/
def Config.map (f : σ' → σ) (c : Config σ' ι) : Config σ ι :=
  ⟨c.stack, c.slots, c.lookahead, c.rest, f c.record⟩

def Outcome.map (f : σ' → σ) : Outcome σ' ι → Outcome σ ι
  | .running c => .running (c.map f)
  | .accepted s => .accepted (f s)
  | .rejected stack slots e s => .rejected stack slots e (f s)

theorem Outcome.isFinal_map {outcome : Outcome σ' ι} :
    (outcome.map kept).IsFinal ↔ outcome.IsFinal := by
  cases outcome <;> exact Iff.rfl

section Extends

variable (h : r'.Extends r kept)

include h

theorem fillsBodies_extends (hr : r.FillsBodies) : r'.FillsBodies := by
  intro slot p l s slots s' hs
  have hkept := h.expand slot p l s
  rw [hs] at hkept
  exact hr slot p l (kept s) slots (kept s') hkept.symm

theorem step_extends (c : Config σ' ι) : (step g t r' c).map kept = step g t r (c.map kept) := by
  obtain ⟨_ | ⟨entry, below⟩, _ | ⟨slot, under⟩, l, rest, s⟩ := c
  · rfl
  · rfl
  · rfl
  simp only [step, Config.map]
  cases chooseAction g t entry l with
  | error e => rfl
  | ok action =>
    cases action with
    | accept => simp only [Outcome.map, h.step]
    | epsilon => simp only [Outcome.map, Config.map, h.epsilon, h.step]
    | shift =>
      simp only [shift]
      cases advance rest <;> cases l <;> simp only [Outcome.map, Config.map, h.shift, h.step]
    | expand id =>
      simp only [expand, ← h.step, ← h.expand]
      cases r'.expand slot (g.productions.getD id ⟨g.start, []⟩) l
        (r'.step (entry :: below) l (.expand id) s) with
      | mk answer s' => cases answer <;> rfl

theorem run_extends (n : Nat) (c : Config σ' ι) :
    (run g t r' n c).map kept = run g t r n (c.map kept) := by
  induction n generalizing c with
  | zero => rfl
  | succ n ih =>
    rw [run, run, ← step_extends h]
    cases step g t r' c with
    | running d => exact ih d
    | accepted s => rfl
    | rejected stack slots e s => rfl

theorem start_extends (l : Lexeme) (rest : List Pull) (s : σ') :
    (start g r' l rest s).map kept = start g r l rest (kept s) := by
  rw [start, start, ← h.root]
  rfl

theorem finish_extends (outcome : Outcome σ' ι) :
    (finish r' outcome).map id kept = finish r (outcome.map kept) := by
  cases outcome <;> simp only [finish, Outcome.map, Config.map, Prod.map_apply, id_eq, h.reject]

/-- Keeping more changes neither the verdict nor what is kept without it. -/
theorem drive_extends (stream : List Pull) (s : σ') :
    (drive g t r' stream s).map id kept = drive g t r stream (kept s) := by
  cases hnext : advance stream with
  | error e =>
    simp only [drive, hnext, ← h.root, Prod.map_apply, id_eq, h.reject]
    rfl
  | ok next =>
    rw [drive_of_advance hnext, drive_of_advance hnext, finish_extends h, run_extends h,
      start_extends h]

end Extends

end Machine

/-! ## Reports -/

/-- A report of a move that is about to be made. The stack is given with its top first. -/
structure StepCall where
  stack : List StackEntry
  lookahead : Lexeme
  action : Action
  deriving DecidableEq

namespace StepCall

/-- The token that the move shifts. -/
def token? (c : StepCall) : Option Token :=
  match c.action, c.lookahead with
  | .shift, .token token => some token
  | _, _ => none

/-- The production that the move expands. -/
def production? (c : StepCall) : Option Nat :=
  match c.action with
  | .expand id => some id
  | _ => none

/-- The tokens shifted in a list of reports. -/
def tokens (calls : List StepCall) : List Token := calls.filterMap token?

/-- The productions expanded in a list of reports. -/
def productions (calls : List StepCall) : List Nat := calls.filterMap production?

theorem tokens_concat (calls : List StepCall) (c : StepCall) :
    tokens (calls ++ [c]) = tokens calls ++ c.token?.toList := by
  cases h : c.token? <;> simp [tokens, h]

theorem productions_concat (calls : List StepCall) (c : StepCall) :
    productions (calls ++ [c]) = productions calls ++ c.production?.toList := by
  cases h : c.production? <;> simp [productions, h]

end StepCall

/-- Keeps all reports of moves beside what `r` keeps. -/
def Recorder.logged (r : Recorder σ ι) : Recorder (σ × List StepCall) ι where
  root start s := ((r.root start s.1).1, (r.root start s.1).2, s.2)
  expand slot p l s := ((r.expand slot p l s.1).1, (r.expand slot p l s.1).2, s.2)
  shift slot token s := (r.shift slot token s.1, s.2)
  epsilon slot s := (r.epsilon slot s.1, s.2)
  step stack l action s := (r.step stack l action s.1, s.2 ++ [⟨stack, l, action⟩])
  reject stack e s := (r.reject stack e s.1, s.2)

theorem Recorder.logged_extends (r : Recorder σ ι) : r.logged.Extends r Prod.fst where
  root _ _ := rfl
  expand _ _ _ _ := rfl
  shift _ _ _ := rfl
  epsilon _ _ := rfl
  step _ _ _ _ := rfl
  reject _ _ _ := rfl

theorem Recorder.FillsBodies.logged {r : Recorder σ ι} (h : r.FillsBodies) :
    r.logged.FillsBodies :=
  Machine.fillsBodies_extends r.logged_extends h

namespace Machine

variable {g : Grammar} {t : Table} {r : Recorder σ ι}

/-- The configuration of the recorder without the reports. -/
def Config.unlogged (c : Config (σ × List StepCall) ι) : Config σ ι :=
  ⟨c.stack, c.slots, c.lookahead, c.rest, c.record.1⟩

def Outcome.unlogged : Outcome (σ × List StepCall) ι → Outcome σ ι
  | .running c => .running c.unlogged
  | .accepted s => .accepted s.1
  | .rejected stack slots e s => .rejected stack slots e s.1

theorem Outcome.unlogged_eq_map (outcome : Outcome (σ × List StepCall) ι) :
    outcome.unlogged = outcome.map Prod.fst := by
  cases outcome <;> rfl

theorem Outcome.IsFinal.unlogged {outcome : Outcome (σ × List StepCall) ι}
    (h : outcome.IsFinal) : outcome.unlogged.IsFinal := by
  rw [outcome.unlogged_eq_map]
  exact Outcome.isFinal_map.2 h

theorem run_logged (n : Nat) (c : Config (σ × List StepCall) ι) :
    (run g t r.logged n c).unlogged = run g t r n c.unlogged := by
  rw [Outcome.unlogged_eq_map, run_extends r.logged_extends]
  rfl

theorem start_logged (l : Lexeme) (rest : List Pull) (s : σ) (log : List StepCall) :
    (start g r.logged l rest (s, log)).unlogged = start g r l rest s := rfl

/-- Keeping reports changes neither the verdict nor what the recorder keeps. -/
theorem drive_logged (stream : List Pull) (s : σ) (log : List StepCall) :
    (drive g t r.logged stream (s, log)).1 = (drive g t r stream s).1 ∧
      (drive g t r.logged stream (s, log)).2.1 = (drive g t r stream s).2 := by
  have hdrive := drive_extends (g := g) (t := t) r.logged_extends stream (s, log)
  exact ⟨congrArg Prod.fst hdrive, congrArg Prod.snd hdrive⟩

/-- The two stacks of a machine that has not accepted. -/
def Outcome.stacks? : Outcome σ ι → Option (List StackEntry × List ι)
  | .running c => some (c.stack, c.slots)
  | .accepted _ => none
  | .rejected stack slots _ _ => some (stack, slots)

/-- What the recorder keeps. -/
def Outcome.record : Outcome σ ι → σ
  | .running c => c.record
  | .accepted s => s
  | .rejected _ _ _ s => s

/-- An expansion adds its report, whatever it answers. -/
theorem reports_expand {slot : ι} {p : Production} {l : Lexeme} {stack : List StackEntry}
    {action : Action} {s s' : σ × List StepCall} {answer : Except ParseError (List ι)}
    (h : r.logged.expand slot p l (r.logged.step stack l action s) = (answer, s')) :
    s'.2 = s.2 ++ [⟨stack, l, action⟩] :=
  (congrArg (fun y => y.2.2) h).symm

/-- A move adds its report, and a run that is stuck adds none. -/
theorem Effect.reports {c : Config (σ × List StepCall) ι} {outcome : Outcome (σ × List StepCall) ι}
    (h : Effect g t r.logged c outcome) :
    outcome.record.2 = c.record.2 ∨
      ∃ action, outcome.record.2 = c.record.2 ++ [⟨c.stack, c.lookahead, action⟩] := by
  cases h with
  | exhausted => exact .inl rfl
  | stuck => exact .inl rfl
  | accept => exact .inr ⟨_, rfl⟩
  | epsilon => exact .inr ⟨_, rfl⟩
  | shift => exact .inr ⟨_, rfl⟩
  | unreadable => exact .inr ⟨_, rfl⟩
  | expand _ _ hs => exact .inr ⟨_, reports_expand hs⟩
  | refused _ _ hs => exact .inr ⟨_, reports_expand hs⟩

theorem Effect.length_reports {c c' : Config (σ × List StepCall) ι}
    (h : Effect g t r.logged c (.running c')) : c'.record.2.length = c.record.2.length + 1 := by
  cases h with
  | epsilon => exact List.length_append
  | shift => exact List.length_append
  | expand _ _ hs => exact (congrArg List.length (reports_expand hs)).trans List.length_append

/-- A machine that is still running has made one report a move. -/
theorem length_reports_run {n : Nat} {c c' : Config (σ × List StepCall) ι} (hpaired : c.Paired)
    (h : run g t r.logged n c = .running c') : c'.record.2.length = c.record.2.length + n := by
  induction n generalizing c with
  | zero =>
    cases h
    rfl
  | succ n ih =>
    rcases moves_or_ends hpaired with ⟨d, heffect⟩ | ⟨outcome, hfinal, heffect⟩
    · rw [run_succ_of_move heffect] at h
      rw [ih (heffect.paired hpaired) h, heffect.length_reports]
      omega
    · rw [run_succ_of_end hfinal heffect] at h
      cases h
      cases hfinal

theorem reports_finish (outcome : Outcome (σ × List StepCall) ι) :
    (finish r.logged outcome).2.2 = outcome.record.2 := by
  cases outcome <;> rfl

/-- The reports of a run, in order. -/
def stepCalls (g : Grammar) (t : Table) (r : Recorder σ ι) (stream : List Pull) (s : σ) :
    List StepCall := (drive g t r.logged stream (s, [])).2.2

theorem stepCalls_of_error {stream : List Pull} {e : LexError} {s : σ}
    (h : advance stream = .error e) : stepCalls g t r stream s = [] := by
  simp only [stepCalls, drive, h]
  rfl

theorem stepCalls_of_advance {stream rest : List Pull} {l : Lexeme} {s : σ}
    (h : advance stream = .ok (l, rest)) :
    stepCalls g t r stream s =
      (run g t r.logged (g.moveBound stream.length)
        (start g r.logged l rest (s, []))).record.2 := by
  rw [stepCalls, drive_of_advance h, reports_finish]

end Machine

end TopDown
