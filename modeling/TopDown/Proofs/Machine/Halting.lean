import Mathlib.Tactic.Linarith
import Mathlib.Tactic.Ring
import TopDown.Proofs.Machine.Leftmost

/-!
# The machine halts

Every stack under a lookahead has a charge, which every move but a shift lowers and a shift raises
by a constant at most. Where a single production fits, it is the one that erases the nonterminal in
the fewest levels, or opens it in the fewest levels down to the lookahead. So each expansion takes
the top of the stack one level on, and left recursion cannot go round for ever.

* `eraseCost`, `openCost` : the moves to erase a symbol, or to open one, of a number of levels;
* `Charge` : what is known of the top of a stack, and the moves it takes before the next shift;
* `Charge.expand`, `Charge.epsilon`, `Charge.shift` : what one move does to a charge;
* `Paid`, `paid_step` : the moves made and the charge are paid for by the shifts;
* `run_halts` : the machine comes to an end within `moveBound`;
* `drive_halts_linearly` : so it makes linearly many moves.
-/

namespace TopDown

namespace Grammar

theorem length_body_le (g : Grammar) {p : Production} (hp : p ∈ g.productions) :
    p.body.length ≤ g.maxBody := by
  have hmem : p.body.length ∈ g.productions.map (·.body.length) := List.mem_map_of_mem hp
  rw [maxBody, List.foldl_max_eq_max (List.ne_nil_of_mem hmem)]
  exact Nat.le_trans (List.le_max_of_mem hmem) (Nat.le_max_right 0 _)

/-- The moves to erase a symbol within `k` levels. -/
def eraseCost (g : Grammar) (k : Nat) : Nat := (g.maxBody + 2) ^ k

/-- The moves to erase any symbol that can be erased. -/
def eraseBound (g : Grammar) : Nat := g.eraseCost g.nonterminals.length

/-- The moves to open a symbol whose first terminal is at most `k` levels down, and to erase all
that they push but the last symbol. -/
def openCost (g : Grammar) (k : Nat) : Nat := k * (1 + g.maxBody * g.eraseBound) + 1

/-- The moves to open any symbol that can be opened. -/
def openBound (g : Grammar) : Nat := g.openCost g.nonterminals.length

theorem eraseCost_pos (g : Grammar) (k : Nat) : 0 < g.eraseCost k := Nat.pow_pos (by omega)

/-- A body of symbols that take `k` levels is erased in fewer moves than its left-hand side. -/
theorem lt_eraseCost_succ (g : Grammar) {k n : Nat} (hn : n ≤ g.maxBody) :
    n * g.eraseCost k < g.eraseCost (k + 1) := by
  have hpos := g.eraseCost_pos k
  calc n * g.eraseCost k ≤ g.maxBody * g.eraseCost k := Nat.mul_le_mul_right _ hn
    _ < (g.maxBody + 2) * g.eraseCost k := (Nat.mul_lt_mul_right hpos).2 (by omega)
    _ = g.eraseCost (k + 1) := (Nat.pow_succ' ..).symm

theorem openCost_succ (g : Grammar) (k : Nat) :
    g.openCost (k + 1) = g.openCost k + 1 + g.maxBody * g.eraseBound := by
  simp only [openCost, Nat.add_mul]
  omega

end Grammar

namespace Machine

open Grammar

/-! ## Charges -/

/-- What is known of a stack under a lookahead, and how many moves it takes before the next shift.
Each entry that nothing is known of is charged with being erased. -/
inductive Charge (g : Grammar) : Lookahead → List StackEntry → Nat → Prop
  | rest {x} (stack : List StackEntry) :
      Charge g x stack (g.openBound + g.eraseBound * stack.length)
  | opening {t k y below} : Starts g t k [y] →
      Charge g (.terminal t) (.symbol y :: below) (g.openCost k + g.eraseBound * below.length)
  | erasing {x k y below n} : Vanishes g k y → (∀ a, y = .nonterminal a → g.Follows a x) →
      Charge g x below n → Charge g x (.symbol y :: below) (g.eraseCost k + n)

variable {g : Grammar} {x : Lookahead} {below : List StackEntry}

/-- The charge of a body that is erased. -/
theorem Charge.erase_body {k n : Nat} {s : List Symbol} (h : Charge g x below n)
    (hs : ∀ y ∈ s, Vanishes g k y) (hfollow : ∀ a, .nonterminal a ∈ s → g.Follows a x) :
    Charge g x (s.map .symbol ++ below) (s.length * g.eraseCost k + n) := by
  induction s with
  | nil => simpa using h
  | cons y s ih =>
    have hcons := Charge.erasing (hs y List.mem_cons_self)
      (fun a ha => hfollow a (ha ▸ List.mem_cons_self))
      (ih (fun z hz => hs z (List.mem_cons_of_mem _ hz))
        fun a ha => hfollow a (List.mem_cons_of_mem _ ha))
    rwa [List.length_cons, Nat.succ_mul, Nat.add_comm (s.length * _), Nat.add_assoc]

/-- The charge of a body whose first symbol is opened. -/
theorem Charge.open_head {t k : Nat} {y : Symbol} (h : Starts g t k [y]) (s : List Symbol)
    (below : List StackEntry) :
    ∃ n, Charge g (.terminal t) ((y :: s).map .symbol ++ below) n ∧
      n ≤ g.openCost k + g.eraseBound * ((y :: s).length + below.length) := by
  refine ⟨g.openCost k + g.eraseBound * (s.map StackEntry.symbol ++ below).length, .opening h, ?_⟩
  rw [List.length_append, List.length_map, List.length_cons]
  exact Nat.add_le_add_left (Nat.mul_le_mul_left _ (by omega)) _

/-- The charge of a body that is opened: what stands before the first terminal is erased. -/
theorem Charge.open_body (hg : g.WellFormed) {t k : Nat} {s : List Symbol} (h : Starts g t k s)
    (hfollow : ∀ s₁ a s₂, s = s₁ ++ .nonterminal a :: s₂ → (∃ n, Starts g t n s₂) →
      g.Follows a (.terminal t)) (below : List StackEntry) :
    ∃ n, Charge g (.terminal t) (s.map .symbol ++ below) n ∧
      n ≤ g.openCost k + g.eraseBound * (s.length + below.length) := by
  induction h with
  | terminal => exact Charge.open_head .terminal _ below
  | enter hp hbody _ => exact Charge.open_head (.enter hp hbody) _ below
  | @pass k m y s hy hs ih =>
    obtain ⟨n, hn, hle⟩ := ih fun s₁ a s₂ heq => hfollow (y :: s₁) a s₂ (by rw [heq]; rfl)
    refine ⟨_, .erasing (hy.bounded hg) ?_ hn, ?_⟩
    · rintro a rfl
      exact hfollow [] a s rfl ⟨k, hs⟩
    · have hlen : g.eraseBound * ((y :: s).length + below.length) =
          g.eraseBound + g.eraseBound * (s.length + below.length) := by
        rw [List.length_cons, Nat.add_right_comm, Nat.mul_succ, Nat.add_comm]
      rw [hlen]
      unfold eraseBound at hle ⊢
      omega

/-! ## Moves -/

theorem follows_of_starts (hg : g.WellFormed) {p : Production} (hp : p ∈ g.productions)
    {s₁ s₂ : List Symbol} {a t : Nat} (hbody : p.body = s₁ ++ .nonterminal a :: s₂)
    (h : ∃ n, Starts g t n s₂) : g.Follows a (.terminal t) :=
  holds_of_behind hg hp hbody ((has_some_firstOf_iff hg).2 h)

theorem follows_of_vanishes (hg : g.WellFormed) {p : Production} (hp : p ∈ g.productions)
    {k : Nat} (hbody : ∀ y ∈ p.body, Vanishes g k y) (hx : g.Follows p.lhs x) {a : Nat}
    (ha : .nonterminal a ∈ p.body) : g.Follows a x := by
  obtain ⟨s₁, s₂, hs⟩ := List.append_of_mem ha
  refine holds_of_lhs hg hp hs ((has_none_firstOf_iff hg).2 fun y hy => ⟨k, hbody y ?_⟩) hx
  rw [hs]
  exact List.mem_append_right _ (List.mem_cons_of_mem _ hy)

theorem selects_of_starts (hg : g.WellFormed) {p : Production} {t k : Nat}
    (h : Starts g t k p.body) : g.Selects p (.terminal t) :=
  .inl ⟨t, rfl, (has_some_firstOf_iff hg).2 ⟨k, h⟩⟩

theorem selects_of_vanishes (hg : g.WellFormed) {p : Production} {k : Nat}
    (h : ∀ y ∈ p.body, Vanishes g k y) (hx : g.Follows p.lhs x) : g.Selects p x :=
  .inr ⟨(has_none_firstOf_iff hg).2 fun y hy => ⟨k, h y hy⟩, hx⟩

/-- A production that is the only one to fit a terminal opens its left-hand side in the fewest
levels. -/
theorem Charge.expand_opened (hg : g.WellFormed) {p : Production} (hp : p ∈ g.productions)
    {t k : Nat} (hunique : ∀ q ∈ g.productions, q.lhs = p.lhs → g.Selects q (.terminal t) → q = p)
    (hk : Starts g t k [.nonterminal p.lhs]) (below : List StackEntry) :
    ∃ n, Charge g (.terminal t) (p.body.map .symbol ++ below) n ∧
      n < g.openCost k + g.eraseBound * below.length := by
  cases k with
  | zero => exact absurd hk not_starts_zero
  | succ k =>
    obtain ⟨q, hq, hlhs, hbody⟩ := starts_nonterminal_iff.1 hk
    cases hunique q hq hlhs (selects_of_starts hg hbody)
    obtain ⟨n, hn, hle⟩ := Charge.open_body hg hbody
      (fun s₁ a s₂ heq => follows_of_starts hg hp heq) below
    refine ⟨n, hn, ?_⟩
    have hbodies : p.body.length * g.eraseBound ≤ g.maxBody * g.eraseBound :=
      Nat.mul_le_mul_right _ (g.length_body_le hp)
    rw [openCost_succ]
    rw [Nat.mul_add, Nat.mul_comm _ p.body.length] at hle
    omega

/-- A production that is the only one to fit what follows its left-hand side erases it in the fewest
levels. -/
theorem Charge.expand_erased (hg : g.WellFormed) {p : Production} (hp : p ∈ g.productions)
    {k n : Nat} (hunique : ∀ q ∈ g.productions, q.lhs = p.lhs → g.Selects q x → q = p)
    (hk : Vanishes g k (.nonterminal p.lhs)) (hfollows : g.Follows p.lhs x)
    (hbelow : Charge g x below n) :
    ∃ n', Charge g x (p.body.map .symbol ++ below) n' ∧ n' < g.eraseCost k + n := by
  cases k with
  | zero => cases hk
  | succ k =>
    obtain ⟨q, hq, hlhs, hbody⟩ := vanishes_nonterminal_iff.1 hk
    cases hunique q hq hlhs (selects_of_vanishes hg hbody (hlhs ▸ hfollows))
    exact ⟨_, hbelow.erase_body hbody fun a ha => follows_of_vanishes hg hp hbody hfollows ha,
      Nat.add_lt_add_right (g.lt_eraseCost_succ (g.length_body_le hp)) n⟩

/-- The one production that is predicted is the one that opens or erases in the fewest levels, so
expanding it lowers the charge. -/
theorem Charge.expand (hg : g.WellFormed) {a id n : Nat}
    (h : Charge g x (.symbol (.nonterminal a) :: below) n) (hid : g.table.predict a x = some id)
    {p : Production} (hp : g.productions[id]? = some p) :
    ∃ n', Charge g x (p.body.map .symbol ++ below) n' ∧ n' < n := by
  obtain ⟨p', hp', rfl, hselects, hunique⟩ := predict_table hid
  cases hp.symm.trans hp'
  have hmem : p ∈ g.productions := List.mem_of_getElem? hp
  cases h with
  | opening hk => exact Charge.expand_opened hg hmem hunique hk below
  | erasing hk hfollows hbelow =>
    exact Charge.expand_erased hg hmem hunique hk (hfollows _ rfl) hbelow
  | rest =>
    have hcharge : g.openBound + g.eraseBound * (below.length + 1) =
        g.eraseBound + (g.openBound + g.eraseBound * below.length) := by
      rw [Nat.mul_succ]
      omega
    rw [List.length_cons, hcharge]
    -- nothing is known of the top, but what selects the production tells how it can be charged
    rcases hselects with ⟨t, rfl, ht⟩ | ⟨hempty, hfollows⟩
    · obtain ⟨k, hk⟩ := (has_some_firstOf_iff hg).1 ht
      have hlhs : Starts g t (k + 1) [.nonterminal p.lhs] := .enter hmem hk
      obtain ⟨n', hn', hlt⟩ := Charge.expand_opened hg hmem hunique (hlhs.bounded hg) below
      exact ⟨n', hn', Nat.lt_of_lt_of_le hlt (Nat.le_add_left ..)⟩
    · obtain ⟨k, hk⟩ := exists_vanishes ((has_none_firstOf_iff hg).1 hempty)
      have hlhs : Vanishes g (k + 1) (.nonterminal p.lhs) := .nonterminal hmem hk
      exact Charge.expand_erased hg hmem hunique (hlhs.bounded hg) hfollows (.rest below)

theorem Charge.epsilon {n : Nat} (h : Charge g x (.symbol .empty :: below) n) :
    ∃ n', Charge g x below n' ∧ n' < n := by
  cases h with
  | rest =>
    refine ⟨_, .rest below, ?_⟩
    have hpos : 0 < g.eraseBound := g.eraseCost_pos _
    rw [List.length_cons, Nat.mul_succ]
    omega
  | opening h =>
    rcases h with _ | _ | ⟨-, h⟩
    cases h
  | @erasing _ k _ _ n _ _ hbelow => exact ⟨n, hbelow, Nat.lt_add_of_pos_left (g.eraseCost_pos k)⟩

theorem Charge.shift {n t : Nat} (h : Charge g x (.symbol (.terminal t) :: below) n) :
    g.eraseBound * below.length ≤ n := by
  cases h with
  | rest =>
    rw [List.length_cons, Nat.mul_succ]
    omega
  | opening h => exact Nat.le_add_left ..
  | erasing h => cases h

/-! ## Runs -/

variable {σ ι : Type} {r : Recorder σ ι}

/-- The moves that `n` shifts pay for. -/
def allowance (g : Grammar) (n : Nat) : Nat :=
  g.openBound + g.eraseBound * 2 + (g.openBound + 1) * n

/-- The moves made so far and the charge of the stack are paid for by the shifts so far. A lexeme
that means nothing to the table may be charged as any lookahead. -/
def Paid (g : Grammar) (c : Config (σ × List StepCall) ι) : Prop :=
  ∃ x n, (∀ y, lookahead? g c.lookahead = some y → y = x) ∧
    Charge g x c.stack n ∧
    c.record.2.length + n ≤ allowance g (StepCall.tokens c.record.2).length

/-- One shift more than there are lexemes cannot pay for `moveBound` moves. -/
theorem allowance_lt_moveBound (g : Grammar) (n : Nat) : allowance g (n + 1) < g.moveBound n := by
  have hE : 0 < g.eraseBound := g.eraseCost_pos _
  have hN : g.nonterminals.length ≤ g.eraseBound :=
    calc g.nonterminals.length ≤ 2 ^ g.nonterminals.length := Nat.le_of_lt Nat.lt_two_pow_self
      _ ≤ g.eraseBound := Nat.pow_le_pow_left (by omega) _
  -- the moves of one shift are at most the square of the moves of one erasure, times a body
  generalize hM : g.eraseBound * (g.eraseBound * (g.maxBody + 2)) = M
  have htwice : g.eraseBound * 2 ≤ M := by
    rw [← hM, ← Nat.one_mul (g.eraseBound * 2)]
    exact Nat.mul_le_mul hE (Nat.mul_le_mul_left _ (by omega))
  have hopen : g.openBound ≤ M + 1 := by
    rw [← hM]
    refine Nat.add_le_add_right (Nat.mul_le_mul hN ?_) 1
    rw [Nat.mul_comm g.maxBody, Nat.mul_add]
    omega
  have hbound : g.moveBound n = M * ((g.maxBody + 2) ^ 3 * (n + 4)) := by
    rw [← hM, moveBound, eraseBound, eraseCost, Nat.pow_eq]
    ring
  have hcube : 2 ^ 3 ≤ (g.maxBody + 2) ^ 3 := Nat.pow_le_pow_left (by omega) 3
  calc allowance g (n + 1) ≤ M * (2 * n + 6) := by
        have hshifts := Nat.mul_le_mul_right (n + 1) (show g.openBound + 1 ≤ 2 * M by omega)
        rw [allowance]
        nlinarith
    _ < M * (2 ^ 3 * (n + 4)) := by
        have hM' : 0 < M := by omega
        exact (Nat.mul_lt_mul_left hM').2 (by omega)
    _ ≤ g.moveBound n := by
        rw [hbound]
        exact Nat.mul_le_mul_left _ (Nat.mul_le_mul_right _ hcube)

/-- Every lexeme can be charged as one lookahead. -/
theorem exists_lookahead (g : Grammar) (l : Lexeme) :
    ∃ x, ∀ y, lookahead? g l = some y → y = x := by
  cases h : lookahead? g l with
  | none => exact ⟨.finish, fun y hy => nomatch hy⟩
  | some x => exact ⟨x, fun y hy => (Option.some.inj hy).symm⟩

theorem paid_start (l : Lexeme) (rest : List Pull) (s : σ) :
    Paid g (start g r.logged l rest (s, [])) := by
  obtain ⟨x, hx⟩ := exists_lookahead g l
  refine ⟨x, _, hx, .rest _, ?_⟩
  simp [start, initial, Recorder.logged, allowance, StepCall.tokens]

theorem paid_step (hg : g.WellFormed) (hr : r.FillsBodies) (c c' : Config (σ × List StepCall) ι)
    (h : Paid g c) (heffect : Effect g g.table r.logged c (.running c')) : Paid g c' := by
  obtain ⟨x, n, hx, hcharge, hpaid⟩ := h
  cases heffect with
  | epsilon =>
    obtain ⟨n', hn', hlt⟩ := hcharge.epsilon
    refine ⟨x, n', hx, hn', ?_⟩
    simp only [Recorder.logged, List.length_append, List.length_cons, List.length_nil,
      StepCall.tokens_concat, StepCall.token?, Option.toList_none, Nat.add_zero] at hpaid ⊢
    omega
  | @shift id slot below under token rest s l' rest' hid hadvance =>
    obtain ⟨x', hx'⟩ := exists_lookahead g l'
    refine ⟨x', _, hx', .rest _, ?_⟩
    have hle := hcharge.shift
    simp only [Recorder.logged, List.length_append, List.length_cons, List.length_nil,
      StepCall.tokens_concat, StepCall.token?, Option.toList_some, allowance,
      Nat.mul_add] at hpaid ⊢
    omega
  | @expand a slot below under l rest s y id slots s' hy hid hs =>
    obtain ⟨hp, rfl⟩ := production_of_predict hid
    cases hx y hy
    obtain ⟨n', hn', hlt⟩ := hcharge.expand hg hid hp
    have hslots := map_fst_zip_slots (hr.logged _ _ _ _ _ _ hs)
    have hs' := reports_expand hs
    refine ⟨_, n', hx, ?_, ?_⟩
    · simpa only [hslots] using hn'
    · simp only [hs', List.length_append, List.length_cons, List.length_nil,
        StepCall.tokens_concat, StepCall.token?, Option.toList_none, Nat.add_zero] at hpaid ⊢
      omega

theorem Leftmost.shifts_le {stream : List Pull} {c : Config (σ × List StepCall) ι}
    (h : Leftmost g stream c) : (StepCall.tokens c.record.2).length ≤ stream.length := by
  obtain ⟨pending, hbehind, -⟩ := h.pending
  rw [hbehind, List.length_append, Token.pulls, List.length_map]
  exact Nat.le_add_right ..

/-- The machine comes to an end within the moves that it is allowed. -/
theorem run_halts (hg : g.WellFormed) (hr : r.FillsBodies) {stream rest : List Pull} {l : Lexeme}
    (h : advance stream = .ok (l, rest)) (s : σ) {n : Nat} (hn : stream.length ≤ n + 1) :
    (run g g.table r (g.moveBound n) (start g r l rest s)).IsFinal := by
  rw [← start_logged l rest s [], ← run_logged]
  rcases (run g g.table r.logged (g.moveBound n)
      (start g r.logged l rest (s, []))).running_or_final with ⟨c, hrun⟩ | hfinal
  · obtain ⟨x, m, -, -, hpaid⟩ := run_running (paid_step hg hr) (paired_start ..)
      (paid_start l rest s) hrun
    have hshifts := (run_running (leftmost_step hr) (paired_start ..)
      (leftmost_start h s) hrun).shifts_le
    have hmoves := length_reports_run (paired_start ..) hrun
    have hallowance : allowance g (StepCall.tokens c.record.2).length ≤ allowance g (n + 1) :=
      Nat.add_le_add_left (Nat.mul_le_mul_left _ (by omega)) _
    have hlt := allowance_lt_moveBound g n
    have hzero : (start g r.logged l rest (s, [])).record.2.length = 0 := rfl
    omega
  · exact hfinal.unlogged

/-- A run makes one more move at most than its shifts pay for. -/
theorem length_stepCalls_le (hg : g.WellFormed) (hr : r.FillsBodies) (stream : List Pull) (s : σ) :
    (stepCalls g g.table r stream s).length ≤
      allowance g (StepCall.tokens (stepCalls g g.table r stream s)).length + 1 := by
  cases h : advance stream with
  | error e =>
    rw [stepCalls_of_error h]
    exact Nat.zero_le _
  | ok next =>
    obtain ⟨l, rest⟩ := next
    rw [stepCalls_of_advance h]
    have hfinal := run_halts hg hr.logged h (s, []) (Nat.le_succ _)
    obtain ⟨c, ⟨x, n, -, -, hpaid⟩, heffect⟩ :=
      run_stopped (paid_step hg hr) (paired_start ..) (paid_start l rest s) hfinal
    rcases heffect.reports with hrecord | ⟨action, hrecord⟩
    · rw [hrecord]
      omega
    · rw [hrecord, StepCall.tokens_concat, List.length_append, List.length_append]
      have hmono : allowance g (StepCall.tokens c.record.2).length ≤
          allowance g ((StepCall.tokens c.record.2).length + (StepCall.token?
            ⟨c.stack, c.lookahead, action⟩).toList.length) :=
        Nat.add_le_add_left (Nat.mul_le_mul_left _ (Nat.le_add_right ..)) _
      rw [List.length_singleton]
      omega

/-- For every grammar there is a constant such that, whatever the recorder and the stream, the
machine comes to an end of its own accord, and it makes at most that many moves for every shift and
for the end. -/
theorem drive_halts_linearly {ds : Grammar.Declarations} {x : Lexicon} {options : Grammar.Options}
    {g : Grammar} (hds : ds.names.Nodup) (hg : resolve ds x options = .ok g) :
    ∃ C, ∀ (σ ι : Type) (r : Recorder σ ι), r.FillsBodies → ∀ (stream : List Pull) (s : σ),
      (∀ l rest, advance stream = .ok (l, rest) →
        ∃ outcome : Outcome σ ι, outcome.IsFinal ∧
          (∀ n, g.moveBound stream.length ≤ n →
            run g g.table r n (start g r l rest s) = outcome) ∧
          drive g g.table r stream s = finish r outcome) ∧
      (stepCalls g g.table r stream s).length ≤
        C * ((StepCall.tokens (stepCalls g g.table r stream s)).length + 1) := by
  have hg := WellFormed.of_resolve hds hg
  refine ⟨g.openBound + g.eraseBound * 2 + 1, fun σ ι r hr stream s => ⟨fun l rest h => ?_, ?_⟩⟩
  · have hfinal := run_halts hg hr h s (Nat.le_succ _)
    exact ⟨_, hfinal, fun n hn => run_of_le hfinal hn, drive_of_advance h⟩
  · have hle := length_stepCalls_le hg hr stream s
    generalize (StepCall.tokens (stepCalls g g.table r stream s)).length = shifts at hle ⊢
    have hshifts := Nat.zero_le (g.eraseBound * shifts)
    rw [allowance] at hle
    nlinarith

/-- A grammar that is left-recursive and has a cell in conflict: `A -> A a`, or nothing. -/
def leftRecursive : Grammar where
  terminals := ["a"]
  nonterminals := ["A"]
  productions := [⟨0, [.nonterminal 0, .terminal 0]⟩, ⟨0, [.empty]⟩]
  emptyName := "$"

theorem drive_halts_linearly_leftRecursive :
    resolve [⟨"A", 1, [⟨1, "A a"⟩, ⟨1, "$"⟩]⟩] ⟨[⟨"a", "a", 0, false⟩]⟩ {} = .ok leftRecursive ∧
      ∃ C, ∀ stream, (stepCalls leftRecursive leftRecursive.table (Journal.recorder none)
          stream {}).length ≤
        C * ((StepCall.tokens (stepCalls leftRecursive leftRecursive.table
          (Journal.recorder none) stream {})).length + 1) := by
  have hg : resolve [⟨"A", 1, [⟨1, "A a"⟩, ⟨1, "$"⟩]⟩] ⟨[⟨"a", "a", 0, false⟩]⟩ {} =
      .ok leftRecursive := by decide +kernel
  obtain ⟨C, hC⟩ := drive_halts_linearly (by decide) hg
  exact ⟨hg, C, fun stream => (hC _ _ _ (Journal.fillsBodies none) stream {}).2⟩

end Machine

end TopDown
