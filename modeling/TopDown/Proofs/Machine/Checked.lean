import TopDown.Proofs.Machine.Leftmost
import TopDown.Proofs.Table.Checked

/-!
# Runs by checked numbers

Here every production that is expanded and every terminal that is put into words is looked up with
a check. Before each move all entries of the stack are named, since the recorder is shown the
stack: a symbol that the grammar does not know would make the run fail.

* `Machine.chooseAction?`, `Machine.step?`, `Machine.run?`, `Machine.drive?` : a run, checked;
* `Config.Known`, `Config.Known.step` : the stack holds known symbols only, and every move keeps it
  so;
* `Machine.drive?_eq` : with the table of a well-formed grammar no check fails, whatever the stream
  and the recorder.
-/

namespace TopDown

def StackEntry.label? (g : Grammar) : StackEntry → Option String
  | finish => some "<end>"
  | symbol s => g.symbolName? s

namespace Machine

def unexpected? (g : Grammar) (expected : List Lookahead) (l : Lexeme) : Option ParseError :=
  (expected.mapM (Lookahead.describe? g)).map fun words => .unexpected l.offset words l.describe

/-- The move for the stack's top under a lexeme, checked. -/
def chooseAction? (g : Grammar) (t : Table) (entry : StackEntry) (l : Lexeme) :
    Option (Except ParseError Action) :=
  match entry with
  | .finish =>
    if lookahead? g l = some .finish then some (.ok .accept)
    else (unexpected? g [.finish] l).map .error
  | .symbol .empty => some (.ok .epsilon)
  | .symbol (.terminal id) =>
    if lookahead? g l = some (.terminal id) then some (.ok .shift)
    else (unexpected? g [.terminal id] l).map .error
  | .symbol (.nonterminal id) =>
    match (lookahead? g l).bind (t.predict id) with
    | some production => some (.ok (.expand production))
    | none => (unexpected? g (t.expected id) l).map .error

variable {σ ι : Type}

section

variable (g : Grammar) (t : Table) (r : Recorder σ ι)

/-- The names of all entries of a stack. -/
def labels? (stack : List StackEntry) : Option (List String) := stack.mapM (·.label? g)

/-- One move, checked. -/
def step? : Config σ ι → Option (Outcome σ ι)
  | ⟨entry :: below, slot :: under, l, rest, record⟩ =>
    (labels? g (entry :: below)).bind fun _ =>
      (chooseAction? g t entry l).bind fun
        | .error e => some (.rejected (entry :: below) (slot :: under) e record)
        | .ok action =>
          let record := r.step (entry :: below) l action record
          match action with
          | .accept => some (.accepted record)
          | .epsilon => some (.running ⟨below, under, l, rest, r.epsilon slot record⟩)
          | .shift => some (shift r below under slot l rest record)
          | .expand id => g.productions[id]?.map fun p => expand r below under slot p l rest record
  | ⟨_, _, _, _, record⟩ => some (.accepted record)

/-- At most `n` moves, checked. -/
def run? : Nat → Config σ ι → Option (Outcome σ ι)
  | 0, c => some (.running c)
  | n + 1, c =>
    (step? g t r c).bind fun
      | .running c => run? n c
      | outcome => some outcome

/-- A whole run, checked. The start symbol is named first. -/
def drive? (stream : List Pull) (s : σ) : Option (Except ParseError Unit × σ) :=
  g.nonterminals[g.start]?.bind fun _ =>
    let (root, s) := r.root g.start s
    match advance stream with
    | .error e =>
      let e := .lexical e
      some (.error e, r.reject (initial g root (.finish 0) [] s).stack e s)
    | .ok (l, rest) =>
      (run? g t r (g.moveBound stream.length) (initial g root l rest s)).map (finish r)

end

/-! ## Known symbols -/

end Machine

/-- An entry whose symbol is known. -/
def StackEntry.Known (g : Grammar) : StackEntry → Prop
  | finish => True
  | symbol s => g.Knows s

theorem StackEntry.label?_eq {g : Grammar} {entry : StackEntry} (h : entry.Known g) :
    entry.label? g = some (entry.label g) := by
  cases entry with
  | finish => rfl
  | symbol s => exact Grammar.symbolName?_eq h

namespace Machine

variable {σ ι : Type} {g : Grammar} {r : Recorder σ ι}

/-- All symbols on the stack are known. -/
def Config.Known (g : Grammar) (c : Config σ ι) : Prop := ∀ e ∈ c.stack, e.Known g

theorem known_initial (hg : g.WellFormed) (root : ι) (l : Lexeme) (rest : List Pull) (s : σ) :
    (initial g root l rest s).Known g := by
  intro e he
  rcases List.mem_cons.1 he with rfl | he
  · exact hg.start_lt
  · cases List.mem_singleton.1 he
    trivial

/-- Only bodies of productions are put on the stack. -/
theorem Config.Known.step (hg : g.WellFormed) {c c' : Config σ ι} (hc : c.Known g)
    (heffect : Effect g g.table r c (.running c')) : c'.Known g := by
  cases heffect with
  | epsilon => exact fun e he => hc e (List.mem_cons_of_mem _ he)
  | shift => exact fun e he => hc e (List.mem_cons_of_mem _ he)
  | expand _ hid _ =>
    intro e he
    rcases List.mem_append.1 he with he | he
    · obtain ⟨⟨s, slot⟩, hs, rfl⟩ := List.mem_map.1 he
      have hp := List.mem_of_getElem? (production_of_predict hid).1
      exact hg.knows_body _ hp s (List.of_mem_zip hs).1
    · exact hc e (List.mem_cons_of_mem _ he)

/-! ## No check fails -/

theorem unexpected?_eq {expected : List Lookahead} (h : ∀ x ∈ expected, x.Known g) (l : Lexeme) :
    unexpected? g expected l = some (unexpected g expected l) := by
  rw [unexpected?, mapM_eq_some_map fun x hx => Lookahead.describe?_eq (h x hx)]
  rfl

/-- Nothing unknown is ever expected. -/
theorem known_expectedAt (hg : g.WellFormed) {entry : StackEntry} (hentry : entry.Known g) :
    ∀ x ∈ expectedAt g.table entry, x.Known g := by
  intro x hx
  match entry, hentry with
  | .finish, _ =>
    cases List.mem_singleton.1 hx
    trivial
  | .symbol .empty, _ => cases hx
  | .symbol (.terminal id), hid =>
    cases List.mem_singleton.1 hx
    exact hid
  | .symbol (.nonterminal a), _ =>
    obtain ⟨c, hc, rfl⟩ := List.mem_map.1 hx
    exact (Grammar.known_of_mem_cells hg (List.mem_filter.1 hc).1).lookahead

theorem chooseAction?_eq (hg : g.WellFormed) {entry : StackEntry} (hentry : entry.Known g)
    (l : Lexeme) : chooseAction? g g.table entry l = some (chooseAction g g.table entry l) := by
  have hwords := unexpected?_eq (known_expectedAt hg hentry) l
  match entry with
  | .finish =>
    rw [expectedAt] at hwords
    rw [chooseAction?, chooseAction, hwords]
    split <;> rfl
  | .symbol .empty => rfl
  | .symbol (.terminal id) =>
    rw [expectedAt] at hwords
    rw [chooseAction?, chooseAction, hwords]
    split <;> rfl
  | .symbol (.nonterminal a) =>
    rw [expectedAt] at hwords
    rw [chooseAction?, chooseAction, hwords]
    cases (lookahead? g l).bind (g.table.predict a) <;> rfl

theorem predict_of_expand {t : Table} {entry : StackEntry} {l : Lexeme} {id : Nat}
    (h : chooseAction g t entry l = .ok (.expand id)) : ∃ a x, t.predict a x = some id := by
  unfold chooseAction at h
  split at h
  · split at h <;> cases h
  · cases h
  · split at h <;> cases h
  · split at h
    · rename_i hid
      cases h
      obtain ⟨x, -, hid⟩ := Option.bind_eq_some_iff.1 hid
      exact ⟨_, x, hid⟩
    · cases h

theorem step?_eq (hg : g.WellFormed) {c : Config σ ι} (hc : c.Known g) :
    step? g g.table r c = some (step g g.table r c) := by
  obtain ⟨_ | ⟨entry, below⟩, _ | ⟨slot, under⟩, l, rest, record⟩ := c
  · rfl
  · rfl
  · rfl
  have hentry : entry.Known g := hc _ List.mem_cons_self
  rw [step?, labels?, mapM_eq_some_map fun e he => StackEntry.label?_eq (hc e he),
    Option.bind_some, chooseAction?_eq hg hentry, Option.bind_some, step]
  cases haction : chooseAction g g.table entry l with
  | error e => rfl
  | ok action =>
    cases action with
    | accept => rfl
    | epsilon => rfl
    | shift => rfl
    | expand id =>
      -- only what the table predicts is expanded, and it predicts productions of the grammar
      obtain ⟨a, x, hid⟩ := predict_of_expand haction
      simp only [(production_of_predict hid).1, Option.map_some]

theorem run?_eq (hg : g.WellFormed) (n : Nat) {c : Config σ ι} (hpaired : c.Paired)
    (hc : c.Known g) :
    run? g g.table r n c = some (run g g.table r n c) := by
  induction n generalizing c with
  | zero => rfl
  | succ n ih =>
    have heffect : Effect g g.table r c (step g g.table r c) := effect_step hpaired
    rw [run?, run, step?_eq hg hc, Option.bind_some]
    cases hstep : step g g.table r c with
    | running c' =>
      rw [hstep] at heffect
      exact ih (heffect.paired hpaired) (hc.step hg heffect)
    | accepted record => rfl
    | rejected stack slots e record => rfl

/-- With the table of a well-formed grammar every stream is run through without a number out of
range, and every stack that the recorder is shown can be named. -/
theorem drive?_eq (hg : g.WellFormed) (r : Recorder σ ι) (stream : List Pull) (s : σ) :
    drive? g g.table r stream s = some (drive g g.table r stream s) := by
  rw [drive?, drive, Grammar.nonterminals_getElem? hg.start_lt, Option.bind_some]
  cases advance stream with
  | error e => rfl
  | ok next =>
    have hpaired : (start g r next.1 next.2 s).Paired := paired_start ..
    have hknown : (start g r next.1 next.2 s).Known g :=
      known_initial hg _ _ _ _
    exact congrArg (Option.map (finish r)) (run?_eq hg (g.moveBound stream.length) hpaired hknown)

end Machine

end TopDown
