import TopDown.Proofs.Machine.Acceptance

/-!
# Errors lie at the lookahead or behind it

Tokens are read from left to right, so a run that is rejected is rejected no earlier in the input
than where it looks at any time before.

* `Ascends` : the offsets of a stream go up, and it does not run out behind a token;
* `ascends_of_reads` : so does all that a tokenizer reads;
* `Ascends.step`, `Ascends.run` : moves keep this, and the lookahead never goes back;
* `offset_le_of_rejected` : so the error of a run does not lie before its lookahead.
-/

namespace TopDown.Machine

/-- The offsets go up from the lexeme on to the first error or the end. -/
inductive Ascends : Lexeme → List Pull → Prop
  | finish {n rest} : Ascends (.finish n) rest
  | token {token l rest} : token.start ≤ l.offset → Ascends l rest →
      Ascends (.token token) (.ok l :: rest)
  | unreadable {token e rest} : token.start ≤ (ParseError.lexical e).offset →
      Ascends (.token token) (.error e :: rest)

/-- What a tokenizer reads from an offset on lies behind it, in ascending order. -/
theorem ascends_of_reads {t : Tokenizer} {offset : Nat} {text : List Char} {tokens : List Token}
    {last : Pull} (h : t.Reads offset text tokens last) {l : Lexeme} {rest : List Pull}
    (hnext : advance (Token.pulls tokens ++ [last]) = .ok (l, rest)) :
    offset ≤ l.offset ∧ Ascends l rest := by
  induction h generalizing l rest with
  | finish =>
    cases hnext
    exact ⟨Nat.le_refl _, .finish⟩
  | noMatch => cases hnext
  | separator _ _ _ ih =>
    obtain ⟨hle, hascends⟩ := ih hnext
    exact ⟨Nat.le_trans (Nat.le_add_right ..) hle, hascends⟩
  | @token offset c cs m terminal tokens last _ _ hreads ih =>
    cases hnext
    refine ⟨Nat.le_refl _, ?_⟩
    cases tokens with
    | cons token tokens =>
      obtain ⟨hle, hascends⟩ := ih rfl
      exact .token (Nat.le_trans (Nat.le_add_right ..) hle) hascends
    | nil =>
      rcases hreads.last_eq with ⟨n, rfl⟩ | ⟨n, character, rfl⟩
      · obtain ⟨hle, hascends⟩ := ih rfl
        exact .token (Nat.le_trans (Nat.le_add_right ..) hle) hascends
      · exact .unreadable (Nat.le_trans (Nat.le_add_right ..) hreads.start_lt.1)

variable {σ ι : Type} {g : Grammar} {t : Table} {r : Recorder σ ι} {c c' : Config σ ι}

theorem Ascends.step (h : Ascends c.lookahead c.rest) (heffect : Effect g t r c (.running c')) :
    Ascends c'.lookahead c'.rest ∧ c.lookahead.offset ≤ c'.lookahead.offset := by
  cases heffect with
  | epsilon => exact ⟨h, Nat.le_refl _⟩
  | expand => exact ⟨h, Nat.le_refl _⟩
  | shift _ hadvance =>
    cases h with
    | token hle hascends =>
      cases hadvance
      exact ⟨hascends, hle⟩
    | unreadable => cases hadvance

theorem Ascends.run {n : Nat} (hpaired : c.Paired) (h : Ascends c.lookahead c.rest)
    (hrun : run g t r n c = .running c') : Ascends c'.lookahead c'.rest := by
  have hstep : ∀ d d' : Config σ ι, Ascends d.lookahead d.rest →
      Effect g t r d (.running d') → Ascends d'.lookahead d'.rest :=
    fun _ _ hd heffect => (hd.step heffect).1
  exact run_running hstep hpaired h hrun

/-- Where no expansion is refused, a run is rejected at its lookahead or behind it, and not for the
depth of a tree. -/
theorem offset_le_of_rejected (hagrees : r.Agrees) (hpaired : c.Paired)
    (h : Ascends c.lookahead c.rest) {n : Nat} {stack : List StackEntry} {slots : List ι}
    {e : ParseError} {s : σ} (hrun : run g t r n c = .rejected stack slots e s) :
    c.lookahead.offset ≤ e.offset ∧ ∀ offset limit, e ≠ .tooDeep offset limit := by
  induction n generalizing c with
  | zero => cases hrun
  | succ n ih =>
    rcases moves_or_ends hpaired with ⟨c', heffect⟩ | ⟨outcome, hfinal, heffect⟩
    · rw [run_succ_of_move heffect] at hrun
      obtain ⟨hascends, hle⟩ := h.step heffect
      obtain ⟨hoffset, hdeep⟩ := ih (heffect.paired hpaired) hascends hrun
      exact ⟨Nat.le_trans hle hoffset, hdeep⟩
    · rw [run_succ_of_end hfinal heffect] at hrun
      subst hrun
      cases heffect with
      | stuck he =>
        obtain rfl := chooseAction_error he
        exact ⟨Nat.le_refl _, by rintro offset limit ⟨⟩⟩
      | unreadable _ hadvance =>
        cases h with
        | token => cases hadvance
        | unreadable hle =>
          cases hadvance
          exact ⟨hle, by rintro offset limit ⟨⟩⟩
      | refused _ _ hrefused =>
        obtain ⟨slots, record, hslots⟩ := hagrees _ _ _ _
        cases hslots.symm.trans hrefused

end TopDown.Machine
