import TopDown.Proofs.Machine.Acceptance

/-!
# Recorders that refuse nothing run in lockstep

The machine asks its recorder for slots only. As long as no expansion is refused, what the slots are
and what is kept changes nothing in the moves.

* `Alike`, `SameOutcome` : the same point of two runs, and the same outcome;
* `effect_alike`, `run_alike` : one move, and many;
* `drive_alike` : all recorders that refuse nothing come to the same verdict.
-/

namespace TopDown.Machine

variable {σ ι σ' ι' : Type} {g : Grammar} {t : Table} {r : Recorder σ ι} {r' : Recorder σ' ι'}

/-- Two runs at the same point. -/
structure Alike (c : Config σ ι) (c' : Config σ' ι') : Prop where
  stack : c'.stack = c.stack
  slots : c'.slots.length = c.slots.length
  lookahead : c'.lookahead = c.lookahead
  rest : c'.rest = c.rest

/-- The same outcome of two runs, but for what has been recorded. -/
inductive SameOutcome : Outcome σ ι → Outcome σ' ι' → Prop
  | running {c c'} : Alike c c' → SameOutcome (.running c) (.running c')
  | accepted {s s'} : SameOutcome (.accepted s) (.accepted s')
  | rejected {stack slots slots' e s s'} :
      SameOutcome (.rejected stack slots e s) (.rejected stack slots' e s')

theorem SameOutcome.isFinal {outcome : Outcome σ ι} {outcome' : Outcome σ' ι'}
    (h : SameOutcome outcome outcome') (hfinal : outcome.IsFinal) : outcome'.IsFinal := by
  cases h with
  | running => cases hfinal
  | accepted => trivial
  | rejected => trivial

theorem SameOutcome.verdict {outcome : Outcome σ ι} {outcome' : Outcome σ' ι'}
    (h : SameOutcome outcome outcome') : (finish r outcome).1 = (finish r' outcome').1 := by
  cases h with
  | running h => simp only [finish, h.lookahead]
  | accepted => rfl
  | rejected => rfl

section Lockstep

variable (hr : r.FillsBodies) (hagrees : r.Agrees) (hr' : r'.FillsBodies) (hagrees' : r'.Agrees)

include hr hagrees hr' hagrees'

theorem effect_alike {c : Config σ ι} {c' : Config σ' ι'} (h : Alike c c')
    {outcome : Outcome σ ι} (heffect : Effect g t r c outcome) :
    ∃ outcome', Effect g t r' c' outcome' ∧ SameOutcome outcome outcome' := by
  obtain ⟨stack', slots', l', rest', s'⟩ := c'
  obtain ⟨hstack, hlength, hl, hrest⟩ := h
  simp only at hstack hlength hl hrest
  subst hstack hl hrest
  cases heffect with
  | exhausted =>
    cases List.length_eq_zero_iff.1 hlength
    exact ⟨_, .exhausted, .accepted⟩
  | stuck he =>
    obtain ⟨slot', under', rfl, -⟩ := slots_of_length hlength
    exact ⟨_, .stuck he, .rejected⟩
  | accept =>
    obtain ⟨slot', under', rfl, -⟩ := slots_of_length hlength
    exact ⟨_, .accept, .accepted⟩
  | epsilon =>
    obtain ⟨slot', under', rfl, hunder⟩ := slots_of_length hlength
    exact ⟨_, .epsilon, .running ⟨rfl, hunder, rfl, rfl⟩⟩
  | shift hid hadvance =>
    obtain ⟨slot', under', rfl, hunder⟩ := slots_of_length hlength
    exact ⟨_, .shift hid hadvance, .running ⟨rfl, hunder, rfl, rfl⟩⟩
  | unreadable hid hadvance =>
    obtain ⟨slot', under', rfl, -⟩ := slots_of_length hlength
    exact ⟨_, .unreadable hid hadvance, .rejected⟩
  | expand hx hid hslots =>
    obtain ⟨slot', under', rfl, hunder⟩ := slots_of_length hlength
    obtain ⟨slots', record', hslots'⟩ := hagrees' slot' _ _ (r'.step _ _ _ s')
    have hbody := hr _ _ _ _ _ _ hslots
    have hbody' := hr' _ _ _ _ _ _ hslots'
    refine ⟨_, .expand hx hid hslots', .running ⟨?_, ?_, rfl, rfl⟩⟩
    · rw [map_fst_zip_slots hbody, map_fst_zip_slots hbody']
    · rw [map_snd_zip_slots hbody, map_snd_zip_slots hbody', List.length_append, List.length_append,
        hbody, hbody', hunder]
  | refused _ _ hrefused =>
    obtain ⟨slots, record, hslots⟩ := hagrees _ _ _ _
    cases hslots.symm.trans hrefused

theorem run_alike {n : Nat} {c : Config σ ι} {c' : Config σ' ι'} (hpaired : c.Paired)
    (h : Alike c c') :
    SameOutcome (run g t r n c) (run g t r' n c') := by
  induction n generalizing c c' with
  | zero => exact .running h
  | succ n ih =>
    rcases moves_or_ends hpaired with ⟨d, heffect⟩ | ⟨outcome, hfinal, heffect⟩
    · obtain ⟨outcome', heffect', hsame⟩ := effect_alike hr hagrees hr' hagrees' h heffect
      cases hsame with
      | running hd =>
        rw [run_succ_of_move heffect, run_succ_of_move heffect']
        exact ih (heffect.paired hpaired) hd
    · obtain ⟨outcome', heffect', hsame⟩ := effect_alike hr hagrees hr' hagrees' h heffect
      rw [run_succ_of_end hfinal heffect, run_succ_of_end (hsame.isFinal hfinal) heffect']
      exact hsame

/-- All recorders that refuse nothing come to the same verdict. -/
theorem drive_alike (stream : List Pull) (s : σ) (s' : σ') :
    (drive g t r stream s).1 = (drive g t r' stream s').1 := by
  cases hnext : advance stream with
  | error e => rw [drive_of_error hnext, drive_of_error hnext]
  | ok next =>
    have hstart : Alike (start g r next.1 next.2 s) (start g r' next.1 next.2 s') :=
      ⟨rfl, rfl, rfl, rfl⟩
    rw [drive_of_advance hnext, drive_of_advance hnext]
    exact (run_alike hr hagrees hr' hagrees' (paired_start ..) hstart).verdict

end Lockstep

end TopDown.Machine
