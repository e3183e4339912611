import TopDown.Proofs.Table.LeftRecursion

/-!
# Errors are reported at the first bad lexeme

A prediction rests on FOLLOW and not on what can really come next, so under a bad lookahead the
machine may still expand productions that vanish before it gets stuck. Two invariants of a run hold
even so: whatever the grammar allows behind the shifted tokens, under the lookahead, is derived by
the symbols on the stack, and these symbols belong to a form that the start symbol derives.

* `Grammar.Productive` : every nonterminal derives some terminals;
* `InContext.expand` : FOLLOW has all that can come behind the nonterminals of the stack;
* `Foresees`, `foresees_start`, `foresees_step` : the first invariant of a run;
* `Foresees.stuck` : where the machine is stuck, no text of the language goes on with the lookahead;
* `Reflects.extends` : in a productive grammar the tokens shifted so far start a text of the
  language;
* `drive_rejects_first_bad` : so the lexeme of a syntax error is the first bad one.
-/

namespace TopDown

namespace Grammar

/-- Every nonterminal derives some terminals. -/
def Productive (g : Grammar) : Prop :=
  ∀ a < g.nonterminals.length, ∃ w : List Nat,
    g.contextFree.Derives [.nonterminal a] (w.map .terminal)

variable {g : Grammar} {s s' : List Symbol}

theorem Productive.exists_yields (h : g.Productive) (hs : ∀ x ∈ s, g.Knows x) :
    ∃ w, Yields g s w := by
  refine exists_yields_of_productive (fun a ha => ?_) hs
  obtain ⟨w, hw⟩ := h a ha
  exact ⟨w, yields_of_derives hw⟩

/-- Derivation from known symbols leads to known symbols. -/
theorem knows_of_deriveLeftmost (hg : g.WellFormed) {ids : List Nat}
    (h : g.deriveLeftmost ids s = some s') (hs : ∀ x ∈ s, g.Knows x) : ∀ x ∈ s', g.Knows x := by
  induction ids generalizing s with
  | nil =>
    cases h
    exact hs
  | cons id ids ih =>
    obtain ⟨r, hr, h⟩ := Option.bind_eq_some_iff.1 h
    obtain ⟨p, s₁, s₂, hp, rfl, rfl⟩ := rewriteLeftmost_eq_some hr
    have hbody := hg.knows_body p (List.mem_of_getElem? hp)
    refine ih h fun x hx => ?_
    simp only [List.mem_append] at hx
    rcases hx with (hx | hx) | hx
    · exact hs x (List.mem_append_left _ hx)
    · exact hbody x (List.mem_filter.1 hx).1
    · exact hs x (List.mem_append_right _ (List.mem_cons_of_mem _ hx))

end Grammar

/-- Keeping reports refuses nothing. -/
theorem Recorder.Agrees.logged {σ ι : Type} {r : Recorder σ ι} (h : r.Agrees) :
    r.logged.Agrees := by
  intro slot p l s
  obtain ⟨slots, s', hs⟩ := h slot p l s.1
  exact ⟨slots, (s', s.2), by simp only [Recorder.logged, hs]⟩

namespace Machine

open Grammar

variable {g : Grammar} {y : Lookahead}

/-! ## Expansion in context -/

/-- A body has behind it what its left-hand side has. -/
theorem InContext.expand (hg : g.WellFormed) {p : Production} (hp : p ∈ g.productions)
    {s : List Symbol} (h : InContext g (.nonterminal p.lhs :: s) y) :
    InContext g (p.body ++ s) y := by
  rw [inContext_iff_followed] at h ⊢
  exact h.rewrites hg (.intro hp [] s)

/-- Below a nonterminal that derives what comes next stands a production that is selected. -/
theorem exists_selects_of_yields (hg : g.WellFormed) {a : Nat} {s : List Symbol} {v : List Nat}
    (hcontext : InContext g (.nonterminal a :: s) y) (h : Yields g (.nonterminal a :: s) v) :
    ∃ p ∈ g.productions, p.lhs = a ∧ g.Selects p (upcoming v y) ∧ Yields g (p.body ++ s) v := by
  cases h with
  | @nonterminal p s u v hp hbody hs =>
    have hselects := selects_of_yields hg hbody (hcontext.follows hs)
    refine ⟨p, hp, rfl, ?_, hbody.append hs⟩
    cases u with
    | nil => exact hselects
    | cons t u => exact hselects

/-! ## What can still come -/

theorem terminalsOf_concat {tokens : List Token} {w : List Nat}
    (hw : terminalsOf g tokens = some w) (token : Token) :
    terminalsOf g (tokens ++ [token]) = (g.terminal? token.terminal).map (w ++ [·]) := by
  unfold terminalsOf at hw ⊢
  rw [List.mapM_append, hw]
  cases ht : g.terminal? token.terminal <;> simp [ht]

/-- The symbols of the stack, which lie on the end marker, derive whatever completes the tokens
shifted so far to a text of the language and has `l` as its lookahead. -/
def Foresees (g : Grammar) (calls : List StepCall) (stack : List StackEntry) (l : Lexeme) : Prop :=
  ∃ w symbols, terminalsOf g (StepCall.tokens calls) = some w ∧
    stack = symbols.map .symbol ++ [.finish] ∧ InContext g symbols .finish ∧
    ∀ v, w ++ v ∈ g.language → lookahead? g l = some (upcoming v .finish) → Yields g symbols v

section Reports

variable {calls : List StepCall} {stack : List StackEntry} {l : Lexeme}

theorem Foresees.epsilon (h : Foresees g calls (.symbol .empty :: stack) l) :
    Foresees g (calls ++ [⟨.symbol .empty :: stack, l, .epsilon⟩]) stack l := by
  obtain ⟨w, symbols, hw, hstack, hcontext, hyields⟩ := h
  obtain ⟨symbols, rfl, hbelow⟩ := symbols_below hstack
  refine ⟨w, symbols, ?_, hbelow, hcontext.tail, fun v hv hl => ?_⟩
  · rw [StepCall.tokens_concat]
    simpa [StepCall.token?] using hw
  · cases hyields v hv hl with
    | empty h => exact h

theorem Foresees.shift {id : Nat} {token : Token} (hid : g.terminal? token.terminal = some id)
    (h : Foresees g calls (.symbol (.terminal id) :: stack) (.token token)) :
    Foresees g (calls ++ [⟨.symbol (.terminal id) :: stack, .token token, .shift⟩]) stack l := by
  obtain ⟨w, symbols, hw, hstack, hcontext, hyields⟩ := h
  obtain ⟨symbols, rfl, hbelow⟩ := symbols_below hstack
  refine ⟨w ++ [id], symbols, ?_, hbelow, hcontext.tail, fun v hv _ => ?_⟩
  · have htokens := terminalsOf_concat hw token
    rw [hid] at htokens
    rw [StepCall.tokens_concat]
    exact htokens
  · rw [List.append_assoc, List.singleton_append] at hv
    have hlookahead : lookahead? g (.token token) = some (upcoming (id :: v) .finish) := by
      simp [lookahead?, hid, upcoming]
    cases hyields (id :: v) hv hlookahead with
    | terminal h => exact h

/-- The production that is predicted is the one that derives what comes next. -/
theorem Foresees.expand (hg : g.WellFormed) {a id : Nat} {x : Lookahead} {p : Production}
    (hx : lookahead? g l = some x) (hid : g.table.predict a x = some id)
    (hp : g.productions[id]? = some p)
    (h : Foresees g calls (.symbol (.nonterminal a) :: stack) l) :
    Foresees g (calls ++ [⟨.symbol (.nonterminal a) :: stack, l, .expand id⟩])
      (p.body.map .symbol ++ stack) l := by
  obtain ⟨w, symbols, hw, hstack, hcontext, hyields⟩ := h
  obtain ⟨symbols, rfl, rfl⟩ := symbols_below hstack
  obtain ⟨p', hp', rfl, -, hunique⟩ := predict_table hid
  cases hp.symm.trans hp'
  refine ⟨w, p.body ++ symbols, ?_, ?_, hcontext.expand hg (List.mem_of_getElem? hp),
    fun v hv hl => ?_⟩
  · rw [StepCall.tokens_concat]
    simpa [StepCall.token?] using hw
  · rw [List.map_append, List.append_assoc]
  · obtain ⟨q, hq, hlhs, hselects, hbody⟩ := exists_selects_of_yields hg hcontext (hyields v hv hl)
    rw [← Option.some.inj (hx.symm.trans hl)] at hselects
    cases hunique q hq hlhs hselects
    exact hbody

/-- Where the machine is stuck, nothing that has the lookahead completes the shifted tokens. -/
theorem Foresees.stuck (hg : g.WellFormed) (hdeterministic : g.table.isDeterministic = true)
    {entry : StackEntry} {below : List StackEntry} {e : ParseError}
    (h : Foresees g calls (entry :: below) l) (he : chooseAction g g.table entry l = .error e)
    {w v : List Nat} (hw : terminalsOf g (StepCall.tokens calls) = some w)
    (hl : lookahead? g l = some (upcoming v .finish)) : w ++ v ∉ g.language := by
  intro hv
  obtain ⟨w', symbols, hw', hstack, hcontext, hyields⟩ := h
  cases hw.symm.trans hw'
  have hyields := hyields v hv hl
  cases symbols with
  | nil =>
    cases hstack
    cases hyields
    simp [chooseAction, hl, upcoming] at he
  | cons x symbols =>
    cases hstack
    cases x with
    | empty => cases he
    | terminal t =>
      cases hyields
      simp [chooseAction, hl, upcoming] at he
    | nonterminal a =>
      obtain ⟨p, hp, rfl, hselects, -⟩ := exists_selects_of_yields hg hcontext hyields
      obtain ⟨id, hid⟩ := List.mem_iff_getElem?.1 hp
      have hpredict := predict_table_of_selects hdeterministic hid hselects
      simp [chooseAction_nonterminal hl hpredict] at he

/-- In a productive grammar the shifted tokens start a text of the language. -/
theorem Reflects.extends (hg : g.WellFormed) (hproductive : g.Productive)
    (h : Reflects g calls stack) {w : List Nat}
    (hw : terminalsOf g (StepCall.tokens calls) = some w) : ∃ v, w ++ v ∈ g.language := by
  obtain ⟨w', symbols, hw', -, hform⟩ := h
  cases hw.symm.trans hw'
  have hknows := knows_of_deriveLeftmost hg hform (List.forall_mem_singleton.2 hg.start_lt)
  obtain ⟨v, hv⟩ := hproductive.exists_yields (List.forall_mem_append.1 hknows).2
  have hterminals : Yields g (w.map .terminal) w := yields_of_form_eq (form_map_terminal w)
  refine ⟨v, (ContextFreeGrammar.mem_language_iff _ _).2 ?_⟩
  exact (derives_of_deriveLeftmost hform).trans (hterminals.append hv).derives

end Reports

/-! ## Along a run -/

variable {σ ι : Type} {r : Recorder σ ι}

theorem foresees_start (hg : g.WellFormed) (l : Lexeme) (rest : List Pull) (s : σ) :
    Foresees g (start g r.logged l rest (s, [])).record.2
      (start g r.logged l rest (s, [])).stack l :=
  ⟨[], [.nonterminal g.start], rfl, rfl, inContext_start hg,
    fun _ hv _ => mem_language_iff_yields.1 hv⟩

theorem foresees_step (hg : g.WellFormed) (hr : r.FillsBodies)
    (c c' : Config (σ × List StepCall) ι)
    (h : Foresees g c.record.2 c.stack c.lookahead)
    (heffect : Effect g g.table r.logged c (.running c')) :
    Foresees g c'.record.2 c'.stack c'.lookahead := by
  cases heffect with
  | epsilon => exact h.epsilon
  | shift hid _ => exact h.shift hid
  | expand hx hid hs =>
    have hslots := map_fst_zip_slots (hr.logged _ _ _ _ _ _ hs)
    have hs' := reports_expand hs
    simp only [hs', hslots]
    exact h.expand hg hx hid (production_of_predict hid).1

/-- A run that a syntax error ends is stuck, and both invariants hold where it is. -/
theorem exists_stuck_of_unexpected (hg : g.WellFormed) (hr : r.FillsBodies) (hagrees : r.Agrees)
    {stream : List Pull} {s : σ} {offset : Nat} {expected : List String} {found : String}
    (h : (drive g g.table r stream s).1 = .error (.unexpected offset expected found)) :
    ∃ entry below l pending rest, chooseAction g g.table entry l =
        .error (.unexpected offset expected found) ∧
      Behind stream (StepCall.tokens (stepCalls g g.table r stream s)) pending ∧
      advance pending = .ok (l, rest) ∧
      Reflects g (stepCalls g g.table r stream s) (entry :: below) ∧
      Foresees g (stepCalls g g.table r stream s) (entry :: below) l := by
  rw [← (drive_logged (g := g) (r := r) stream s []).1] at h
  cases hnext : advance stream with
  | error e =>
    rw [drive_of_error hnext] at h
    cases h
  | ok next =>
    obtain ⟨l, rest⟩ := next
    have hfinal := run_halts hg hr.logged hnext (s, []) (Nat.le_succ _)
    have hstep : ∀ c c', Leftmost g stream c ∧
        Foresees g c.record.2 c.stack c.lookahead →
        Effect g g.table r.logged c (.running c') → Leftmost g stream c' ∧
          Foresees g c'.record.2 c'.stack c'.lookahead := fun c c' hc heffect =>
      ⟨leftmost_step hr c c' hc.1 heffect, foresees_step hg hr c c' hc.2 heffect⟩
    obtain ⟨c, ⟨hleftmost, hforesees⟩, heffect⟩ :=
      run_stopped hstep (paired_start ..)
        ⟨leftmost_start hnext s, foresees_start hg l rest s⟩ hfinal
    rw [drive_of_advance hnext] at h
    rw [stepCalls_of_advance hnext]
    generalize run g g.table r.logged (g.moveBound stream.length)
      (start g r.logged l rest (s, [])) = outcome at h hfinal heffect ⊢
    cases heffect with
    | exhausted => cases h
    | accept => cases h
    | epsilon => cases hfinal
    | shift => cases hfinal
    | expand => cases hfinal
    | unreadable => cases h
    | refused _ _ hs =>
      obtain ⟨slots, s', hs'⟩ := hagrees.logged _ _ _ _
      cases hs.symm.trans hs'
    | stuck he =>
      cases h
      obtain ⟨pending, hbehind, hadvance⟩ := hleftmost.pending
      exact ⟨_, _, _, pending, _, he, hbehind, hadvance, hleftmost.reflects, hforesees⟩

/-- If a run over a grammar without conflicts ends in a syntax error, the tokens shifted up to then
stand before a lexeme of the stream, which the error is about. No text of the language starts with
these tokens and that lexeme; if it is the end, the tokens are no text of the language. In a
productive grammar the tokens do start a text of the language. -/
theorem drive_rejects_first_bad {ds : Declarations} {x : Lexicon} {options : Options}
    (hds : ds.names.Nodup) (hg : resolve ds x options = .ok g) {strategy : Strategy}
    {chosen : Analysis × Table} (hselect : select strategy g = .ok chosen) (hr : r.FillsBodies)
    (hagrees : r.Agrees) {stream : List Pull} {s : σ} {offset : Nat} {expected : List String}
    {found : String}
    (h : (drive g chosen.2 r stream s).1 = .error (.unexpected offset expected found)) :
    ∃ tokens l pending rest w, tokens = StepCall.tokens (stepCalls g chosen.2 r stream s) ∧
      stream = tokens.map (fun token => .ok (.token token)) ++ pending ∧
      advance pending = .ok (l, rest) ∧ offset = l.offset ∧ found = l.describe ∧
      terminalsOf g tokens = some w ∧
      (∀ token, l = .token token → ∀ u, terminalsOf g (tokens ++ [token]) = some u →
        ∀ v, u ++ v ∉ g.language) ∧
      (∀ n, l = .finish n → w ∉ g.language) ∧
      (g.Productive → ∃ v, w ++ v ∈ g.language) := by
  have hg := WellFormed.of_resolve hds hg
  obtain ⟨htable, hdeterministic⟩ := Compilation.select_eq_ok hselect
  rw [htable] at h ⊢
  obtain ⟨entry, below, l, pending, rest, he, hbehind, hadvance, hreflects, hforesees⟩ :=
    exists_stuck_of_unexpected hg hr hagrees h
  obtain ⟨w, -, hw, -⟩ := id hreflects
  obtain ⟨rfl, -, rfl⟩ := ParseError.unexpected.inj (chooseAction_error he)
  refine ⟨_, l, pending, rest, w, rfl, hbehind, hadvance, rfl, rfl, hw, ?_, ?_,
    fun hproductive => hreflects.extends hg hproductive hw⟩
  · rintro token rfl u hu v
    rw [terminalsOf_concat hw] at hu
    obtain ⟨t, ht, rfl⟩ := Option.map_eq_some_iff.1 hu
    rw [List.append_assoc]
    exact hforesees.stuck hg hdeterministic he hw (by simp [lookahead?, ht, upcoming])
  · rintro n rfl
    have hstuck := hforesees.stuck hg hdeterministic he hw (v := []) rfl
    rwa [List.append_nil] at hstuck

/-- The lexemes of `())`. -/
def strayClose : List Pull :=
  [.ok (.token ⟨"open", "(", "(", 0, 1⟩), .ok (.token ⟨"close", ")", ")", 1, 2⟩),
    .ok (.token ⟨"close", ")", ")", 2, 3⟩), .ok (.finish 3)]

theorem parens_productive : parens.Productive := by
  intro a ha
  have ha : a = 0 := Nat.lt_one_iff.1 ha
  have hempty : Yields parens [.nonterminal 0] [] :=
    .nonterminal (p := ⟨0, [.empty]⟩) (by decide) (.empty .nil) .nil
  rw [ha]
  exact ⟨[], hempty.derives⟩

/-- The last token of `())` is rejected although a production is expanded under it. -/
theorem drive_rejects_first_bad_strayClose :
    resolve parensDeclarations parensLexicon ⟨["eps"]⟩ = .ok parens ∧
      (∃ chosen, select .ll1 parens = .ok chosen) ∧
      (drive parens parens.table (Journal.recorder none) strayClose {}).1 =
        .error (.unexpected 2 ["end of input"] "`)`") ∧
      parens.Productive ∧ (∀ v, [0, 1, 1] ++ v ∉ parens.language) ∧
      ∃ v, [0, 1] ++ v ∈ parens.language := by
  have hselect : select .ll1 parens = .ok (Analysis.of parens, parens.table) := by decide +kernel
  have hdrive : (drive parens parens.table (Journal.recorder none) strayClose {}).1 =
      .error (.unexpected 2 ["end of input"] "`)`") := by decide +kernel
  have hcalls : StepCall.tokens (stepCalls parens parens.table (Journal.recorder none)
      strayClose {}) = [⟨"open", "(", "(", 0, 1⟩, ⟨"close", ")", ")", 1, 2⟩] := by decide +kernel
  have hagrees : (Journal.recorder none).Agrees := fun _ _ _ _ => ⟨_, _, rfl⟩
  obtain ⟨tokens, l, pending, rest, w, htokens, hstream, hadvance, -, -, hw, hbad, -, hgood⟩ :=
    drive_rejects_first_bad (by decide) resolve_parens hselect (Journal.fillsBodies none) hagrees
      hdrive
  rw [hcalls] at htokens
  subst htokens
  cases hw.symm.trans (show terminalsOf parens _ = some [0, 1] by decide)
  have hpending : strayClose.drop 2 = pending := by
    rw [hstream]
    rfl
  subst hpending
  cases hadvance
  exact ⟨resolve_parens, ⟨_, hselect⟩, hdrive, parens_productive,
    hbad _ rfl [0, 1, 1] (by decide), hgood parens_productive⟩

end Machine

end TopDown
