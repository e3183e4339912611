import TopDown.Proofs.Analysis.Succession
import TopDown.Proofs.Compilation
import TopDown.Proofs.Machine.Halting
import TopDown.Sample

/-!
# Acceptance is membership in the language

A run that accepts is a leftmost derivation of its tokens. The other way round, the machine follows
any derivation: where the table has no conflicts, the production of the derivation is the only one
that fits, since what comes next either starts its body or follows its left-hand side.

* `Spells` : a stream starts with tokens of given terminals;
* `InContext` : FOLLOW has all that can come behind the nonterminals of a sequence;
* `Passes`, `passes_of_yields` : the machine gets past a sequence that derives what comes next;
* `tokenize_of_behind` : shifting an input up to its end shifts its tokens;
* `drive_accepts`, `mem_language_of_accepted` : a stream whose terminals are in the language is
  accepted, and no other is;
* `accepted_iff_mem_language` : an input is accepted if and only if it is in the language.
-/

namespace TopDown

/-- No expansion is refused. -/
def Recorder.Agrees {σ ι : Type} (r : Recorder σ ι) : Prop :=
  ∀ slot p l s, ∃ slots s', r.expand slot p l s = (.ok slots, s')

namespace Machine

open Grammar

variable {g : Grammar} {y : Lookahead}

/-! ## What comes next -/

/-- The lookahead before terminals that `y` stands behind. -/
def upcoming : List Nat → Lookahead → Lookahead
  | [], y => y
  | t :: _, _ => .terminal t

/-- The stream starts with tokens of these terminals, and `after` stands behind them. -/
inductive Spells (g : Grammar) (after : List Pull) : List Pull → List Nat → Prop
  | nil : Spells g after after []
  | cons {token t pending w} : g.terminal? token.terminal = some t → Spells g after pending w →
      Spells g after (.ok (.token token) :: pending) (t :: w)

theorem spells_pulls {tokens : List Token} {w : List Nat} (h : terminalsOf g tokens = some w)
    (after : List Pull) : Spells g after (Token.pulls tokens ++ after) w := by
  have hforall := mapM_eq_some.1 h
  clear h
  induction hforall with
  | nil => exact .nil
  | cons htoken _ ih => exact .cons htoken ih

theorem Spells.split {after pending : List Pull} {u v : List Nat}
    (h : Spells g after pending (u ++ v)) :
    ∃ middle, Spells g middle pending u ∧ Spells g after middle v := by
  induction u generalizing pending with
  | nil => exact ⟨pending, .nil, h⟩
  | cons t u ih =>
    cases h with
    | cons ht h =>
      obtain ⟨middle, hu, hv⟩ := ih h
      exact ⟨middle, .cons ht hu, hv⟩

/-- The lexeme at the head of a stream, as a lookahead. -/
def Peeks (g : Grammar) (pending : List Pull) (y : Lookahead) (l : Lexeme) (rest : List Pull) :
    Prop :=
  advance pending = .ok (l, rest) ∧ lookahead? g l = some y

theorem Spells.peeks {after pending : List Pull} {w : List Nat} (h : Spells g after pending w)
    {l : Lexeme} {rest : List Pull} (hafter : Peeks g after y l rest) :
    ∃ l' rest', Peeks g pending (upcoming w y) l' rest' := by
  cases h with
  | nil => exact ⟨l, rest, hafter⟩
  | cons ht _ => exact ⟨_, _, rfl, by simp [lookahead?, ht, upcoming]⟩

/-- All that can come behind a nonterminal of the sequence follows it. The sequence has `y` behind
it. -/
def InContext (g : Grammar) (s : List Symbol) (y : Lookahead) : Prop :=
  ∀ s₁ a s₂, s = s₁ ++ .nonterminal a :: s₂ →
    (∀ t, (∃ n, Starts g t n s₂) → g.Follows a (.terminal t)) ∧
      ((∀ x ∈ s₂, ∃ n, Vanishes g n x) → g.Follows a y)

theorem inContext_iff_followed {s : List Symbol} :
    InContext g s y ↔ Followed g (· = y) s := by
  constructor
  · rintro h s₁ a s₂ hs _ (⟨t, rfl, ht⟩ | ⟨hvanish, rfl⟩)
    · exact (h s₁ a s₂ hs).1 t ht
    · exact (h s₁ a s₂ hs).2 hvanish
  · exact fun h s₁ a s₂ hs => ⟨fun t ht => h s₁ a s₂ hs _ (.inl ⟨t, rfl, ht⟩),
      fun hvanish => h s₁ a s₂ hs y (.inr ⟨hvanish, rfl⟩)⟩

theorem InContext.tail {x : Symbol} {s : List Symbol} (h : InContext g (x :: s) y) :
    InContext g s y :=
  fun s₁ a s₂ hs => h (x :: s₁) a s₂ (by rw [hs]; rfl)

theorem InContext.follows {a : Nat} {s : List Symbol} {v : List Nat}
    (h : InContext g (.nonterminal a :: s) y) (hs : Yields g s v) : g.Follows a (upcoming v y) := by
  obtain ⟨hstarts, hvanishes⟩ := h [] a s rfl
  cases v with
  | nil => exact hvanishes hs.vanishes
  | cons t v => exact hstarts t hs.starts

theorem inContext_body (hg : g.WellFormed) {p : Production} (hp : p ∈ g.productions)
    (hy : g.Follows p.lhs y) : InContext g p.body y :=
  fun _ _ _ hs => ⟨fun _ ht => follows_of_starts hg hp hs ht,
    fun hvanish => holds_of_lhs hg hp hs ((has_none_firstOf_iff hg).2 hvanish) hy⟩

theorem inContext_start (hg : g.WellFormed) : InContext g [.nonterminal g.start] .finish := by
  rw [inContext_iff_followed]
  apply followed_nonterminal
  rintro _ rfl
  exact holds_start hg

/-- The production of a derivation is to be predicted. -/
theorem selects_of_yields (hg : g.WellFormed) {p : Production} {u : List Nat}
    (h : Yields g p.body u) (hy : g.Follows p.lhs y) : g.Selects p (upcoming u y) := by
  cases u with
  | nil =>
    obtain ⟨n, hn⟩ := exists_vanishes h.vanishes
    exact selects_of_vanishes hg hn hy
  | cons t u =>
    obtain ⟨n, hn⟩ := h.starts
    exact selects_of_starts hg hn

/-! ## Following a derivation -/

variable {σ ι : Type} {t : Table} {r : Recorder σ ι}

/-- The machine gets from one configuration to another. -/
def Reaches (g : Grammar) (t : Table) (r : Recorder σ ι) (c c' : Config σ ι) : Prop :=
  ∃ n, run g t r n c = .running c'

theorem Reaches.refl (c : Config σ ι) : Reaches g t r c c := ⟨0, rfl⟩

theorem Reaches.head {c d e : Config σ ι} (h : Effect g t r c (.running d))
    (hde : Reaches g t r d e) : Reaches g t r c e := by
  obtain ⟨n, hn⟩ := hde
  exact ⟨n + 1, (run_succ_of_move h n).trans hn⟩

theorem Reaches.trans {c d e : Config σ ι} (h : Reaches g t r c d) (hde : Reaches g t r d e) :
    Reaches g t r c e := by
  obtain ⟨n, hn⟩ := h
  obtain ⟨m, hm⟩ := hde
  exact ⟨n + m, (run_add hn m).trans hm⟩

/-- As many slots as there are entries, of which the first is the top's. -/
theorem slots_of_length {α : Type} {x : α} {xs : List α} {slots : List ι}
    (h : slots.length = (x :: xs).length) :
    ∃ slot slots', slots = slot :: slots' ∧ slots'.length = xs.length := by
  obtain ⟨slot, slots', rfl⟩ := List.exists_cons_of_length_eq_add_one h
  exact ⟨slot, slots', rfl, Nat.succ.inj h⟩

/-- Where a production is to be predicted, the machine expands it. -/
theorem exists_expansion (hdeterministic : g.table.isDeterministic = true) (hr : r.FillsBodies)
    (hagrees : r.Agrees) {p : Production} (hp : p ∈ g.productions) {x : Lookahead}
    (hselects : g.Selects p x) {l : Lexeme} (hx : lookahead? g l = some x) (slot : ι)
    (below : List StackEntry) (under : List ι) (rest : List Pull) (record : σ) :
    ∃ slots record', slots.length = p.body.length ∧
      Effect g g.table r ⟨.symbol (.nonterminal p.lhs) :: below, slot :: under, l, rest, record⟩
        (.running ⟨p.body.map .symbol ++ below, slots ++ under, l, rest, record'⟩) := by
  obtain ⟨id, hid⟩ := List.mem_iff_getElem?.1 hp
  have hpredict := predict_table_of_selects hdeterministic hid hselects
  have hgetD : g.productions.getD id ⟨g.start, []⟩ = p := by
    rw [List.getD_eq_getElem?_getD, hid]
    rfl
  obtain ⟨slots, record', hslots⟩ := hagrees slot (g.productions.getD id ⟨g.start, []⟩) l
    (r.step (.symbol (.nonterminal p.lhs) :: below) l (.expand id) record)
  have heffect : Effect g g.table r ⟨.symbol (.nonterminal p.lhs) :: below, slot :: under, l, rest,
      record⟩ _ := .expand hx hpredict hslots
  have hlength := hr _ _ _ _ _ _ hslots
  rw [map_fst_zip_slots hlength, map_snd_zip_slots hlength] at heffect
  rw [hgetD] at heffect hlength
  exact ⟨slots, record', hlength, heffect⟩

/-- With the symbols `s` on the stack and the terminals `w` coming next, the machine gets past
both. -/
def Passes (g : Grammar) (r : Recorder σ ι) (s : List Symbol) (w : List Nat) : Prop :=
  ∀ {after pending rest rest' : List Pull} {l l' : Lexeme} {y x : Lookahead},
    InContext g s y → Spells g after pending w → Peeks g after y l' rest' →
    Peeks g pending x l rest → ∀ (below : List StackEntry) (slots under : List ι) (record : σ),
    slots.length = s.length →
    ∃ record', Reaches g g.table r ⟨s.map .symbol ++ below, slots ++ under, l, rest, record⟩
      ⟨below, under, l', rest', record'⟩

/-- A sequence that derives what comes next is passed, by induction on the derivation. -/
theorem passes_of_yields (hg : g.WellFormed) (hdeterministic : g.table.isDeterministic = true)
    (hr : r.FillsBodies) (hagrees : r.Agrees) {s : List Symbol} {w : List Nat}
    (h : Yields g s w) : Passes g r s w := by
  induction h with
  | nil =>
    intro after pending rest rest' l l' y x _ hspells hafter hpending below slots under record
      hslots
    cases List.length_eq_zero_iff.1 hslots
    cases hspells
    cases hafter.1.symm.trans hpending.1
    exact ⟨record, .refl _⟩
  | empty _ ih =>
    intro after pending rest rest' l l' y x hcontext hspells hafter hpending below slots under
      record hslots
    obtain ⟨slot, slots, rfl, htail⟩ := slots_of_length hslots
    obtain ⟨record', hreaches⟩ := ih hcontext.tail hspells hafter hpending below slots under _ htail
    exact ⟨record', .head .epsilon hreaches⟩
  | terminal _ ih =>
    intro after pending rest rest' l l' y x hcontext hspells hafter hpending below slots under
      record hslots
    obtain ⟨slot, slots, rfl, htail⟩ := slots_of_length hslots
    cases hspells with
    | cons htoken hspells =>
      cases hpending.1
      obtain ⟨l₁, rest₁, hnext⟩ := hspells.peeks hafter
      obtain ⟨record', hreaches⟩ := ih hcontext.tail hspells hafter hnext below slots under _ htail
      exact ⟨record', .head (.shift htoken hnext.1) hreaches⟩
  | @nonterminal p s u v hp hbody hs ihbody ih =>
    intro after pending rest rest' l l' y x hcontext hspells hafter hpending below slots under
      record hslots
    obtain ⟨slot, slots, rfl, htail⟩ := slots_of_length hslots
    obtain ⟨middle, hu, hv⟩ := hspells.split
    obtain ⟨l₁, rest₁, hmiddle⟩ := hv.peeks hafter
    have hfollows := hcontext.follows hs
    obtain ⟨l₀, rest₀, hhead⟩ := hu.peeks hmiddle
    cases hhead.1.symm.trans hpending.1
    -- the lookahead selects the production of the derivation, and so no other
    obtain ⟨slots₁, record₁, hlength, hexpand⟩ := exists_expansion hdeterministic hr hagrees hp
      (selects_of_yields hg hbody hfollows) hhead.2 slot (s.map .symbol ++ below) (slots ++ under)
      rest record
    obtain ⟨record₂, hreaches⟩ := ihbody (inContext_body hg hp hfollows) hu hmiddle hpending
      (s.map .symbol ++ below) slots₁ (slots ++ under) record₁ hlength
    obtain ⟨record₃, hreaches'⟩ := ih hcontext.tail hv hafter hmiddle below slots under record₂
      htail
    exact ⟨record₃, .head hexpand (hreaches.trans hreaches')⟩

/-! ## Verdicts -/

/-- The machine accepts what the grammar derives. -/
theorem drive_accepts (hg : g.WellFormed) (hdeterministic : g.table.isDeterministic = true)
    (hr : r.FillsBodies) (hagrees : r.Agrees) {stream after : List Pull} {w : List Nat}
    (hspells : Spells g after stream w) (hend : AtEnd after) (hw : w ∈ g.language) (s : σ) :
    (drive g g.table r stream s).1 = .ok () := by
  obtain ⟨n, rest', hafter⟩ : ∃ n rest', Peeks g after .finish (.finish n) rest' := by
    rcases hend with rfl | ⟨n, rest, rfl⟩
    · exact ⟨0, [], rfl, rfl⟩
    · exact ⟨n, rest, rfl, rfl⟩
  obtain ⟨l, rest, hstream⟩ := hspells.peeks hafter
  obtain ⟨root, s', hroot⟩ : ∃ root s', r.root g.start s = (root, s') := ⟨_, _, rfl⟩
  have hstart : start g r l rest s = ⟨[Symbol.nonterminal g.start].map .symbol ++ [.finish],
      [root] ++ [root], l, rest, s'⟩ := by
    rw [start, hroot]
    rfl
  obtain ⟨record, m, hm⟩ := passes_of_yields hg hdeterministic hr hagrees
    (mem_language_iff_yields.1 hw) (inContext_start hg) hspells hafter hstream
    [.finish] [root] [root] s' rfl
  have haccepted : run g g.table r (m + 1) (start g r l rest s) =
      .accepted (r.step [.finish] (.finish n) .accept record) := by
    rw [hstart, run_add hm]
    refine run_succ_of_end ?_ .accept 0
    trivial
  have hfinal := run_halts hg hr hstream.1 s (Nat.le_succ _)
  rw [drive_of_advance hstream.1,
    run_final_unique hfinal (m := m + 1) (by rw [haccepted]; trivial), haccepted]
  rfl

/-- What stands before the end of a stream are its tokens. -/
theorem tokens_of_behind {tokens shifted : List Token} {last : Pull} {pending : List Pull}
    (hlast : ∀ token, last ≠ .ok (.token token))
    (h : Behind (Token.pulls tokens ++ [last]) shifted pending) (hend : AtEnd pending) :
    shifted = tokens ∧ ∃ n, last = .ok (.finish n) := by
  unfold Behind at h
  induction tokens generalizing shifted with
  | nil =>
    cases shifted with
    | cons token shifted => exact absurd (List.cons.inj h).1 (hlast token)
    | nil =>
      cases h
      rcases hend with h | ⟨n, rest, h⟩
      · cases h
      · cases h
        exact ⟨rfl, n, rfl⟩
  | cons token tokens ih =>
    cases shifted with
    | nil =>
      cases h
      rcases hend with h | ⟨n, rest, h⟩ <;> cases h
    | cons token' shifted =>
      obtain ⟨htoken, htokens⟩ := List.cons.inj h
      cases htoken
      obtain ⟨hshifted, hn⟩ := ih htokens
      exact ⟨by rw [hshifted], hn⟩

/-- An input that has been shifted up to its end is read as the tokens that were shifted. -/
theorem tokenize_of_behind {tokenizer : Tokenizer} {input : String} {shifted : List Token}
    {pending : List Pull} (h : Behind (tokenizer.scan input).lexemes shifted pending)
    (hend : AtEnd pending) : tokenizer.tokenize input = .ok shifted := by
  cases htokens : tokenizer.tokenize input with
  | ok tokens =>
    rw [(Tokenizer.scan_of_tokenize htokens).2] at h
    rw [(tokens_of_behind (by rintro _ ⟨⟩) h hend).1]
  | error e =>
    obtain ⟨tokens, n, c, rfl, -, hscan⟩ := Tokenizer.scan_of_error htokens
    rw [hscan] at h
    obtain ⟨-, m, hlast⟩ := tokens_of_behind (by rintro _ ⟨⟩) h hend
    cases hlast

/-- The machine derives what it accepts. -/
theorem mem_language_of_accepted (hr : r.FillsBodies) {tokens : List Token} {last : Pull} {s : σ}
    (hlast : ∀ token, last ≠ .ok (.token token))
    (h : (drive g g.table r (Token.pulls tokens ++ [last]) s).1 = .ok ()) :
    (∃ n, last = .ok (.finish n)) ∧ ∃ w, terminalsOf g tokens = some w ∧ w ∈ g.language := by
  obtain ⟨pending, w, hbehind, hend, hw, hform⟩ := derives_of_accepted hr h
  obtain ⟨htokens, hfinish⟩ := tokens_of_behind hlast hbehind hend
  refine ⟨hfinish, w, htokens ▸ hw, ?_⟩
  have hderives := derives_of_deriveLeftmost hform
  rw [form_map_terminal] at hderives
  exact (ContextFreeGrammar.mem_language_iff _ _).2 hderives

end Machine

namespace Validation

theorem fillsBodies (g : Grammar) : (recorder g).FillsBodies := by
  intro slot p l steps slots steps' h
  cases h
  exact List.length_map _

theorem agrees (g : Grammar) : (recorder g).Agrees := fun _ _ _ _ => ⟨_, _, rfl⟩

end Validation

theorem validate_accepted (g : Grammar) (t : Table) (tokenizer : Tokenizer) (input : String) :
    (validate g t tokenizer input).accepted = true ↔
      (Machine.drive g t (Validation.recorder g) (tokenizer.scan input).lexemes #[]).1 =
        .ok () := by
  unfold validate
  rcases Machine.drive g t (Validation.recorder g) (tokenizer.scan input).lexemes #[] with
    ⟨_ | _, steps⟩ <;> simp

namespace Compilation

open Machine

/-- An input is accepted if and only if it can be read as tokens whose terminals are derived from
the start symbol, whichever engine finds the matches of the patterns. -/
theorem accepted_iff_mem_language {lexicon grammar : String} {strategy : Strategy}
    {options : Grammar.Options} {engine : Pattern.Engine} {c : Compilation}
    (h : ofTexts lexicon grammar strategy options engine = .ok c) (input : String) :
    (c.validate input).accepted = true ↔
      ∃ tokens, c.lexer.tokenizer.tokenize input = .ok tokens ∧
        ∃ w, terminalsOf c.grammar tokens = some w ∧ w ∈ c.grammar.language := by
  obtain ⟨⟨ds, hds, hg⟩, -, htable, hdeterministic⟩ := sound_of_ofTexts h
  have hg := Grammar.WellFormed.of_resolve hds hg
  rw [validate, validate_accepted, htable]
  constructor
  · intro haccepted
    cases htokens : c.lexer.tokenizer.tokenize input with
    | ok tokens =>
      rw [(Tokenizer.scan_of_tokenize htokens).2] at haccepted
      exact ⟨tokens, rfl,
        (mem_language_of_accepted (Validation.fillsBodies _) (by rintro _ ⟨⟩) haccepted).2⟩
    | error e =>
      obtain ⟨tokens, n, character, rfl, -, hscan⟩ := Tokenizer.scan_of_error htokens
      rw [hscan] at haccepted
      obtain ⟨⟨n, hn⟩, -⟩ :=
        mem_language_of_accepted (Validation.fillsBodies _) (by rintro _ ⟨⟩) haccepted
      cases hn
  · rintro ⟨tokens, htokens, w, hw, hmem⟩
    rw [(Tokenizer.scan_of_tokenize htokens).2]
    exact drive_accepts hg hdeterministic (Validation.fillsBodies _) (Validation.agrees _)
      (spells_pulls hw _) (.inr ⟨_, [], rfl⟩) hmem #[]

theorem accepted_iff_mem_language_parens :
    ∃ c, ofTexts Sample.parens.lexicon Sample.parens.grammar .ll1 {} = .ok c ∧
      (c.validate "( () )").accepted = true ∧
      ∃ tokens, c.lexer.tokenizer.tokenize "( () )" = .ok tokens ∧
        ∃ w, terminalsOf c.grammar tokens = some w ∧ w ∈ c.grammar.language := by
  have haccepted : (ofTexts Sample.parens.lexicon Sample.parens.grammar .ll1 {}).toOption.map
      (fun c => (c.validate "( () )").accepted) = some true := by decide +kernel
  cases hc : ofTexts Sample.parens.lexicon Sample.parens.grammar .ll1 {} with
  | error e =>
    rw [hc] at haccepted
    cases haccepted
  | ok c =>
    rw [hc] at haccepted
    have haccepted : (c.validate "( () )").accepted = true := Option.some.inj haccepted
    exact ⟨c, rfl, haccepted, (accepted_iff_mem_language hc "( () )").1 haccepted⟩

end Compilation

end TopDown
