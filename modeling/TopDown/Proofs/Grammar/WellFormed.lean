import TopDown.Grammar.Resolve
import TopDown.Proofs.Lexicon.Names
import TopDown.Proofs.Traversal

/-!
# Resolved grammars are well formed

* `Grammar.Knows` : a symbol whose number is in range;
* `Grammar.WellFormed` : the start symbol, all left-hand sides and all symbols of all bodies are
  known;
* `Vocabulary.Sound` : a vocabulary that speaks of known symbols only, as every vocabulary of a
  grammar does;
* `resolve_eq_ok` : every production comes from an alternative of a declaration;
* `nonterminals_frame` : names that are declared once are numbered in order;
* `WellFormed.of_resolve` : what resolution yields from such names is well formed;
* `Grammar.Normal`, `Normal.of_resolve` : the empty symbol stands alone in a body, if at all.
-/

namespace TopDown.Grammar

/-- A symbol whose number is in range. -/
def Knows (g : Grammar) : Symbol → Prop
  | .terminal id => id < g.terminals.length
  | .nonterminal id => id < g.nonterminals.length
  | .empty => True

/-- All numbers of a grammar are in range. -/
structure WellFormed (g : Grammar) : Prop where
  start_lt : g.start < g.nonterminals.length
  lhs_lt : ∀ p ∈ g.productions, p.lhs < g.nonterminals.length
  knows_body : ∀ p ∈ g.productions, ∀ s ∈ p.body, g.Knows s

theorem lt_of_idxOf? {names : List String} {name : String} {id : Nat}
    (h : names.idxOf? name = some id) : id < names.length := by
  rw [List.idxOf?, List.findIdx?_eq_some_iff_getElem] at h
  exact h.1

/-- Where no name stands twice, a name is found where it stands. -/
theorem idxOf?_of_getElem? {names : List String} (h : names.Nodup) {name : String} {id : Nat}
    (hid : names[id]? = some name) : names.idxOf? name = some id := by
  obtain ⟨hlt, hname⟩ := List.getElem?_eq_some_iff.1 hid
  rw [List.idxOf?_eq_some_iff]
  refine ⟨hlt, hname, fun j hj heq => ?_⟩
  have hj' : names[j]? = some name := List.getElem?_eq_some_iff.2 ⟨Nat.lt_trans hj hlt, heq⟩
  exact Nat.ne_of_gt hj ((List.getElem?_inj hlt h).1 (hid.trans hj'.symm))

theorem terminal?_lt {g : Grammar} {name : String} {id : Nat} (h : g.terminal? name = some id) :
    id < g.terminals.length := lt_of_idxOf? h

theorem mem_normalize {symbols : List Symbol} {s : Symbol} (h : s ∈ normalize symbols) :
    s = .empty ∨ s ∈ symbols := by
  simp only [normalize] at h
  split at h
  · exact Or.inl (List.mem_singleton.1 h)
  · exact Or.inr (List.mem_filter.1 h).1

/-! ## Vocabularies -/

/-- Every spelling stands for a known symbol, if for any. -/
def Vocabulary.Sound (g : Grammar) (v : Vocabulary) : Prop :=
  ∀ e ∈ v, ∀ s, e.meaning = .symbol s → g.Knows s

theorem Entry.meaning_ofSpelling? {spelling : String} {m : Meaning} {e : Entry}
    (h : Entry.ofSpelling? spelling m = some e) : e.meaning = m := by
  unfold Entry.ofSpelling? at h
  split at h
  · cases h
    rfl
  · cases h

theorem Vocabulary.sound_ofGrammar (g : Grammar) (lexicon : Lexicon) (empties : List String) :
    (Vocabulary.ofGrammar g lexicon empties).Sound g := by
  intro e he s hs
  simp only [Vocabulary.ofGrammar, List.mem_append, List.mem_filterMap] at he
  rcases he with ((⟨⟨name, id⟩, hmem, he⟩ | ⟨name, -, he⟩) | ⟨name, -, he⟩) |
    ⟨⟨name, id⟩, hmem, he⟩
  all_goals rw [Entry.meaning_ofSpelling? he] at hs
  · cases hs
    exact List.snd_lt_of_mem_zipIdx hmem
  · unfold nonterminalMeaning at hs
    split at hs
    · rename_i id hid
      cases hs
      exact lt_of_idxOf? hid
    · cases hs
  · cases hs
    trivial
  · cases hs
    exact List.snd_lt_of_mem_zipIdx hmem

/-- A fold that keeps what it has or takes what it meets ends with something it has met. -/
theorem mem_of_foldl_pick {α : Type} {pick : Option α → α → Option α}
    (hpick : ∀ best x, pick best x = best ∨ pick best x = some x) {xs : List α} {best : Option α}
    {x : α} (h : xs.foldl pick best = some x) : x ∈ xs ∨ best = some x := by
  induction xs generalizing best with
  | nil => exact .inr h
  | cons y xs ih =>
    rw [List.foldl_cons] at h
    rcases ih h with hmem | hbest
    · exact .inl (List.mem_cons_of_mem y hmem)
    · rcases hpick best y with hkept | htaken
      · exact .inr (hkept ▸ hbest)
      · rw [htaken] at hbest
        cases hbest
        exact .inl List.mem_cons_self

theorem Vocabulary.longest?_mem {v : Vocabulary} {rest : List Char} {e : Entry}
    (h : v.longest? rest = some e) : e ∈ v := by
  refine (mem_of_foldl_pick (fun best d => ?_) h).resolve_right (by rintro ⟨⟩)
  by_cases hd : d.spelling.isPrefixOf rest
  · rw [if_pos hd]
    cases best with
    | none => exact .inr rfl
    | some b =>
      by_cases hb : d.beats b
      · exact .inr (if_pos hb)
      · exact .inl (if_neg hb)
  · exact .inl (if_neg hd)

theorem Vocabulary.Sound.knows_symbolsOfWord {g : Grammar} {v : Vocabulary} (hv : v.Sound g)
    {rest : List Char} {symbols : List Symbol} (h : v.symbolsOfWord rest = .ok symbols) :
    ∀ s ∈ symbols, g.Knows s := by
  fun_induction Vocabulary.symbolsOfWord v rest generalizing symbols with
  | case1 => cases h; simp
  | case2 => cases h
  | case3 => cases h
  | case4 c cs e he s hs _ tail htail ih =>
    cases h
    intro s' hs'
    rcases List.mem_cons.1 hs' with rfl | hs'
    · exact hv e (Vocabulary.longest?_mem he) _ hs
    · exact ih htail s' hs'
  | case5 => cases h

theorem Vocabulary.Sound.knows_symbolsOf {g : Grammar} {v : Vocabulary} (hv : v.Sound g)
    {text : List Char} {symbols : List Symbol} (h : v.symbolsOf g text = .ok symbols) :
    ∀ s ∈ symbols, g.Knows s := by
  unfold Vocabulary.symbolsOf at h
  split at h
  · rename_i parts hparts
    cases h
    intro s hs
    obtain ⟨part, hpart, hs⟩ := List.mem_flatten.1 hs
    obtain ⟨piece, -, hpiece⟩ := exists_of_mem_right (mapM_eq_ok.1 hparts) hpart
    cases piece with
    | literal quote content =>
      simp only [Vocabulary.symbolsOfPiece] at hpiece
      split at hpiece
      · rename_i id hid
        cases hpiece
        cases List.mem_singleton.1 hs
        exact terminal?_lt hid
      · cases hpiece
    | word text => exact hv.knows_symbolsOfWord hpiece s hs
  · cases h

/-! ## Resolution -/

/-- The production of an alternative has the number of its left-hand side and a known body. -/
theorem knows_resolveAlternative {g : Grammar} {v : Vocabulary} (hv : v.Sound g) {d : Declaration}
    {lhs : Nat} {a : Alternative} {p : Production}
    (h : resolveAlternative g v d lhs a = .ok p) : p.lhs = lhs ∧ ∀ s ∈ p.body, g.Knows s := by
  unfold resolveAlternative at h
  split at h
  · rename_i symbols hsymbols
    cases h
    refine ⟨rfl, fun s hs => ?_⟩
    rcases mem_normalize hs with rfl | hs
    · trivial
    · exact hv.knows_symbolsOf hsymbols s hs
  · cases h

/-- Every production of a resolved grammar is an alternative of its declarations. -/
theorem resolve_eq_ok {ds : Declarations} {lexicon : Lexicon} {options : Options} {g : Grammar}
    (h : resolve ds lexicon options = .ok g) :
    ds ≠ [] ∧ ∃ productions, g = { frame ds lexicon options with productions } ∧
      ∀ p ∈ productions, ∃ d lhs a, (d, lhs) ∈ ds.zipIdx ∧ a ∈ d.alternatives ∧
        resolveAlternative (frame ds lexicon options)
          (Vocabulary.ofGrammar (frame ds lexicon options) lexicon (emptySpellings lexicon options))
          d lhs a = .ok p := by
  unfold resolve at h
  split at h
  · cases h
  · rename_i hds
    simp only at h
    split at h
    · rename_i productions hwork
      cases h
      refine ⟨fun hnil => hds (List.isEmpty_iff.2 hnil), productions, rfl, fun p hp => ?_⟩
      obtain ⟨⟨d, lhs, a⟩, hmem, hp⟩ := exists_of_mem_right (mapM_eq_ok.1 hwork) hp
      obtain ⟨⟨d', lhs'⟩, hd, ha⟩ := List.mem_flatMap.1 hmem
      obtain ⟨a', ha', ha⟩ := List.mem_map.1 ha
      cases ha
      exact ⟨_, _, _, hd, ha', hp⟩
    · cases h

theorem terminals_frame (ds : Declarations) (lexicon : Lexicon) (options : Options) :
    (frame ds lexicon options).terminals = lexicon.terminalNames :=
  foldl_addNew_of_nodup lexicon.nodup_terminalNames

/-- Left-hand sides that are declared once are numbered by their declarations. -/
theorem nonterminals_frame {ds : Declarations} (hds : ds.names.Nodup) (lexicon : Lexicon)
    (options : Options) : (frame ds lexicon options).nonterminals = ds.names :=
  foldl_addNew_of_nodup hds

/-- What resolution yields is well formed, if no left-hand side is declared twice: a production has
the position of its declaration for its left-hand side. -/
theorem WellFormed.of_resolve {ds : Declarations} {lexicon : Lexicon} {options : Options}
    {g : Grammar} (hds : ds.names.Nodup) (h : resolve ds lexicon options = .ok g) :
    g.WellFormed := by
  obtain ⟨hne, productions, rfl, hproductions⟩ := resolve_eq_ok h
  have hlength : (frame ds lexicon options).nonterminals.length = ds.length := by
    rw [nonterminals_frame hds, Declarations.names, List.length_map]
  have hknows : ∀ p ∈ productions, p.lhs < ds.length ∧
      ∀ s ∈ p.body, (frame ds lexicon options).Knows s := by
    intro p hp
    obtain ⟨d, lhs, a, hd, -, hp⟩ := hproductions p hp
    obtain ⟨rfl, hbody⟩ := knows_resolveAlternative (Vocabulary.sound_ofGrammar _ _ _) hp
    exact ⟨List.snd_lt_of_mem_zipIdx hd, hbody⟩
  refine ⟨?_, fun p hp => ?_, fun p hp => (hknows p hp).2⟩
  · exact hlength ▸ List.length_pos_iff.2 hne
  · exact hlength ▸ (hknows p hp).1

/-- Of a left-hand side that is declared twice the second position is no number. -/
example : (resolve [⟨"S", 1, [⟨1, "$"⟩]⟩, ⟨"S", 2, [⟨2, "$"⟩]⟩] ⟨[]⟩ {}).toOption.map
    (fun g => (g.nonterminals, g.productions.map Production.lhs)) = some (["S"], [0, 1]) := by
  decide +kernel

/-! ## Empty bodies -/

/-- The empty symbol stands alone in a body, and every body holds something. -/
def Normal (g : Grammar) : Prop :=
  ∀ p ∈ g.productions, p.body = [.empty] ∨ p.body ≠ [] ∧ .empty ∉ p.body

theorem normalize_normal (symbols : List Symbol) :
    normalize symbols = [.empty] ∨ normalize symbols ≠ [] ∧ .empty ∉ normalize symbols := by
  simp only [normalize]
  split
  · exact .inl rfl
  · rename_i hne
    refine .inr ⟨fun hnil => hne (List.isEmpty_iff.2 hnil), fun hmem => ?_⟩
    simpa using (List.mem_filter.1 hmem).2

/-- Resolution drops the empty symbols of a body that holds anything else. -/
theorem Normal.of_resolve {ds : Declarations} {lexicon : Lexicon} {options : Options}
    {g : Grammar} (h : resolve ds lexicon options = .ok g) : g.Normal := by
  obtain ⟨-, productions, rfl, hproductions⟩ := resolve_eq_ok h
  intro p hp
  obtain ⟨d, lhs, a, -, -, hp⟩ := hproductions p hp
  unfold resolveAlternative at hp
  split at hp
  · cases hp
    exact normalize_normal _
  · cases hp

end TopDown.Grammar
