import Mathlib.Data.List.Induction
import TopDown.Proofs.Grammar.Pieces
import TopDown.Proofs.Grammar.WellFormed

/-!
# Which entry of a vocabulary wins

* `Vocabulary.Decides`, `Vocabulary.longest?_decides` : the winner starts the text, and no other
  entry that does so beats it;
* `Vocabulary.symbolsOfWord_spelling` : a word that is a spelling has the meaning of the entries of
  this spelling that no other precedes;
* `Vocabulary.mem_ofGrammar` : the entries of a grammar's vocabulary;
* `Vocabulary.symbolsOfWord_nonterminal`, `Vocabulary.symbolsOfWord_empty` : the words that name a
  left-hand side or the empty symbol;
* `Vocabulary.Erases`, `Vocabulary.erases_iff` : the words that stand for empty symbols only;
* `Vocabulary.ne_nil_of_symbolsOf`, `Vocabulary.ne_nil_of_empty_mem` : an alternative with pieces
  has symbols, and it has the empty symbol only if that has a spelling.
-/

namespace TopDown.Grammar

variable {v : Vocabulary} {rest : List Char} {d e : Entry}

/-! ## The winner -/

theorem Entry.beats_iff : e.beats d = true ↔
    d.spelling.length < e.spelling.length ∨
      e.spelling.length = d.spelling.length ∧ e.meaning.rank < d.meaning.rank := by
  simp [Entry.beats]

/-- The entry starts the text, and no entry of the vocabulary that starts it too beats it. -/
structure Entry.Wins (e : Entry) (v : Vocabulary) (rest : List Char) : Prop where
  mem : e ∈ v
  isPrefix : e.spelling <+: rest
  unbeaten : ∀ d ∈ v, d.spelling <+: rest → ¬ d.beats e

/-- Two winners differ in their place in the vocabulary only. -/
theorem Entry.Wins.agree (hd : d.Wins v rest) (he : e.Wins v rest) :
    d.spelling.length = e.spelling.length ∧ d.meaning.rank = e.meaning.rank := by
  have hde := he.unbeaten d hd.mem hd.isPrefix
  have hed := hd.unbeaten e he.mem he.isPrefix
  rw [Entry.beats_iff] at hde hed
  omega

theorem Meaning.rank_eq_one_iff {m : Meaning} : m.rank = 1 ↔ m = .symbol .empty := by
  cases m with
  | symbol s => cases s <;> simp [Meaning.rank]
  | undeclared => simp [Meaning.rank]

namespace Vocabulary

/-- The outcome is a winner, if any entry starts the text. -/
def Decides (v : Vocabulary) (rest : List Char) : Option Entry → Prop
  | none => ∀ d ∈ v, ¬ d.spelling <+: rest
  | some e => e.Wins v rest

theorem decides_concat_of_not_prefix {best : Option Entry} (he : ¬ e.spelling <+: rest)
    (h : v.Decides rest best) : Decides (v ++ [e]) rest best := by
  cases best with
  | none =>
    intro d hd
    rcases List.mem_append.1 hd with hd | hd
    · exact h d hd
    · exact List.mem_singleton.1 hd ▸ he
  | some b =>
    refine ⟨List.mem_append_left _ h.mem, h.isPrefix, fun d hd hprefix => ?_⟩
    rcases List.mem_append.1 hd with hd | hd
    · exact h.unbeaten d hd hprefix
    · exact absurd (List.mem_singleton.1 hd ▸ hprefix) he

/-- A new entry wins if it beats the winner so far, and then it beats all that this one beats. -/
theorem decides_concat (he : e.spelling <+: rest) (best : Option Entry) :
    v.Decides rest best → Decides (v ++ [e]) rest
      (match best with
      | none => some e
      | some b => if e.beats b then some e else some b) := by
  intro h
  have hself : ¬ e.beats e := by
    rw [Entry.beats_iff]
    omega
  have hmem : e ∈ v ++ [e] := List.mem_append_right _ List.mem_cons_self
  cases best with
  | none =>
    refine ⟨hmem, he, fun d hd hprefix => ?_⟩
    rcases List.mem_append.1 hd with hd | hd
    · exact absurd hprefix (h d hd)
    · exact List.mem_singleton.1 hd ▸ hself
  | some b =>
    by_cases hbeats : e.beats b
    · simp only [if_pos hbeats]
      refine ⟨hmem, he, fun d hd hprefix => ?_⟩
      rcases List.mem_append.1 hd with hd | hd
      · have hd := h.unbeaten d hd hprefix
        rw [Entry.beats_iff] at hbeats hd ⊢
        omega
      · exact List.mem_singleton.1 hd ▸ hself
    · simp only [if_neg hbeats]
      refine ⟨List.mem_append_left _ h.mem, h.isPrefix, fun d hd hprefix => ?_⟩
      rcases List.mem_append.1 hd with hd | hd
      · exact h.unbeaten d hd hprefix
      · exact List.mem_singleton.1 hd ▸ hbeats

theorem longest?_decides (v : Vocabulary) (rest : List Char) :
    v.Decides rest (v.longest? rest) := by
  induction v using List.reverseRecOn with
  | nil => exact fun d hd => absurd hd List.not_mem_nil
  | append_singleton v e ih =>
    rw [longest?, List.foldl_append, List.foldl_cons, List.foldl_nil]
    by_cases he : e.spelling <+: rest
    · rw [if_pos (List.isPrefixOf_iff_prefix.2 he)]
      exact decides_concat he _ ih
    · rw [if_neg (mt List.isPrefixOf_iff_prefix.1 he)]
      exact decides_concat_of_not_prefix he ih

/-- A word that is the spelling of an entry stands for the symbol on which all entries of this
spelling and at least this precedence agree. -/
theorem symbolsOfWord_spelling {s : Symbol} (he : e ∈ v)
    (hs : ∀ d ∈ v, d.spelling = e.spelling → d.meaning.rank ≤ e.meaning.rank →
      d.meaning = .symbol s) : v.symbolsOfWord e.spelling = .ok [s] := by
  obtain ⟨b, hb, hspelling, hmeaning⟩ : ∃ b, v.longest? e.spelling = some b ∧
      b.spelling = e.spelling ∧ b.meaning = .symbol s := by
    have hdecides := v.longest?_decides e.spelling
    cases hb : v.longest? e.spelling with
    | none =>
      rw [hb] at hdecides
      exact absurd (List.prefix_refl _) (hdecides e he)
    | some b =>
      rw [hb] at hdecides
      have hunbeaten := hdecides.unbeaten e he (List.prefix_refl _)
      rw [Entry.beats_iff] at hunbeaten
      have hle := hdecides.isPrefix.length_le
      have hspelling := hdecides.isPrefix.eq_of_length (by omega)
      exact ⟨b, rfl, hspelling, hs b hdecides.mem hspelling (by omega)⟩
  have hnil : v.symbolsOfWord [] = .ok [] := by
    rw [symbolsOfWord]
  obtain ⟨c, cs, hword⟩ := List.exists_cons_of_ne_nil e.spelling_ne_nil
  rw [hword] at hb hspelling ⊢
  rw [symbolsOfWord, hb]
  simp only [hmeaning, hspelling, List.drop_length, hnil]

/-! ## The vocabulary of a grammar -/

theorem rank_nonterminalMeaning (g : Grammar) (name : String) :
    (nonterminalMeaning g name).rank = 0 := by
  unfold nonterminalMeaning
  split <;> rfl

theorem ofSpelling?_eq_some {spelling : String} {m : Meaning} :
    Entry.ofSpelling? spelling m = some e ↔ e.spelling = spelling.toList ∧ e.meaning = m := by
  unfold Entry.ofSpelling?
  split
  · rw [Option.some.injEq]
    constructor
    · rintro rfl
      exact ⟨rfl, rfl⟩
    · rintro ⟨hspelling, hmeaning⟩
      cases e
      cases hspelling
      cases hmeaning
      rfl
  · rename_i hempty
    constructor
    · rintro ⟨⟩
    · rintro ⟨hspelling, -⟩
      exact absurd (hspelling ▸ e.spelling_ne_nil) hempty

variable {g : Grammar} {x : Lexicon} {empties : List String}

/-- Where an entry of a grammar's vocabulary comes from. -/
theorem mem_ofGrammar : e ∈ ofGrammar g x empties ↔
    ∃ name, e.spelling = name.toList ∧
      ((∃ id, (name, id) ∈ g.nonterminals.zipIdx ∧ e.meaning = .symbol (.nonterminal id)) ∨
        (name ∈ x.spellings .nonterminal ∧ e.meaning = nonterminalMeaning g name) ∨
        (name ∈ empties ∧ e.meaning = .symbol .empty) ∨
        ∃ id, (name, id) ∈ g.terminals.zipIdx ∧ e.meaning = .symbol (.terminal id)) := by
  simp only [ofGrammar, List.mem_append, List.mem_filterMap, ofSpelling?_eq_some, Prod.exists]
  constructor
  · rintro (((⟨name, id, hmem, hs, hm⟩ | ⟨name, hmem, hs, hm⟩) | ⟨name, hmem, hs, hm⟩) |
      ⟨name, id, hmem, hs, hm⟩)
    · exact ⟨name, hs, .inl ⟨id, hmem, hm⟩⟩
    · exact ⟨name, hs, .inr (.inl ⟨hmem, hm⟩)⟩
    · exact ⟨name, hs, .inr (.inr (.inl ⟨hmem, hm⟩))⟩
    · exact ⟨name, hs, .inr (.inr (.inr ⟨id, hmem, hm⟩))⟩
  · rintro ⟨name, hs, ⟨id, hmem, hm⟩ | ⟨hmem, hm⟩ | ⟨hmem, hm⟩ | ⟨id, hmem, hm⟩⟩
    · exact .inl (.inl (.inl ⟨name, id, hmem, hs, hm⟩))
    · exact .inl (.inl (.inr ⟨name, hmem, hs, hm⟩))
    · exact .inl (.inr ⟨name, hmem, hs, hm⟩)
    · exact .inr ⟨name, id, hmem, hs, hm⟩

/-- The name of a left-hand side is read as this left-hand side. -/
theorem symbolsOfWord_nonterminal (hg : g.nonterminals.Nodup) {name : String} {id : Nat}
    (hid : (name, id) ∈ g.nonterminals.zipIdx) (hname : name.toList ≠ []) :
    (ofGrammar g x empties).symbolsOfWord name.toList = .ok [.nonterminal id] := by
  have hfind : g.nonterminal? name = some id :=
    idxOf?_of_getElem? hg (List.mk_mem_zipIdx_iff_getElem?.1 hid)
  let e : Entry := ⟨name.toList, .symbol (.nonterminal id), hname⟩
  refine symbolsOfWord_spelling (e := e) (mem_ofGrammar.2 ⟨name, rfl, .inl ⟨id, hid, rfl⟩⟩) ?_
  intro d hd hspelling hrank
  obtain ⟨name', hs, hcases⟩ := mem_ofGrammar.1 hd
  have hname' : name' = name := String.toList_inj.1 (hs.symm.trans hspelling)
  subst hname'
  have hrank : d.meaning.rank = 0 := Nat.le_zero.1 hrank
  rcases hcases with ⟨id', hid', hm⟩ | ⟨-, hm⟩ | ⟨-, hm⟩ | ⟨_, -, hm⟩
  · have hfind' : g.nonterminal? name' = some id' :=
      idxOf?_of_getElem? hg (List.mk_mem_zipIdx_iff_getElem?.1 hid')
    cases hfind.symm.trans hfind'
    exact hm
  · rw [hm, nonterminalMeaning, hfind]
  · rw [hm] at hrank
    cases hrank
  · rw [hm] at hrank
    cases hrank

/-- A spelling of the empty symbol that names no nonterminal is read as the empty symbol. -/
theorem symbolsOfWord_empty {name : String} (hmem : name ∈ empties) (hname : name.toList ≠ [])
    (hg : name ∉ g.nonterminals) (hx : name ∉ x.spellings .nonterminal) :
    (ofGrammar g x empties).symbolsOfWord name.toList = .ok [.empty] := by
  let e : Entry := ⟨name.toList, .symbol .empty, hname⟩
  refine symbolsOfWord_spelling (e := e)
    (mem_ofGrammar.2 ⟨name, rfl, .inr (.inr (.inl ⟨hmem, rfl⟩))⟩) ?_
  intro d hd hspelling hrank
  obtain ⟨name', hs, hcases⟩ := mem_ofGrammar.1 hd
  have hname' : name' = name := String.toList_inj.1 (hs.symm.trans hspelling)
  subst hname'
  rcases hcases with ⟨id', hid', hm⟩ | ⟨hmem', -⟩ | ⟨-, hm⟩ | ⟨_, -, hm⟩
  · exact absurd (List.fst_mem_of_mem_zipIdx hid') hg
  · exact absurd hmem' hx
  · exact hm
  · rw [hm] at hrank
    exact absurd hrank (Nat.not_succ_le_self 1)

/-! ## Words of empty symbols -/

/-- The word is cut into spellings of the empty symbol. -/
inductive Erases (v : Vocabulary) : List Char → Prop
  | nil : Erases v []
  | cons (e : Entry) (rest : List Char) (wins : e.Wins v (e.spelling ++ rest))
      (empty : e.meaning = .symbol .empty) (erases : Erases v rest) : Erases v (e.spelling ++ rest)

/-- A winner is what a word is read on by, or another entry of the same length and rank is. -/
theorem exists_longest?_eq_some (he : e.Wins v rest) : ∃ b, v.longest? rest = some b ∧
    b.spelling.length = e.spelling.length ∧ b.meaning.rank = e.meaning.rank := by
  have hdecides := v.longest?_decides rest
  cases hb : v.longest? rest with
  | none =>
    rw [hb] at hdecides
    exact absurd he.isPrefix (hdecides e he.mem)
  | some b =>
    rw [hb] at hdecides
    exact ⟨b, rfl, Entry.Wins.agree hdecides he⟩

/-- The words that are cut into spellings of the empty symbol stand for empty symbols only. -/
theorem erases_iff {word : List Char} : v.Erases word ↔
    ∃ symbols, v.symbolsOfWord word = .ok symbols ∧ ∀ s ∈ symbols, s = .empty := by
  constructor
  · intro h
    induction h with
    | nil => exact ⟨[], by rw [symbolsOfWord], fun s hs => absurd hs List.not_mem_nil⟩
    | cons e rest he hempty _ ih =>
      obtain ⟨symbols, hsymbols, hall⟩ := ih
      obtain ⟨b, hb, hlength, hrank⟩ := exists_longest?_eq_some he
      have hmeaning : b.meaning = .symbol .empty := by
        rw [← Meaning.rank_eq_one_iff, hrank, hempty]
        rfl
      have hdrop : (e.spelling ++ rest).drop b.spelling.length = rest := by
        rw [hlength, List.drop_left]
      refine ⟨.empty :: symbols, ?_, List.forall_mem_cons.2 ⟨rfl, hall⟩⟩
      obtain ⟨c, cs, hword⟩ := List.exists_cons_of_ne_nil
        (List.append_ne_nil_of_left_ne_nil e.spelling_ne_nil rest)
      rw [hword] at hb hdrop ⊢
      rw [symbolsOfWord, hb]
      simp only [hmeaning, hdrop, hsymbols]
  · rintro ⟨symbols, hsymbols, hall⟩
    fun_induction symbolsOfWord v word generalizing symbols with
    | case1 => exact .nil
    | case2 => cases hsymbols
    | case3 => cases hsymbols
    | case4 c cs e he s hmeaning _ tail htail ih =>
      cases hsymbols
      obtain ⟨rfl, htail'⟩ := List.forall_mem_cons.1 hall
      have hwins := v.longest?_decides (c :: cs)
      rw [he] at hwins
      obtain ⟨rest, hrest⟩ := hwins.isPrefix
      rw [← hrest, List.drop_left] at ih htail
      rw [← hrest] at hwins ⊢
      exact .cons e rest hwins hmeaning (ih tail htail htail')
    | case5 => cases hsymbols

/-- A word that an entry of a nonterminal spells stands for more than empty symbols. -/
theorem not_erases_of_rank_eq_zero (he : e ∈ v) (hrank : e.meaning.rank = 0) :
    ¬ v.Erases e.spelling := by
  intro h
  generalize hword : e.spelling = word at h
  cases h with
  | nil => exact e.spelling_ne_nil hword
  | cons b rest hb hempty _ =>
    have hprefix : e.spelling <+: b.spelling ++ rest := hword ▸ List.prefix_refl _
    have hunbeaten := hb.unbeaten e he hprefix
    have hlength := hb.isPrefix.length_le
    rw [← hword] at hlength
    rw [Entry.beats_iff, hrank, hempty] at hunbeaten
    exact hunbeaten (.inr ⟨by omega, Nat.one_pos⟩)

/-- A spelling of the empty symbol is read as the empty symbol unless it spells a nonterminal. -/
theorem erases_spelling_iff {empties : List String} {name : String}
    (hmem : name ∈ empties) (hname : name.toList ≠ []) :
    (ofGrammar g x empties).Erases name.toList ↔
      name ∉ g.nonterminals ∧ name ∉ x.spellings .nonterminal := by
  constructor
  · refine fun h => ⟨fun hnonterminal => ?_, fun hspelling => ?_⟩
    · obtain ⟨id, hid⟩ := List.getElem?_of_mem hnonterminal
      have he : (⟨name.toList, .symbol (.nonterminal id), hname⟩ : Entry) ∈ ofGrammar g x empties :=
        mem_ofGrammar.2 ⟨name, rfl, .inl ⟨id, List.mk_mem_zipIdx_iff_getElem?.2 hid, rfl⟩⟩
      exact not_erases_of_rank_eq_zero he rfl h
    · have he : (⟨name.toList, nonterminalMeaning g name, hname⟩ : Entry) ∈ ofGrammar g x empties :=
        mem_ofGrammar.2 ⟨name, rfl, .inr (.inl ⟨hspelling, rfl⟩)⟩
      exact not_erases_of_rank_eq_zero he (rank_nonterminalMeaning g name) h
  · rintro ⟨hnonterminal, hspelling⟩
    exact erases_iff.2 ⟨_, symbolsOfWord_empty hmem hname hnonterminal hspelling, by simp⟩

/-! ## What an alternative stands for -/

theorem ne_nil_of_symbolsOfPiece {p : Piece} {symbols : List Symbol}
    (h : v.symbolsOfPiece g p = .ok symbols) (hp : p.source ≠ []) : symbols ≠ [] := by
  cases p with
  | literal quote content =>
    simp only [symbolsOfPiece] at h
    split at h
    · cases h
      exact List.cons_ne_nil _ _
    · cases h
  | word text =>
    obtain ⟨c, cs, rfl⟩ := List.exists_cons_of_ne_nil hp
    simp only [symbolsOfPiece] at h
    rw [symbolsOfWord] at h
    split at h
    · cases h
    · split at h
      · cases h
      · simp only at h
        split at h
        · cases h
          exact List.cons_ne_nil _ _
        · cases h

/-- An alternative with pieces has symbols. -/
theorem ne_nil_of_symbolsOf {text : List Char} {symbols : List Symbol}
    (h : v.symbolsOf g text = .ok symbols) (htext : pieces text ≠ []) : symbols ≠ [] := by
  unfold symbolsOf at h
  split at h
  · rename_i parts hparts
    cases h
    obtain ⟨p, ps, hps⟩ := List.exists_cons_of_ne_nil htext
    have hparts := mapM_eq_ok.1 hparts
    rw [hps, List.forall₂_cons_left_iff] at hparts
    obtain ⟨part, parts', hpart, -, rfl⟩ := hparts
    have hp : p.source ≠ [] := source_ne_nil_of_mem_pieces (hps ▸ List.mem_cons_self)
    rw [List.flatten_cons]
    exact List.append_ne_nil_of_left_ne_nil (ne_nil_of_symbolsOfPiece hpart hp) _
  · cases h

/-- A word stands for the empty symbol only if that has a spelling. -/
theorem ne_nil_of_empty_mem_word {symbols : List Symbol}
    (h : (ofGrammar g x empties).symbolsOfWord rest = .ok symbols) (hempty : .empty ∈ symbols) :
    empties ≠ [] := by
  fun_induction Vocabulary.symbolsOfWord (ofGrammar g x empties) rest generalizing symbols with
  | case1 => cases h; cases hempty
  | case2 => cases h
  | case3 => cases h
  | case4 c cs e he s hs _ tail htail ih =>
    cases h
    rcases List.mem_cons.1 hempty with rfl | hempty
    · obtain ⟨name, -, ⟨_, -, hm⟩ | ⟨-, hm⟩ | ⟨hmem, -⟩ | ⟨_, -, hm⟩⟩ :=
        mem_ofGrammar.1 (longest?_mem he)
      · cases hs.symm.trans hm
      · unfold nonterminalMeaning at hm
        split at hm <;> cases hs.symm.trans hm
      · exact List.ne_nil_of_mem hmem
      · cases hs.symm.trans hm
    · exact ih htail hempty
  | case5 => cases h

/-- An alternative stands for the empty symbol only if that has a spelling. -/
theorem ne_nil_of_empty_mem {text : List Char} {symbols : List Symbol}
    (h : (ofGrammar g x empties).symbolsOf g text = .ok symbols) (hempty : .empty ∈ symbols) :
    empties ≠ [] := by
  unfold symbolsOf at h
  split at h
  · rename_i parts hparts
    cases h
    obtain ⟨part, hpart, hempty⟩ := List.mem_flatten.1 hempty
    obtain ⟨piece, -, hpiece⟩ := exists_of_mem_right (mapM_eq_ok.1 hparts) hpart
    cases piece with
    | literal quote content =>
      simp only [symbolsOfPiece] at hpiece
      split at hpiece
      · cases hpiece
        cases List.mem_singleton.1 hempty
      · cases hpiece
    | word text => exact ne_nil_of_empty_mem_word hpiece hempty
  · cases h

end Vocabulary

end TopDown.Grammar
