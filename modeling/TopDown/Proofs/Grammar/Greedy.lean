import TopDown.Proofs.Grammar.RoundTrip

/-!
# What an alternative stands for

An alternative is cut into pieces once more where it stands alone. Its literals name terminals, and
its words are cut from the left by the longest spellings, until they end or no spelling helps.

* `Vocabulary.Coherent`, `Vocabulary.coherent_ofGrammar` : entries that win at one place mean the
  same;
* `Vocabulary.CutTo`, `Vocabulary.Unread` : how far a word is cut, and why no farther;
  `Vocabulary.symbolsOfWord_eq_ok_iff`, `Vocabulary.symbolsOfWord_eq_error_iff`;
* `Piece.Means`, `Piece.Blames` : the symbols of a piece, or the text to blame;
* `symbolsOf_iff_greedy` : an alternative of a text consists of its pieces, and it stands for the
  symbols of all of them, unless one of them is to blame.
-/

namespace TopDown.Grammar

open Text

namespace Vocabulary

variable {v : Vocabulary} {word rest : List Char} {symbols : List Symbol} {blamed : List Char}
  {d e : Entry}

/-! ## Words -/

/-- Entries that win at the same place mean the same. -/
def Coherent (v : Vocabulary) : Prop :=
  ∀ {rest : List Char} {d e : Entry}, d.Wins v rest → e.Wins v rest → d.meaning = e.meaning

/-- The word is cut up to `rest` into spellings of the symbols, from the left and each time by a
winner. -/
inductive CutTo (v : Vocabulary) : List Char → List Symbol → List Char → Prop
  | stop (rest : List Char) : CutTo v rest [] rest
  | step {e : Entry} {s : Symbol} {word rest : List Char} {symbols : List Symbol}
    (wins : e.Wins v (e.spelling ++ word)) (meaning : e.meaning = .symbol s)
    (tail : CutTo v word symbols rest) : CutTo v (e.spelling ++ word) (s :: symbols) rest

/-- What is left of a word cannot be cut on: no entry starts it, or the winner means a nonterminal
that nobody declares. -/
inductive Unread (v : Vocabulary) (rest : List Char) : List Char → Prop
  | unknown (ne_nil : rest ≠ []) (none_starts : ∀ e ∈ v, ¬ e.spelling <+: rest) :
    Unread v rest (unmatched rest)
  | undeclared {e : Entry} (wins : e.Wins v rest) (meaning : e.meaning = .undeclared) :
    Unread v rest e.spelling

theorem spelling_eq_of_wins (hd : d.Wins v rest) (he : e.Wins v rest) :
    d.spelling = e.spelling := by
  have hlength := (hd.agree he).1
  exact (List.prefix_of_prefix_length_le hd.isPrefix he.isPrefix hlength.le).eq_of_length hlength

/-- A word is cut by any winner at its start. -/
theorem symbolsOfWord_of_wins (hv : v.Coherent) (he : e.Wins v (e.spelling ++ word)) :
    v.symbolsOfWord (e.spelling ++ word) = match e.meaning with
      | .undeclared => .error e.spelling
      | .symbol s => (v.symbolsOfWord word).map (s :: ·) := by
  have hdecides := v.longest?_decides (e.spelling ++ word)
  cases hb : v.longest? (e.spelling ++ word) with
  | none =>
    rw [hb] at hdecides
    exact absurd he.isPrefix (hdecides e he.mem)
  | some b =>
    rw [hb] at hdecides
    have hspelling := spelling_eq_of_wins hdecides he
    have hmeaning := hv hdecides he
    have hdrop : (e.spelling ++ word).drop e.spelling.length = word := List.drop_left
    obtain ⟨c, cs, hword⟩ := List.exists_cons_of_ne_nil
      (List.append_ne_nil_of_left_ne_nil e.spelling_ne_nil word)
    rw [hword] at hb hdrop ⊢
    rw [symbolsOfWord, hb]
    simp only [hmeaning, hspelling, hdrop]
    cases e.meaning with
    | undeclared => rfl
    | symbol s => cases v.symbolsOfWord word <;> rfl

/-- A word that is cut up to some place stands for what it is cut into and what the rest stands
for. -/
theorem CutTo.symbolsOfWord_eq (hv : v.Coherent) (h : v.CutTo word symbols rest) :
    v.symbolsOfWord word = (v.symbolsOfWord rest).map (symbols ++ ·) := by
  induction h with
  | stop rest => cases v.symbolsOfWord rest <;> rfl
  | @step e s word rest symbols hwins hmeaning _ ih =>
    rw [symbolsOfWord_of_wins hv hwins, hmeaning, ih]
    cases v.symbolsOfWord rest <;> rfl

theorem symbolsOfWord_nil : v.symbolsOfWord [] = .ok [] := by
  rw [symbolsOfWord]

theorem Unread.symbolsOfWord_eq (hv : v.Coherent) (h : v.Unread rest blamed) :
    v.symbolsOfWord rest = .error blamed := by
  cases h with
  | unknown hne hnone =>
    have hdecides := v.longest?_decides rest
    obtain ⟨c, cs, rfl⟩ := List.exists_cons_of_ne_nil hne
    cases hb : v.longest? (c :: cs) with
    | none => rw [symbolsOfWord, hb]
    | some b =>
      rw [hb] at hdecides
      exact absurd hdecides.isPrefix (hnone b hdecides.mem)
  | @undeclared e hwins hmeaning =>
    obtain ⟨word, rfl⟩ := hwins.isPrefix
    rw [symbolsOfWord_of_wins hv hwins, hmeaning]

/-- The text to blame starts the rest that cannot be cut on. -/
theorem Unread.isPrefix (h : v.Unread rest blamed) : blamed <+: rest ∧ blamed ≠ [] := by
  cases h with
  | unknown hne _ =>
    obtain ⟨c, cs, rfl⟩ := List.exists_cons_of_ne_nil hne
    unfold unmatched
    simp only
    split
    · exact ⟨List.take_prefix 1 (c :: cs), List.cons_ne_nil c _⟩
    · rename_i hname
      exact ⟨List.takeWhile_prefix isNameLike, fun hnil => hname (List.isEmpty_iff.2 hnil)⟩
  | undeclared hwins _ => exact ⟨hwins.isPrefix, Entry.spelling_ne_nil _⟩

/-- Every word is cut up to its end or to a place where it cannot be cut on. -/
theorem exists_cutTo (v : Vocabulary) (word : List Char) : ∃ symbols rest,
    v.CutTo word symbols rest ∧ (rest = [] ∨ ∃ blamed, v.Unread rest blamed) := by
  induction hlength : word.length using Nat.strong_induction_on generalizing word with
  | _ n ih =>
    have hdecides := v.longest?_decides word
    cases hb : v.longest? word with
    | none =>
      rw [hb] at hdecides
      refine ⟨[], word, .stop word, ?_⟩
      by_cases hne : word = []
      · exact .inl hne
      · exact .inr ⟨_, .unknown hne hdecides⟩
    | some e =>
      rw [hb] at hdecides
      cases hmeaning : e.meaning with
      | undeclared => exact ⟨[], word, .stop word, .inr ⟨_, .undeclared hdecides hmeaning⟩⟩
      | symbol s =>
        obtain ⟨tail, rfl⟩ := hdecides.isPrefix
        have hpos := List.length_pos_iff.2 e.spelling_ne_nil
        obtain ⟨symbols, rest, hcut, hrest⟩ :=
          ih tail.length (by rw [← hlength, List.length_append]; omega) tail rfl
        exact ⟨s :: symbols, rest, .step hdecides hmeaning hcut, hrest⟩

/-- A word stands for symbols if it is cut into them as a whole. -/
theorem symbolsOfWord_eq_ok_iff (hv : v.Coherent) :
    v.symbolsOfWord word = .ok symbols ↔ v.CutTo word symbols [] := by
  constructor
  · intro h
    obtain ⟨symbols', rest, hcut, rfl | ⟨blamed, hunread⟩⟩ := v.exists_cutTo word
    · rw [hcut.symbolsOfWord_eq hv, symbolsOfWord_nil] at h
      cases h
      simpa using hcut
    · rw [hcut.symbolsOfWord_eq hv, hunread.symbolsOfWord_eq hv] at h
      cases h
  · intro h
    rw [h.symbolsOfWord_eq hv, symbolsOfWord_nil]
    exact congrArg Except.ok (List.append_nil symbols)

/-- A word has no meaning if it is cut up to a place where it cannot be cut on. -/
theorem symbolsOfWord_eq_error_iff (hv : v.Coherent) : v.symbolsOfWord word = .error blamed ↔
    ∃ symbols rest, v.CutTo word symbols rest ∧ v.Unread rest blamed := by
  constructor
  · intro h
    obtain ⟨symbols, rest, hcut, rfl | ⟨blamed', hunread⟩⟩ := v.exists_cutTo word
    · rw [hcut.symbolsOfWord_eq hv, symbolsOfWord_nil] at h
      cases h
    · rw [hcut.symbolsOfWord_eq hv, hunread.symbolsOfWord_eq hv] at h
      cases h
      exact ⟨symbols, rest, hcut, hunread⟩
  · rintro ⟨symbols, rest, hcut, hunread⟩
    rw [hcut.symbolsOfWord_eq hv, hunread.symbolsOfWord_eq hv]
    rfl

/-! ## The vocabulary of a grammar -/

variable {g : Grammar} {x : Lexicon} {empties : List String}

/-- A spelling has one meaning at each precedence. -/
theorem meaning_of_mem_ofGrammar (hnonterminals : g.nonterminals.Nodup)
    (hterminals : g.terminals.Nodup) {name : String} (he : e ∈ ofGrammar g x empties)
    (hname : e.spelling = name.toList) :
    e.meaning.rank = 0 ∧ e.meaning = nonterminalMeaning g name ∨
      e.meaning.rank = 1 ∧ e.meaning = .symbol .empty ∨
        e.meaning.rank = 2 ∧ ∃ id, g.terminal? name = some id ∧
          e.meaning = .symbol (.terminal id) := by
  obtain ⟨name', hname', hcases⟩ := mem_ofGrammar.1 he
  obtain rfl : name = name' := String.toList_inj.1 (hname.symm.trans hname')
  rcases hcases with ⟨id, hid, hm⟩ | ⟨-, hm⟩ | ⟨-, hm⟩ | ⟨id, hid, hm⟩
  · have hfind : g.nonterminal? name = some id :=
      idxOf?_of_getElem? hnonterminals (List.mk_mem_zipIdx_iff_getElem?.1 hid)
    exact .inl ⟨by rw [hm]; rfl, by rw [hm, nonterminalMeaning, hfind]⟩
  · exact .inl ⟨by rw [hm, rank_nonterminalMeaning], hm⟩
  · exact .inr (.inl ⟨by rw [hm]; rfl, hm⟩)
  · have hfind : g.terminal? name = some id :=
      idxOf?_of_getElem? hterminals (List.mk_mem_zipIdx_iff_getElem?.1 hid)
    exact .inr (.inr ⟨by rw [hm]; rfl, id, hfind, hm⟩)

theorem coherent_ofGrammar (hnonterminals : g.nonterminals.Nodup)
    (hterminals : g.terminals.Nodup) : (ofGrammar g x empties).Coherent := by
  intro rest d e hd he
  have hspelling := spelling_eq_of_wins hd he
  have hrank := (hd.agree he).2
  obtain ⟨name, hname, -⟩ := mem_ofGrammar.1 he.mem
  have hdm := meaning_of_mem_ofGrammar hnonterminals hterminals hd.mem (hspelling.trans hname)
  have hem := meaning_of_mem_ofGrammar hnonterminals hterminals he.mem hname
  rcases hdm with ⟨hd, hdm⟩ | ⟨hd, hdm⟩ | ⟨hd, id, hid, hdm⟩ <;>
    rcases hem with ⟨he, hem⟩ | ⟨he, hem⟩ | ⟨he, id', hid', hem⟩ <;>
    try omega
  · rw [hdm, hem]
  · rw [hdm, hem]
  · cases hid.symm.trans hid'
    rw [hdm, hem]

end Vocabulary

/-! ## Pieces -/

variable {g : Grammar} {v : Vocabulary} {p : Piece}

/-- A literal stands for the terminal that its unescaped content names, a word for the symbols that
it is cut into. -/
inductive Piece.Means (g : Grammar) (v : Vocabulary) : Piece → List Symbol → Prop
  | literal {quote : Char} {content : List Char} {id : Nat}
    (named : g.terminals[id]? = some (String.ofList (unescape content))) :
    Means g v (literal quote content) [.terminal id]
  | word {w : List Char} {symbols : List Symbol} (cut : v.CutTo w symbols []) :
    Means g v (word w) symbols

/-- A literal that names no terminal is to blame for its unescaped content, a word for the start of
what is left of it where it cannot be cut on. -/
inductive Piece.Blames (g : Grammar) (v : Vocabulary) : Piece → List Char → Prop
  | literal {quote : Char} {content : List Char}
    (unnamed : String.ofList (unescape content) ∉ g.terminals) :
    Blames g v (literal quote content) ('"' :: unescape content ++ ['"'])
  | word {w rest blamed : List Char} {symbols : List Symbol} (cut : v.CutTo w symbols rest)
    (unread : v.Unread rest blamed) (starts : blamed <+: rest) (ne_nil : blamed ≠ []) :
    Blames g v (word w) blamed

theorem terminal?_eq_some_iff (hg : g.terminals.Nodup) {name : String} {id : Nat} :
    g.terminal? name = some id ↔ g.terminals[id]? = some name := by
  constructor
  · intro h
    obtain ⟨hid, hname, -⟩ := List.idxOf?_eq_some_iff.1 h
    rw [List.getElem?_eq_getElem hid, hname]
  · exact idxOf?_of_getElem? hg

theorem terminal?_eq_none_iff {name : String} : g.terminal? name = none ↔ name ∉ g.terminals :=
  List.idxOf?_eq_none_iff

theorem symbolsOfPiece_eq_ok_iff (hv : v.Coherent) (hg : g.terminals.Nodup)
    {symbols : List Symbol} : v.symbolsOfPiece g p = .ok symbols ↔ p.Means g v symbols := by
  cases p with
  | literal quote content =>
    rw [Vocabulary.symbolsOfPiece]
    constructor
    · intro h
      split at h
      · rename_i hid
        cases h
        exact .literal ((terminal?_eq_some_iff hg).1 hid)
      · cases h
    · rintro ⟨hnamed⟩
      rw [(terminal?_eq_some_iff hg).2 hnamed]
  | word w =>
    rw [Vocabulary.symbolsOfPiece, Vocabulary.symbolsOfWord_eq_ok_iff hv]
    constructor
    · exact .word
    · rintro ⟨⟩
      assumption

theorem symbolsOfPiece_eq_error_iff (hv : v.Coherent) {blamed : List Char} :
    v.symbolsOfPiece g p = .error blamed ↔ p.Blames g v blamed := by
  cases p with
  | literal quote content =>
    rw [Vocabulary.symbolsOfPiece]
    constructor
    · intro h
      split at h
      · cases h
      · rename_i hnone
        cases h
        exact .literal (terminal?_eq_none_iff.1 hnone)
    · rintro ⟨hunnamed⟩
      rw [terminal?_eq_none_iff.2 hunnamed]
  | word w =>
    rw [Vocabulary.symbolsOfPiece, Vocabulary.symbolsOfWord_eq_error_iff hv]
    constructor
    · rintro ⟨symbols, rest, hcut, hunread⟩
      exact .word hcut hunread hunread.isPrefix.1 hunread.isPrefix.2
    · intro h
      cases h with
      | word hcut hunread => exact ⟨_, _, hcut, hunread⟩

/-! ## Alternatives -/

theorem symbolsOf_eq_ok_iff (hv : v.Coherent) (hg : g.terminals.Nodup) {text : List Char}
    {symbols : List Symbol} : v.symbolsOf g text = .ok symbols ↔ ∃ parts,
      List.Forall₂ (Piece.Means g v) (pieces text) parts ∧ symbols = parts.flatten := by
  have hparts (parts : List (List Symbol)) : List.Forall₂ (Piece.Means g v) (pieces text) parts ↔
      (pieces text).mapM (v.symbolsOfPiece g) = .ok parts := by
    simp only [mapM_eq_ok, symbolsOfPiece_eq_ok_iff hv hg]
  simp only [hparts, Vocabulary.symbolsOf]
  cases (pieces text).mapM (v.symbolsOfPiece g) <;> simp [eq_comm]

theorem symbolsOf_eq_error_iff (hv : v.Coherent) (hg : g.terminals.Nodup) {text blamed : List Char} :
    v.symbolsOf g text = .error blamed ↔ ∃ before p after, pieces text = before ++ p :: after ∧
      (∀ q ∈ before, ∃ symbols, Piece.Means g v q symbols) ∧ Piece.Blames g v p blamed := by
  simp only [← symbolsOfPiece_eq_ok_iff hv hg, ← symbolsOfPiece_eq_error_iff hv, ← mapM_eq_error,
    Vocabulary.symbolsOf]
  cases (pieces text).mapM (v.symbolsOfPiece g) <;> simp

/-- An alternative of a text consists of its pieces, whatever it is resolved over. It stands for the
symbols of all its pieces, or else its first piece without a meaning is to blame. -/
theorem symbolsOf_iff_greedy {text : String} {ds : Declarations}
    (hds : Declarations.parse text = .ok ds) {d : Declaration} (hd : d ∈ ds) {a : Alternative}
    (ha : a ∈ d.alternatives) (x : Lexicon) (options : Options) :
    let g := frame ds x options
    let v := g.vocabulary x options
    Spans (pieces a.text.toList) a.text.toList ∧
      (∀ symbols, v.symbolsOf g a.text.toList = .ok symbols ↔ ∃ parts,
        List.Forall₂ (Piece.Means g v) (pieces a.text.toList) parts ∧ symbols = parts.flatten) ∧
      ∀ blamed, v.symbolsOf g a.text.toList = .error blamed ↔ ∃ before p after,
        pieces a.text.toList = before ++ p :: after ∧
          (∀ q ∈ before, ∃ symbols, Piece.Means g v q symbols) ∧ Piece.Blames g v p blamed := by
  intro g v
  have hterminals : g.terminals.Nodup := nodup_foldl_addNew _ List.nodup_nil
  have hnonterminals : g.nonterminals.Nodup := nodup_foldl_addNew _ List.nodup_nil
  have hv : v.Coherent := Vocabulary.coherent_ofGrammar hnonterminals hterminals
  refine ⟨?_, fun symbols => symbolsOf_eq_ok_iff hv hterminals,
    fun blamed => symbolsOf_eq_error_iff hv hterminals⟩
  obtain ⟨body, parts, part, hcut, hpart, -, htext⟩ := Declarations.exists_part_of_parse hds hd ha
  rw [htext, String.toList_ofList]
  exact hcut.spans_pieces hpart

/-- `S'` is longer than `S`, and without a lexicon the first literal names no terminal. -/
theorem symbolsOf_iff_greedy_knotty : Declarations.parse knotty = .ok knottyDeclarations ∧
    Spans (pieces "S'S eps".toList) "S'S eps".toList ∧
      (∃ parts, List.Forall₂ (Piece.Means (frame knottyDeclarations knottyLexicon {})
          ((frame knottyDeclarations knottyLexicon {}).vocabulary knottyLexicon {}))
          (pieces "S'S eps".toList) parts ∧
        [.nonterminal 1, .nonterminal 0, .empty] = parts.flatten) ∧
        ∃ before p after, pieces "'\"|\\\\'S' \"\"".toList = before ++ p :: after ∧
          (∀ q ∈ before, ∃ symbols, Piece.Means (frame knottyDeclarations ⟨[]⟩ {})
            ((frame knottyDeclarations ⟨[]⟩ {}).vocabulary ⟨[]⟩ {}) q symbols) ∧
            Piece.Blames (frame knottyDeclarations ⟨[]⟩ {})
              ((frame knottyDeclarations ⟨[]⟩ {}).vocabulary ⟨[]⟩ {}) p
              "\"\"|\\\"".toList := by
  have hds : Declarations.parse knotty = .ok knottyDeclarations := by decide +kernel
  obtain ⟨hspans, hok, -⟩ := symbolsOf_iff_greedy hds
    (d := ⟨"S'", 3, [⟨3, "$$ $"⟩, ⟨5, "S'S eps"⟩]⟩) (by decide) (a := ⟨5, "S'S eps"⟩) (by decide)
    knottyLexicon {}
  obtain ⟨-, -, herror⟩ := symbolsOf_iff_greedy hds
    (d := ⟨"S", 1, [⟨1, "'\"|\\\\'S' \"\""⟩, ⟨1, "\"S\""⟩]⟩) (by decide)
    (a := ⟨1, "'\"|\\\\'S' \"\""⟩) (by decide) ⟨[]⟩ {}
  exact ⟨hds, hspans, (hok _).1 (by decide +kernel), (herror _).1 (by decide +kernel)⟩

end TopDown.Grammar
