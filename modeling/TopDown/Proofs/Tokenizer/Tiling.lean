import Mathlib.Data.List.Induction
import TopDown.Proofs.Tokenizer.Reading
import TopDown.Proofs.Traversal

/-!
# Tokens, separators and errors tile the input

Of the matchers only this is assumed: a match does not end behind the text. The matchers of a
lexicon have this property.

* `Tokenizer.Fits`, `Tokenizer.fits_ofLexicon` : matches end within the text;
* `Tokenizer.Wins` : the longest match, then the lowest priority, then the earliest rule;
  `Tokenizer.Decides`, `longest?_decides` : this is the match that is chosen, if there is any;
* `Scanner.answer` : the answer to the pull of a given number; `Scanner.answer_eq` : a scanner
  answers with its lexemes and then with nothing for ever;
* `Slice` : a stretch of the input, with the matcher that has won it;
* `Tiles`, `exists_tiles` : slices that lie side by side and yield all lexemes;
* `scanRecovering_tiles` : every input is tiled.
-/

namespace TopDown

open Text

/-! ## Matches end within the text -/

namespace Pattern

variable {p : Program} {before : Option Char} {place n : Nat} {rest : List Char}

theorem Program.advance_le {live : List Nat} {marks : Array Nat} {best : Option Nat}
    (hbest : ∀ k, best = some k → k ≤ place + rest.length)
    (h : p.advance before place live marks best rest = some n) : n ≤ place + rest.length := by
  induction rest generalizing before place live marks best with
  | nil =>
    rw [Program.advance] at h
    split at h
    · cases h
      exact Nat.le_add_right ..
    · exact hbest n h
  | cons c cs ih =>
    rw [Program.advance] at h
    split at h
    · exact hbest n h
    · have hle := ih (fun k hk => ?_) h
      · rw [List.length_cons]
        omega
      · split at hk
        · cases hk
          omega
        · have := hbest k hk
          rw [List.length_cons] at this
          omega

theorem Program.matchAt_le (h : p.matchAt before place rest = some n) : n ≤ place + rest.length :=
  Program.advance_le (by rintro _ ⟨⟩) h

theorem Program.findFrom_le (h : p.findFrom before place rest = some n) :
    n ≤ place + rest.length := by
  induction rest generalizing before place with
  | nil => exact Program.matchAt_le h
  | cons c cs ih =>
    rw [Program.findFrom] at h
    split at h
    · rename_i stop hstop
      cases h
      exact Program.matchAt_le hstop
    · have := ih h
      rw [List.length_cons]
      omega

theorem Program.find_le {text : List Char} (h : p.find text = some n) : n ≤ text.length := by
  rw [Program.find] at h
  split at h
  · simpa using Program.matchAt_le h
  · simpa using Program.findFrom_le h

end Pattern

namespace Tokenizer

/-- Every match ends within the text. -/
def Fits (t : Tokenizer) : Prop := ∀ m ∈ t, ∀ text n, m.find text = some n → n ≤ text.length

/-- The matchers of a lexicon match within the text. -/
theorem fits_ofLexicon {x : Lexicon} {t : Tokenizer} (h : ofLexicon x = .ok t) : t.Fits := by
  intro m hm text n hn
  obtain ⟨r, -, hr⟩ := exists_of_mem_right (mapM_eq_ok.1 h) hm
  unfold matcherOf at hr
  split at hr
  · rename_i find hfind
    cases hr
    obtain ⟨p, -, rfl⟩ := Option.map_eq_some_iff.1 hfind
    exact Pattern.Program.find_le hn
  · cases hr

end Tokenizer

/-! ## The winning match -/

theorem Matcher.match?_eq_some {m : Matcher} {rest : List Char} {k : Match}
    (h : m.match? rest = some k) : k.matcher = m ∧ m.find rest = some k.length := by
  unfold Matcher.match? at h
  split at h
  · rename_i n hn
    split at h
    · cases h
      exact ⟨rfl, hn⟩
    · cases h
  · cases h

theorem Matcher.match?_eq_none {m : Matcher} {rest : List Char} (h : m.match? rest = none) {n : Nat}
    (hn : m.find rest = some n) : n = 0 := by
  unfold Matcher.match? at h
  rw [hn] at h
  by_contra hne
  simp [Nat.pos_of_ne_zero hne] at h

theorem Match.beats_iff {k b : Match} :
    k.beats b = true ↔ b.length < k.length ∨
      k.length = b.length ∧ k.matcher.priority < b.matcher.priority := by
  simp [Match.beats]

namespace Tokenizer

/-- No rule has a match but the empty one. -/
def Fails (t : Tokenizer) (rest : List Char) : Prop := ∀ m ∈ t, ∀ n, m.find rest = some n → n = 0

/-- The rule number `i` wins with a match of `n` characters: no other rule has a longer one, none
that has an equally long one has a lower priority, and none that has the same priority stands
before it. -/
def WinsAt (t : Tokenizer) (rest : List Char) (i : Nat) (m : Matcher) (n : Nat) : Prop :=
  t[i]? = some m ∧ m.find rest = some n ∧ 0 < n ∧
    ∀ j m' n', t[j]? = some m' → m'.find rest = some n' → 0 < n' →
      n' < n ∨ n' = n ∧ (m.priority < m'.priority ∨ m.priority = m'.priority ∧ i ≤ j)

/-- The matcher wins with a match of `n` characters. -/
def Wins (t : Tokenizer) (rest : List Char) (m : Matcher) (n : Nat) : Prop :=
  ∃ i, t.WinsAt rest i m n

/-- The match is the winning one, and there is none only if all rules fail. -/
def Decides (t : Tokenizer) (rest : List Char) : Option Match → Prop
  | none => t.Fails rest
  | some k => t.Wins rest k.matcher k.length

theorem getElem?_concat {t : Tokenizer} {m m' : Matcher} {j : Nat}
    (h : (t ++ [m])[j]? = some m') : t[j]? = some m' ∨ j = t.length ∧ m' = m := by
  rcases Nat.lt_trichotomy j t.length with hlt | rfl | hgt
  · rw [List.getElem?_append_left hlt] at h
    exact .inl h
  · rw [List.getElem?_concat_length] at h
    exact .inr ⟨rfl, (Option.some.inj h).symm⟩
  · rw [List.getElem?_append_right (Nat.le_of_lt hgt)] at h
    rw [List.getElem?_eq_none] at h
    · cases h
    · rw [List.length_singleton]
      omega

variable {t : Tokenizer} {rest : List Char} {m : Matcher} {i n : Nat}

/-- A winner goes on winning if the next rule does not beat it. -/
theorem WinsAt.concat (h : t.WinsAt rest i m n) {m' : Matcher}
    (hm' : ∀ n', m'.find rest = some n' → 0 < n' →
      n' < n ∨ n' = n ∧ m.priority ≤ m'.priority) : WinsAt (t ++ [m']) rest i m n := by
  obtain ⟨hi, hfind, hpos, hbest⟩ := h
  have hlt : i < t.length := (List.getElem?_eq_some_iff.1 hi).1
  refine ⟨by rwa [List.getElem?_append_left hlt], hfind, hpos, fun j m'' n' hj hn' hpos' => ?_⟩
  rcases getElem?_concat hj with hj | ⟨rfl, rfl⟩
  · exact hbest j m'' n' hj hn' hpos'
  · have := hm' n' hn' hpos'
    omega

/-- The next rule wins if it beats all before it. -/
theorem winsAt_length (hfind : m.find rest = some n) (hpos : 0 < n)
    (hbest : ∀ (j : Nat) (m' : Matcher) (n' : Nat), t[j]? = some m' → m'.find rest = some n' →
      0 < n' → n' < n ∨ n' = n ∧ m.priority < m'.priority) :
    WinsAt (t ++ [m]) rest t.length m n := by
  refine ⟨List.getElem?_concat_length, hfind, hpos, fun j m' n' hj hn' hpos' => ?_⟩
  rcases getElem?_concat hj with hj | ⟨rfl, rfl⟩
  · have := hbest j m' n' hj hn' hpos'
    omega
  · cases hfind.symm.trans hn'
    omega

/-- The decision among some rules and the match of the next one give the decision among all. -/
theorem decides_concat {best : Option Match} {k : Match}
    (hfind : k.matcher.find rest = some k.length) : t.Decides rest best →
    Decides (t ++ [k.matcher]) rest
      (match best with
        | none => some k
        | some b => if k.beats b then some k else some b) := by
  intro h
  cases best with
  | none =>
    refine ⟨t.length, winsAt_length hfind k.length_pos fun j m' n' hj hn' hpos => ?_⟩
    have := h m' (List.mem_of_getElem? hj) n' hn'
    omega
  | some b =>
    obtain ⟨i, hi⟩ := h
    simp only
    split
    · rename_i hbeats
      refine ⟨t.length, winsAt_length hfind k.length_pos fun j m' n' hj hn' hpos => ?_⟩
      have hb := hi.2.2.2 j m' n' hj hn' hpos
      rw [Match.beats_iff] at hbeats
      omega
    · rename_i hbeats
      refine ⟨i, hi.concat fun n' hn' _ => ?_⟩
      cases hfind.symm.trans hn'
      rw [Match.beats_iff] at hbeats
      omega

/-- A rule without a match changes no decision. -/
theorem decides_concat_of_none {best : Option Match} (hm : m.match? rest = none)
    (h : t.Decides rest best) : Decides (t ++ [m]) rest best := by
  have hzero := fun n => Matcher.match?_eq_none hm (n := n)
  cases best with
  | none => exact List.forall_mem_append.2 ⟨h, List.forall_mem_singleton.2 hzero⟩
  | some b =>
    obtain ⟨i, hi⟩ := h
    refine ⟨i, hi.concat fun n' hn' hpos => ?_⟩
    have := hzero n' hn'
    omega

/-- The match that is chosen is the winning one, by induction on the rules in order. -/
theorem longest?_decides (t : Tokenizer) (rest : List Char) : t.Decides rest (t.longest? rest) := by
  induction t using List.reverseRecOn with
  | nil => exact fun m hm => absurd hm List.not_mem_nil
  | append_singleton t m ih =>
    rw [longest?, List.filterMap_append, List.foldl_append]
    cases hm : m.match? rest with
    | none =>
      simp only [List.filterMap_cons, hm, List.filterMap_nil, List.foldl_nil]
      exact decides_concat_of_none hm ih
    | some k =>
      obtain ⟨rfl, hfind⟩ := Matcher.match?_eq_some hm
      simp only [List.filterMap_cons, hm, List.filterMap_nil, List.foldl_cons, List.foldl_nil]
      exact decides_concat hfind ih

end Tokenizer

/-! ## Pulling for ever -/

namespace Scanner

/-- The answer to the pull number `n`, from zero. A scanner that has nothing to yield stays as it
is. -/
def answer (s : Scanner) : Nat → Option Pull
  | 0 => s.next.map Prod.fst
  | n + 1 =>
    match s.next with
    | none => s.answer n
    | some (_, s') => s'.answer n

/-- A scanner answers with its lexemes in order, and then with nothing for ever. -/
theorem answer_eq (s : Scanner) (n : Nat) : s.answer n = s.lexemes[n]? := by
  induction n generalizing s with
  | zero =>
    rw [answer, lexemes_eq]
    cases s.next <;> rfl
  | succ n ih =>
    rw [answer]
    split
    · rename_i hnext
      have hlexemes : s.lexemes = [] := by rw [lexemes_eq, hnext]
      rw [ih, hlexemes]
      rfl
    · rename_i p s' hnext
      have hlexemes : s.lexemes = p :: s'.lexemes := by rw [lexemes_eq, hnext]
      rw [ih, hlexemes]
      rfl

end Scanner

/-! ## Slices -/

/-- A stretch of input between two byte offsets, and the matcher that has won it, if any has. -/
structure Slice where
  start : Nat
  stop : Nat
  text : List Char
  winner : Option Matcher

namespace Slice

/-- What a slice yields: a token, nothing for a separator, and an error for every character of a
slice that nothing has won. -/
def lexemes (s : Slice) : List Pull :=
  match s.winner with
  | none => s.text.map fun c => .error (.noMatch s.start c)
  | some m =>
    match m.terminal with
    | none => []
    | some terminal =>
      [.ok (.token ⟨m.name, terminal, String.ofList s.text, s.start, s.stop⟩)]

/-- The slice is the winning match at the start of the text that it begins or, if nothing matches
there, one character. -/
def IsTaken (t : Tokenizer) (s : Slice) (behind : List Char) : Prop :=
  match s.winner with
  | none => s.text.length = 1 ∧ t.Fails (s.text ++ behind)
  | some m => t.Wins (s.text ++ behind) m s.text.length

/-- The slice is the part of the text between its offsets, and is what a tokenizer takes there. As
offsets count the bytes of whole characters, they are character boundaries. -/
def IsRead (t : Tokenizer) (text : List Char) (s : Slice) : Prop :=
  ∃ before behind, text = before ++ s.text ++ behind ∧ s.start = byteSize before ∧
    s.stop = byteSize (before ++ s.text) ∧ s.IsTaken t behind

end Slice

namespace Tokenizer

/-- Slices that lie side by side behind `before`, up to the end of `rest`, and that yield all that
a scanner yields there. -/
structure Tiles (t : Tokenizer) (before rest : List Char) (slices : List Slice) : Prop where
  offsets : slices.map Slice.start ++ [byteSize (before ++ rest)] =
    byteSize before :: slices.map Slice.stop
  read : ∀ s ∈ slices, s.start < s.stop ∧ s.IsRead t (before ++ rest)
  lexemes : (⟨t, true, byteSize before, rest, false⟩ : Scanner).lexemes =
    slices.flatMap Slice.lexemes ++ [.ok (.finish (byteSize (before ++ rest)))]

variable {t : Tokenizer} {before text rest : List Char} {slices : List Slice}

theorem tiles_nil (t : Tokenizer) (before : List Char) : t.Tiles before [] [] := by
  refine ⟨by simp, fun s hs => absurd hs List.not_mem_nil, ?_⟩
  rw [Scanner.lexemes_nil, List.append_nil]
  rfl

/-- One more slice in front. -/
theorem Tiles.cons (winner : Option Matcher) (htext : text ≠ [])
    (htaken : Slice.IsTaken t ⟨byteSize before, byteSize (before ++ text), text, winner⟩ rest)
    (hlexemes : (⟨t, true, byteSize before, text ++ rest, false⟩ : Scanner).lexemes =
      Slice.lexemes ⟨byteSize before, byteSize (before ++ text), text, winner⟩ ++
        (⟨t, true, byteSize (before ++ text), rest, false⟩ : Scanner).lexemes)
    (h : t.Tiles (before ++ text) rest slices) :
    t.Tiles before (text ++ rest)
      (⟨byteSize before, byteSize (before ++ text), text, winner⟩ :: slices) := by
  obtain ⟨hoffsets, hread, hrest⟩ := h
  rw [List.append_assoc] at hoffsets hread hrest
  refine ⟨?_, List.forall_mem_cons.2 ⟨⟨?_, ?_⟩, hread⟩, ?_⟩
  · rw [List.map_cons, List.map_cons, List.cons_append, hoffsets]
  · obtain ⟨c, cs, rfl⟩ := List.exists_cons_of_ne_nil htext
    have hpos := Char.utf8Size_pos c
    simp only [byteSize_append, byteSize_cons]
    omega
  · exact ⟨before, rest, (List.append_assoc ..).symm, rfl, rfl, htaken⟩
  · rw [hlexemes, hrest, List.flatMap_cons, List.append_assoc]

/-- The winning match as a slice. -/
theorem tiles_of_match (ht : t.Fits) {c : Char} {cs : List Char} {m : Match}
    (hm : t.longest? (c :: cs) = some m)
    (h : t.Tiles (before ++ (c :: cs).take m.length) ((c :: cs).drop m.length) slices) :
    ∃ slices, t.Tiles before (c :: cs) slices := by
  have hdecides := longest?_decides t (c :: cs)
  rw [hm] at hdecides
  obtain ⟨i, hwins⟩ := hdecides
  have hle := ht _ (List.mem_of_getElem? hwins.1) _ _ hwins.2.1
  have hsplit : (c :: cs).take m.length ++ (c :: cs).drop m.length = c :: cs :=
    List.take_append_drop ..
  have hlength : ((c :: cs).take m.length).length = m.length := List.length_take_of_le hle
  have htext : (c :: cs).take m.length ≠ [] := by
    have hpos := m.length_pos
    rw [← List.length_pos_iff]
    omega
  have htiles := h.cons (some m.matcher) htext
    (by simp only [Slice.IsTaken, hsplit, hlength]; exact ⟨i, hwins⟩) ?_
  · rw [hsplit] at htiles
    exact ⟨_, htiles⟩
  · rw [hsplit, byteSize_append]
    cases hterminal : m.matcher.terminal with
    | none =>
      rw [Scanner.lexemes_of_separator hm hterminal]
      simp [Slice.lexemes, hterminal]
    | some terminal =>
      rw [Scanner.lexemes_of_token hm hterminal]
      simp [Slice.lexemes, hterminal]

/-- A character that nothing matches as a slice. -/
theorem tiles_of_noMatch {c : Char} {cs : List Char} (hm : t.longest? (c :: cs) = none)
    (h : t.Tiles (before ++ [c]) cs slices) : ∃ slices, t.Tiles before (c :: cs) slices := by
  have hdecides := longest?_decides t (c :: cs)
  rw [hm] at hdecides
  refine ⟨_, h.cons none (List.cons_ne_nil c []) ⟨rfl, hdecides⟩ ?_⟩
  rw [List.singleton_append, Scanner.lexemes_of_noMatch hm]
  simp [Slice.lexemes]

/-- Every text is tiled, since what is taken is never empty. -/
theorem exists_tiles (ht : t.Fits) (before rest : List Char) :
    ∃ slices, t.Tiles before rest slices := by
  induction hn : rest.length using Nat.strongRecOn generalizing before rest with
  | ind n ih =>
    cases rest with
    | nil => exact ⟨[], tiles_nil t before⟩
    | cons c cs =>
      cases hm : t.longest? (c :: cs) with
      | none =>
        obtain ⟨slices, htiles⟩ := ih cs.length (by rw [← hn]; exact Nat.lt_succ_self _)
          (before ++ [c]) cs rfl
        exact tiles_of_noMatch hm htiles
      | some m =>
        have hpos := m.length_pos
        obtain ⟨slices, htiles⟩ := ih ((c :: cs).drop m.length).length
          (by simp only [List.length_drop, List.length_cons] at hn ⊢; omega)
          (before ++ (c :: cs).take m.length) ((c :: cs).drop m.length) rfl
        exact tiles_of_match ht hm htiles

/-- A scanner that recovers from errors cuts the input into slices, from its start to its end. Each
slice is the winning match at its start or, if nothing matches there, one character. The scanner
answers with what the slices yield, in order, then once with the end of the input and then with
nothing for ever. -/
theorem scanRecovering_tiles (ht : t.Fits) (input : String) :
    ∃ slices : List Slice,
      slices.map Slice.start ++ [input.utf8ByteSize] = 0 :: slices.map Slice.stop ∧
      (∀ s ∈ slices, s.start < s.stop ∧ s.IsRead t input.toList) ∧
      ∀ n, (t.scanRecovering input).answer n =
        (slices.flatMap Slice.lexemes ++ [.ok (.finish input.utf8ByteSize)])[n]? := by
  obtain ⟨slices, hoffsets, hread, hlexemes⟩ := exists_tiles ht [] input.toList
  rw [List.nil_append] at hoffsets hread hlexemes
  rw [byteSize_toList] at hoffsets hlexemes
  refine ⟨slices, hoffsets, hread, fun n => ?_⟩
  rw [Scanner.answer_eq, ← hlexemes]
  rfl

/-- A keyword, words that may be spelled like it, and spaces between them. -/
def words : Lexicon :=
  ⟨[⟨"IF", "if", 1, false⟩, ⟨"WORD", "if+", 2, false⟩, ⟨"IGNORE", " ", 3, true⟩]⟩

/-- In `if é iff` the keyword wins a tie, the longer word wins over the keyword, the spaces yield
nothing and the accented letter is an error. -/
theorem scanRecovering_tiles_words :
    ∃ t, ofLexicon words = .ok t ∧ t.Fits ∧
      (List.range 6).map (t.scanRecovering "if é iff").answer =
        [some (.ok (.token ⟨"IF", "IF", "if", 0, 2⟩)), some (.error (.noMatch 3 'é')),
          some (.ok (.token ⟨"WORD", "WORD", "iff", 6, 9⟩)), some (.ok (.finish 9)), none, none] ∧
      ∃ slices : List Slice,
        slices.map Slice.start ++ ["if é iff".utf8ByteSize] = 0 :: slices.map Slice.stop ∧
        (∀ s ∈ slices, s.start < s.stop ∧ s.IsRead t "if é iff".toList) ∧
        ∀ n, (t.scanRecovering "if é iff").answer n =
          (slices.flatMap Slice.lexemes ++ [.ok (.finish "if é iff".utf8ByteSize)])[n]? := by
  have hanswers : (ofLexicon words).toOption.map
      (fun t => (List.range 6).map (t.scanRecovering "if é iff").answer) =
        some [some (.ok (.token ⟨"IF", "IF", "if", 0, 2⟩)), some (.error (.noMatch 3 'é')),
          some (.ok (.token ⟨"WORD", "WORD", "iff", 6, 9⟩)), some (.ok (.finish 9)), none,
          none] := by decide +kernel
  cases ht : ofLexicon words with
  | error e =>
    rw [ht] at hanswers
    cases hanswers
  | ok t =>
    rw [ht] at hanswers
    have hfits := fits_ofLexicon ht
    exact ⟨t, rfl, hfits, Option.some.inj hanswers, scanRecovering_tiles hfits "if é iff"⟩

end Tokenizer

end TopDown
