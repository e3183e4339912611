import TopDown.Tokenizer

/-!
# What a tokenizer reads

* `Scanner.lexemes_nil`, `Scanner.lexemes_of_noMatch`, `Scanner.lexemes_of_separator`,
  `Scanner.lexemes_of_token` : what a scanner yields, by what it meets next;
* `Tokenizer.Reads` : a text from an offset on reads as tokens with one last pull behind them, its
  end or the first character that nothing matches;
* `Tokenizer.exists_reads` : every text does;
* `Tokenizer.Reads.lexemes` : this is what a scanner yields that halts at the first error;
* `Tokenizer.Reads.last_eq`, `Tokenizer.Reads.finish_eq`, `Tokenizer.Reads.start_lt` : what comes
  last, and that the tokens start before it;
* `Tokenizer.scan_of_tokenize`, `Tokenizer.scan_of_error` : the stream of an input by its tokens.
-/

namespace TopDown

open Text

/-! ## Streams -/

/-- Tokens as they come from a stream. -/
def Token.pulls (tokens : List Token) : List Pull := tokens.map fun token => .ok (.token token)

namespace Scanner

theorem lexemes_eq (s : Scanner) :
    s.lexemes =
      match s.next with
      | none => []
      | some (p, s') => p :: s'.lexemes := by
  rw [lexemes]
  split <;> simp only [*]

theorem lexemes_of_done {s : Scanner} (h : s.isDone = true) : s.lexemes = [] := by
  rw [lexemes_eq, next, if_pos h]

theorem lexemes_of_pull (t : Tokenizer) (recovers : Bool) (offset : Nat) (rest : List Char) :
    (⟨t, recovers, offset, rest, false⟩ : Scanner).lexemes =
      (pull t recovers offset rest).1 :: (pull t recovers offset rest).2.lexemes := by
  rw [lexemes_eq]
  rfl

section Step

variable {t : Tokenizer} {recovers : Bool} {offset : Nat} {c : Char} {cs : List Char}

theorem lexemes_nil :
    (⟨t, recovers, offset, [], false⟩ : Scanner).lexemes = [.ok (.finish offset)] := by
  rw [lexemes_of_pull, pull, lexemes_of_done rfl]

/-- A character that nothing matches is reported. -/
theorem lexemes_of_noMatch (h : t.longest? (c :: cs) = none) :
    (⟨t, recovers, offset, c :: cs, false⟩ : Scanner).lexemes =
      .error (.noMatch offset c) ::
        (⟨t, recovers, offset + c.utf8Size, cs, !recovers⟩ : Scanner).lexemes := by
  rw [lexemes_of_pull, pull, h]

/-- A separator is passed over. -/
theorem lexemes_of_separator {m : Match} (h : t.longest? (c :: cs) = some m)
    (hterminal : m.matcher.terminal = none) :
    (⟨t, recovers, offset, c :: cs, false⟩ : Scanner).lexemes =
      (⟨t, recovers, offset + byteSize ((c :: cs).take m.length), (c :: cs).drop m.length,
        false⟩ : Scanner).lexemes := by
  rw [lexemes_of_pull, pull, h]
  simp only [hterminal]
  rw [← lexemes_of_pull]

/-- Any other match is a token. -/
theorem lexemes_of_token {m : Match} {terminal : String} (h : t.longest? (c :: cs) = some m)
    (hterminal : m.matcher.terminal = some terminal) :
    (⟨t, recovers, offset, c :: cs, false⟩ : Scanner).lexemes =
      .ok (.token ⟨m.matcher.name, terminal, String.ofList ((c :: cs).take m.length), offset,
        offset + byteSize ((c :: cs).take m.length)⟩) ::
      (⟨t, recovers, offset + byteSize ((c :: cs).take m.length), (c :: cs).drop m.length,
        false⟩ : Scanner).lexemes := by
  rw [lexemes_of_pull, pull, h]
  simp only [hterminal]

end Step

end Scanner

namespace Tokenizer

/-- A text at an offset reads as these tokens, and then as this pull. -/
inductive Reads (t : Tokenizer) : Nat → List Char → List Token → Pull → Prop
  | finish {offset} : Reads t offset [] [] (.ok (.finish offset))
  | noMatch {offset c cs} : t.longest? (c :: cs) = none →
      Reads t offset (c :: cs) [] (.error (.noMatch offset c))
  | separator {offset c cs m tokens last} : t.longest? (c :: cs) = some m →
      m.matcher.terminal = none →
      Reads t (offset + byteSize ((c :: cs).take m.length)) ((c :: cs).drop m.length) tokens last →
      Reads t offset (c :: cs) tokens last
  | token {offset c cs m terminal tokens last} : t.longest? (c :: cs) = some m →
      m.matcher.terminal = some terminal →
      Reads t (offset + byteSize ((c :: cs).take m.length)) ((c :: cs).drop m.length) tokens last →
      Reads t offset (c :: cs)
        (⟨m.matcher.name, terminal, String.ofList ((c :: cs).take m.length), offset,
          offset + byteSize ((c :: cs).take m.length)⟩ :: tokens) last

variable {t : Tokenizer} {offset : Nat} {rest : List Char} {tokens : List Token} {last : Pull}

/-- Every match takes something off the text, so reading comes to an end. -/
theorem exists_reads (t : Tokenizer) (offset : Nat) (rest : List Char) :
    ∃ tokens last, t.Reads offset rest tokens last := by
  induction hn : rest.length using Nat.strongRecOn generalizing offset rest with
  | ind n ih =>
    cases rest with
    | nil => exact ⟨[], _, .finish⟩
    | cons c cs =>
      cases hm : t.longest? (c :: cs) with
      | none => exact ⟨[], _, .noMatch hm⟩
      | some m =>
        have hpos := m.length_pos
        obtain ⟨tokens, last, hrest⟩ := ih ((c :: cs).drop m.length).length
          (by simp only [List.length_drop, List.length_cons] at hn ⊢; omega)
          (offset + byteSize ((c :: cs).take m.length)) ((c :: cs).drop m.length) rfl
        cases hterminal : m.matcher.terminal with
        | none => exact ⟨tokens, last, .separator hm hterminal hrest⟩
        | some terminal => exact ⟨_, last, .token hm hterminal hrest⟩

/-- A scanner that halts at the first error yields just what is read. -/
theorem Reads.lexemes (h : t.Reads offset rest tokens last) :
    (⟨t, false, offset, rest, false⟩ : Scanner).lexemes = Token.pulls tokens ++ [last] := by
  induction h with
  | finish => exact Scanner.lexemes_nil
  | noMatch hm => rw [Scanner.lexemes_of_noMatch hm, Scanner.lexemes_of_done rfl]; rfl
  | separator hm hterminal _ ih => rw [Scanner.lexemes_of_separator hm hterminal, ih]
  | token hm hterminal _ ih => rw [Scanner.lexemes_of_token hm hterminal, ih]; rfl

/-! ## The last pull -/

/-- A match of one character or more has a size. -/
theorem byteSize_take_pos (c : Char) (cs : List Char) {n : Nat} (hn : 0 < n) :
    0 < byteSize ((c :: cs).take n) := by
  obtain ⟨k, rfl⟩ := Nat.exists_eq_add_one_of_ne_zero (Nat.ne_of_gt hn)
  rw [List.take_succ_cons, byteSize_cons]
  exact Nat.add_pos_left (Char.utf8Size_pos c) _

/-- The end that is read is that of the text. -/
theorem Reads.finish_eq {n : Nat} (h : t.Reads offset rest tokens (.ok (.finish n))) :
    n = offset + byteSize rest := by
  generalize hlast : (.ok (.finish n) : Pull) = last at h
  induction h with
  | finish =>
    cases hlast
    rfl
  | noMatch => cases hlast
  | @separator offset c cs m _ _ _ _ _ ih =>
    rw [ih hlast, Nat.add_assoc, ← byteSize_append, List.take_append_drop]
  | @token offset c cs m _ _ _ _ _ _ ih =>
    rw [ih hlast, Nat.add_assoc, ← byteSize_append, List.take_append_drop]

/-- All tokens start before the character that nothing matches. -/
theorem Reads.start_lt {n : Nat} {character : Char}
    (h : t.Reads offset rest tokens (.error (.noMatch n character))) :
    offset ≤ n ∧ ∀ token ∈ tokens, token.start < n := by
  generalize hlast : (.error (.noMatch n character) : Pull) = last at h
  induction h with
  | finish => cases hlast
  | noMatch =>
    cases hlast
    exact ⟨Nat.le_refl n, fun _ h => absurd h List.not_mem_nil⟩
  | separator _ _ _ ih =>
    obtain ⟨hle, hstart⟩ := ih hlast
    exact ⟨by omega, hstart⟩
  | @token offset c cs m _ _ _ _ _ _ ih =>
    obtain ⟨hle, hstart⟩ := ih hlast
    have hpos := byteSize_take_pos c cs m.length_pos
    refine ⟨by omega, fun token htoken => ?_⟩
    rcases List.mem_cons.1 htoken with rfl | htoken
    · exact Nat.lt_of_lt_of_le (Nat.lt_add_of_pos_right hpos) hle
    · exact hstart token htoken

/-- Nothing but the end or a character without a match comes last. -/
theorem Reads.last_eq (h : t.Reads offset rest tokens last) :
    (∃ n, last = .ok (.finish n)) ∨ ∃ n c, last = .error (.noMatch n c) := by
  induction h with
  | finish => exact .inl ⟨_, rfl⟩
  | noMatch => exact .inr ⟨_, _, rfl⟩
  | separator _ _ _ ih => exact ih
  | token _ _ _ ih => exact ih

/-! ## Whole inputs -/

theorem collect_finish (tokens : List Token) (n : Nat) :
    collect (Token.pulls tokens ++ [.ok (.finish n)]) = .ok tokens := by
  induction tokens with
  | nil => rfl
  | cons token tokens ih =>
    rw [Token.pulls, List.map_cons, List.cons_append, collect, ← Token.pulls, ih]

theorem collect_error (tokens : List Token) (e : LexError) :
    collect (Token.pulls tokens ++ [.error e]) = .error e := by
  induction tokens with
  | nil => rfl
  | cons token tokens ih =>
    rw [Token.pulls, List.map_cons, List.cons_append, collect, ← Token.pulls, ih]

theorem byteSize_toList (s : String) : byteSize s.toList = s.utf8ByteSize := by
  have hofList : ∀ cs : List Char, byteSize cs = (String.ofList cs).utf8ByteSize := by
    intro cs
    induction cs with
    | nil => rfl
    | cons c cs ih =>
      rw [byteSize_cons, ih, String.ofList_cons, String.utf8ByteSize_append,
        String.utf8ByteSize_singleton]
  rw [hofList, String.ofList_toList]

/-- The stream of an input that can be read to its end. -/
theorem scan_of_tokenize {input : String} (h : t.tokenize input = .ok tokens) :
    t.Reads 0 input.toList tokens (.ok (.finish input.utf8ByteSize)) ∧
      (t.scan input).lexemes = Token.pulls tokens ++ [.ok (.finish input.utf8ByteSize)] := by
  obtain ⟨tokens', last, hreads⟩ := exists_reads t 0 input.toList
  have hlexemes : (t.scan input).lexemes = Token.pulls tokens' ++ [last] := hreads.lexemes
  rw [tokenize, hlexemes] at h
  rcases hreads.last_eq with ⟨n, rfl⟩ | ⟨n, c, rfl⟩
  · rw [collect_finish] at h
    cases h
    have hn := hreads.finish_eq
    rw [Nat.zero_add, byteSize_toList] at hn
    rw [← hn]
    exact ⟨hreads, hlexemes⟩
  · rw [collect_error] at h
    cases h

/-- The stream of an input that cannot be read to its end. -/
theorem scan_of_error {input : String} {e : LexError} (h : t.tokenize input = .error e) :
    ∃ tokens n c, e = .noMatch n c ∧ t.Reads 0 input.toList tokens (.error e) ∧
      (t.scan input).lexemes = Token.pulls tokens ++ [.error e] := by
  obtain ⟨tokens, last, hreads⟩ := exists_reads t 0 input.toList
  have hlexemes : (t.scan input).lexemes = Token.pulls tokens ++ [last] := hreads.lexemes
  rw [tokenize, hlexemes] at h
  rcases hreads.last_eq with ⟨n, rfl⟩ | ⟨n, c, rfl⟩
  · rw [collect_finish] at h
    cases h
  · rw [collect_error] at h
    cases h
    exact ⟨tokens, n, c, rfl, hreads, hlexemes⟩

end Tokenizer

end TopDown
