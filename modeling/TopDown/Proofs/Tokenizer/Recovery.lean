import TopDown.Proofs.Session
import TopDown.Proofs.Tokenizer.Tiling

/-!
# Halting and recovering scanners agree

* `Tokenizer.Reads.lexemes_recovering_finish`, `Tokenizer.Reads.lexemes_recovering_error` : what a
  scanner yields that goes on behind an error;
* `upToError` : a stream up to and including its first error; `Tokenizer.lexemes_upToError` : this
  is what a scanner yields that halts there;
* `Tokenizer.exists_skipped` : the characters that are passed over, at ascending offsets;
* `Json.field?_numbered` : a list as an object whose keys are its positions;
* `Tokenizer.scan_agrees_scanRecovering` : the two ways to read an input, and the table of what is
  read and of what is passed over.
-/

namespace TopDown

open Text

/-! ## Streams up to an error -/

/-- What a stream yields up to and including its first error. -/
def upToError : List Pull → List Pull
  | [] => []
  | .ok l :: ps => .ok l :: upToError ps
  | .error e :: _ => [.error e]

/-- The answers before the first error and that error stay, and none comes after it. -/
theorem getElem?_upToError (ps : List Pull) (n : Nat) :
    ((∀ k < n, ∀ e, ps[k]? ≠ some (.error e)) → (upToError ps)[n]? = ps[n]?) ∧
      ((∃ k < n, ∃ e, ps[k]? = some (.error e)) → (upToError ps)[n]? = none) := by
  fun_induction upToError ps generalizing n with
  | case1 => simp
  | case2 l ps ih =>
    cases n with
    | zero => simp
    | succ n =>
      obtain ⟨hkept, hcut⟩ := ih n
      constructor
      · intro h
        exact hkept fun k hk e => h (k + 1) (by omega) e
      · rintro ⟨k, hk, e, he⟩
        cases k with
        | zero => cases he
        | succ k => exact hcut ⟨k, by omega, e, he⟩
  | case3 e ps =>
    cases n with
    | zero => simp
    | succ n =>
      constructor
      · intro h
        exact absurd rfl (h 0 (Nat.succ_pos n) e)
      · intro _
        rfl

theorem upToError_pulls (tokens : List Token) (ps : List Pull) :
    upToError (Token.pulls tokens ++ ps) = Token.pulls tokens ++ upToError ps := by
  induction tokens with
  | nil => rfl
  | cons token tokens ih => exact congrArg (.ok (.token token) :: ·) ih

/-! ## The parts of a stream -/

/-- The tokens of a stream. -/
def tokensOf (ps : List Pull) : List Token :=
  ps.filterMap fun
    | .ok (.token t) => some t
    | _ => none

/-- The errors of a stream. -/
def errorsOf (ps : List Pull) : List LexError :=
  ps.filterMap fun
    | .error e => some e
    | _ => none

theorem tokensOf_pulls (tokens : List Token) (ps : List Pull) :
    tokensOf (Token.pulls tokens ++ ps) = tokens ++ tokensOf ps := by
  rw [tokensOf, List.filterMap_append, Token.pulls, List.filterMap_map]
  exact congrArg (· ++ _) List.filterMap_some

theorem errorsOf_pulls (tokens : List Token) (ps : List Pull) :
    errorsOf (Token.pulls tokens ++ ps) = errorsOf ps := by
  rw [errorsOf, List.filterMap_append, Token.pulls, List.filterMap_map]
  exact congrArg (· ++ _) (List.filterMap_eq_nil_iff.2 fun _ _ => rfl)

namespace Tokenizer

variable {t : Tokenizer} {offset n : Nat} {rest : List Char} {tokens : List Token} {c : Char}

theorem tokenizeLossy_eq (t : Tokenizer) (input : String) :
    t.tokenizeLossy input =
      (tokensOf (t.scanRecovering input).lexemes, errorsOf (t.scanRecovering input).lexemes) := rfl

/-! ## Recovering scanners -/

/-- Up to the end of a text both scanners yield the same. -/
theorem Reads.lexemes_recovering_finish (h : t.Reads offset rest tokens (.ok (.finish n))) :
    (⟨t, true, offset, rest, false⟩ : Scanner).lexemes =
      Token.pulls tokens ++ [.ok (.finish n)] := by
  generalize hlast : (.ok (.finish n) : Pull) = last at h
  induction h with
  | finish => exact Scanner.lexemes_nil
  | noMatch => cases hlast
  | separator hm hterminal _ ih => rw [Scanner.lexemes_of_separator hm hterminal, ih hlast]
  | token hm hterminal _ ih => rw [Scanner.lexemes_of_token hm hterminal, ih hlast]; rfl

/-- Behind a character that nothing matches a recovering scanner starts anew. -/
theorem Reads.lexemes_recovering_error (h : t.Reads offset rest tokens (.error (.noMatch n c))) :
    ∃ behind, behind.length < rest.length ∧
      (⟨t, true, offset, rest, false⟩ : Scanner).lexemes =
        Token.pulls tokens ++ .error (.noMatch n c) ::
          (⟨t, true, n + c.utf8Size, behind, false⟩ : Scanner).lexemes := by
  generalize hlast : (.error (.noMatch n c) : Pull) = last at h
  induction h with
  | finish => cases hlast
  | @noMatch offset c cs hm =>
    cases hlast
    exact ⟨cs, Nat.lt_succ_self _, Scanner.lexemes_of_noMatch hm⟩
  | @separator offset c cs m _ _ hm hterminal _ ih =>
    obtain ⟨behind, hlength, hlexemes⟩ := ih hlast
    rw [List.length_drop] at hlength
    refine ⟨behind, by omega, ?_⟩
    rw [Scanner.lexemes_of_separator hm hterminal, hlexemes]
  | @token offset c cs m _ _ _ hm hterminal _ ih =>
    obtain ⟨behind, hlength, hlexemes⟩ := ih hlast
    rw [List.length_drop] at hlength
    refine ⟨behind, by omega, ?_⟩
    rw [Scanner.lexemes_of_token hm hterminal, hlexemes]
    rfl

/-- A scanner that halts at errors yields what a recovering one does up to its first error. -/
theorem lexemes_upToError (t : Tokenizer) (offset : Nat) (rest : List Char) :
    (⟨t, false, offset, rest, false⟩ : Scanner).lexemes =
      upToError (⟨t, true, offset, rest, false⟩ : Scanner).lexemes := by
  obtain ⟨tokens, last, hreads⟩ := exists_reads t offset rest
  rw [hreads.lexemes]
  rcases hreads.last_eq with ⟨n, rfl⟩ | ⟨n, c, rfl⟩
  · rw [hreads.lexemes_recovering_finish, upToError_pulls]
    rfl
  · obtain ⟨behind, -, hlexemes⟩ := hreads.lexemes_recovering_error
    rw [hlexemes, upToError_pulls]
    rfl

/-- The errors of a recovering scanner are characters that nothing matches, each behind the one
before it. The induction is on what is left of the input, from one error to the next. -/
theorem exists_skipped (t : Tokenizer) (offset : Nat) (rest : List Char) :
    ∃ skipped : List (Nat × Char),
      errorsOf (⟨t, true, offset, rest, false⟩ : Scanner).lexemes =
        skipped.map (fun s => .noMatch s.1 s.2) ∧
      (∀ s ∈ skipped, offset ≤ s.1) ∧ skipped.Pairwise (·.1 < ·.1) := by
  induction hlength : rest.length using Nat.strongRecOn generalizing offset rest with
  | ind k ih =>
    obtain ⟨tokens, last, hreads⟩ := exists_reads t offset rest
    rcases hreads.last_eq with ⟨n, rfl⟩ | ⟨n, c, rfl⟩
    · refine ⟨[], ?_, by simp, .nil⟩
      rw [hreads.lexemes_recovering_finish, errorsOf_pulls]
      rfl
    · obtain ⟨behind, hbehind, hlexemes⟩ := hreads.lexemes_recovering_error
      obtain ⟨skipped, herrors, hle, hascending⟩ :=
        ih behind.length (hlength ▸ hbehind) (n + c.utf8Size) behind rfl
      have hsize := Char.utf8Size_pos c
      have hstart : offset ≤ n := hreads.start_lt.1
      refine ⟨(n, c) :: skipped, ?_, ?_, .cons ?_ hascending⟩
      · rw [hlexemes, errorsOf_pulls, List.map_cons, ← herrors]
        rfl
      · intro s hs
        rcases List.mem_cons.1 hs with rfl | hs
        · exact hstart
        · have := hle s hs
          omega
      · intro s hs
        have := hle s hs
        omega

/-! ## Whole inputs -/

variable {input : String}

/-- An input without errors is read alike by both. -/
theorem tokenizeLossy_of_ok (h : t.tokenize input = .ok tokens) :
    t.tokenizeLossy input = (tokens, []) := by
  obtain ⟨hreads, -⟩ := scan_of_tokenize h
  rw [tokenizeLossy_eq, scanRecovering, hreads.lexemes_recovering_finish, tokensOf_pulls,
    errorsOf_pulls]
  exact congrArg (·, []) (List.append_nil tokens)

/-- The error at which one reading stops is the first that the other passes over. -/
theorem tokenizeLossy_of_error {e : LexError} (h : t.tokenize input = .error e) :
    (t.tokenizeLossy input).2.head? = some e := by
  obtain ⟨tokens, n, c, rfl, hreads, -⟩ := scan_of_error h
  obtain ⟨behind, -, hlexemes⟩ := hreads.lexemes_recovering_error
  rw [tokenizeLossy_eq, scanRecovering, hlexemes, errorsOf_pulls]
  rfl

theorem tokenize_eq_ok_iff : t.tokenize input = .ok tokens ↔
    t.tokenizeLossy input = (tokens, []) := by
  refine ⟨tokenizeLossy_of_ok, fun h => ?_⟩
  cases htokenize : t.tokenize input with
  | ok tokens' =>
    rw [tokenizeLossy_of_ok htokenize] at h
    rw [(Prod.mk.inj h).1]
  | error e =>
    have hfirst := tokenizeLossy_of_error htokenize
    rw [h] at hfirst
    cases hfirst

theorem tokenize_eq_error_iff {e : LexError} : t.tokenize input = .error e ↔
    (t.tokenizeLossy input).2.head? = some e := by
  refine ⟨tokenizeLossy_of_error, fun h => ?_⟩
  cases htokenize : t.tokenize input with
  | ok tokens =>
    rw [tokenizeLossy_of_ok htokenize] at h
    cases h
  | error e' =>
    rw [tokenizeLossy_of_error htokenize] at h
    rw [Option.some.inj h]

end Tokenizer

/-! ## Token tables -/

namespace Json

theorem toString_injective : Function.Injective (toString : Nat → String) := by
  intro m n h
  have hdigits : Nat.toDigits 10 m = Nat.toDigits 10 n := by
    rw [← Nat.toList_repr, ← Nat.toList_repr, ← Nat.toString_eq_repr, ← Nat.toString_eq_repr, h]
  calc
    m = Nat.ofDigitChars 10 (Nat.toDigits 10 m) 0 := Nat.ofDigitChars_ten_toDigits.symm
    _ = Nat.ofDigitChars 10 (Nat.toDigits 10 n) 0 := by rw [hdigits]
    _ = n := Nat.ofDigitChars_ten_toDigits

/-- The fields of a list as an object are its items, under their positions. -/
theorem field?_numbered {items : List Json} {name : String} {j : Json} :
    (numbered items).field? name = some j ↔
      ∃ i : Nat, name = toString i ∧ items[i]? = some j := by
  have hkeys : ((items.zipIdx.map fun x => (toString x.2, x.1)).map Prod.fst).Nodup := by
    have hpositions : (items.zipIdx.map fun x => (toString x.2, x.1)).map Prod.fst =
        (List.range' 0 items.length).map toString := by
      rw [List.map_map, ← List.zipIdx_map_snd 0 items, List.map_map]
      rfl
    rw [hpositions]
    exact List.Nodup.map toString_injective List.nodup_range'
  rw [numbered, field?_sorted hkeys, List.mem_map]
  simp only [Prod.exists, Prod.mk.injEq, List.mem_zipIdx_iff_getElem?]
  constructor
  · rintro ⟨item, i, hitem, rfl, rfl⟩
    exact ⟨i, rfl, hitem⟩
  · rintro ⟨i, rfl, hitem⟩
    exact ⟨j, i, hitem, rfl, rfl⟩

end Json

namespace TokenTable

/-- An entry of a token holds its kind and its text. -/
theorem tokenJson_eq (token : Token) :
    tokenJson token = .object [("text", .string token.text), ("type", .string token.kind)] := by
  simp [tokenJson, Json.sorted, List.mergeSort]

/-- An entry of a character that was passed over holds the character and where it stands. -/
theorem skippedJson_eq (s : Nat × Char) :
    skippedJson s =
      .object [("character", .string (String.singleton s.2)), ("offset", .nat s.1)] := by
  simp [skippedJson, Json.sorted, List.mergeSort]

end TokenTable

namespace Tokenizer

open TokenTable (skippedJson skippedJson_eq tokenJson tokenJson_eq)

/-- The table of what a tokenizer reads lists the tokens under their positions and the characters
that were passed over in their order. -/
theorem field?_tokenTable {t : Tokenizer} {input : String} {skipped : List (Nat × Char)}
    (h : (t.tokenizeLossy input).2 = skipped.map fun s => .noMatch s.1 s.2) (x : Lexicon) :
    (Lexer.tokenTable ⟨x, t⟩ input).toJson.field? "tokens" =
        some (.numbered ((t.tokenizeLossy input).1.map tokenJson)) ∧
      (Lexer.tokenTable ⟨x, t⟩ input).toJson.field? "skipped" =
        some (.array (skipped.map skippedJson)) := by
  have htable : Lexer.tokenTable ⟨x, t⟩ input =
      ⟨x.rules, (t.tokenizeLossy input).1, skipped⟩ := by
    change TokenTable.mk x.rules (t.tokenizeLossy input).1
      ((t.tokenizeLossy input).2.filterMap _) = _
    rw [h, List.filterMap_map]
    exact congrArg _ List.filterMap_some
  have hkeys (a b c : Json) :
      (([("tokentypes", a), ("tokens", b), ("skipped", c)] : List (String × Json)).map
        Prod.fst).Nodup := by simp
  rw [htable, TokenTable.toJson, Json.field?_sorted (hkeys ..), Json.field?_sorted (hkeys ..)]
  simp

/-- A scanner that halts answers like one that recovers, up to the first error and with nothing
behind it. So an input has tokens if and only if nothing is passed over in it, and these are the
tokens; otherwise it fails with the first of the errors, which stand at ascending offsets. The token
table lists just these tokens, each under its position, and just these errors in their order. -/
theorem scan_agrees_scanRecovering (t : Tokenizer) (input : String) :
    (∀ n, ((∀ k < n, ∀ e, (t.scanRecovering input).answer k ≠ some (.error e)) →
          (t.scan input).answer n = (t.scanRecovering input).answer n) ∧
        ((∃ k < n, ∃ e, (t.scanRecovering input).answer k = some (.error e)) →
          (t.scan input).answer n = none)) ∧
      (∀ tokens, t.tokenize input = .ok tokens ↔ t.tokenizeLossy input = (tokens, [])) ∧
      (∀ e, t.tokenize input = .error e ↔ (t.tokenizeLossy input).2.head? = some e) ∧
      ∃ skipped : List (Nat × Char),
        (t.tokenizeLossy input).2 = skipped.map (fun s => .noMatch s.1 s.2) ∧
        skipped.Pairwise (·.1 < ·.1) ∧
        ∀ x : Lexicon,
          (Lexer.tokenTable ⟨x, t⟩ input).toJson.field? "skipped" =
            some (.array (skipped.map fun s =>
              .object [("character", .string (String.singleton s.2)), ("offset", .nat s.1)])) ∧
          ∃ tokens, (Lexer.tokenTable ⟨x, t⟩ input).toJson.field? "tokens" = some tokens ∧
            ∀ key j, tokens.field? key = some j ↔
              ∃ (i : Nat) (token : Token), (t.tokenizeLossy input).1[i]? = some token ∧
                key = toString i ∧
                j = .object [("text", .string token.text), ("type", .string token.kind)] := by
  refine ⟨fun n => ?_, fun tokens => tokenize_eq_ok_iff, fun e => tokenize_eq_error_iff, ?_⟩
  · have hscan : (t.scan input).lexemes = upToError (t.scanRecovering input).lexemes :=
      lexemes_upToError t 0 input.toList
    simp only [Scanner.answer_eq, hscan]
    exact getElem?_upToError _ n
  · obtain ⟨skipped, herrors, -, hascending⟩ := exists_skipped t 0 input.toList
    refine ⟨skipped, herrors, hascending, fun x => ?_⟩
    obtain ⟨htokens, hskipped⟩ := field?_tokenTable herrors x
    simp only [← skippedJson_eq, ← tokenJson_eq]
    refine ⟨hskipped, _, htokens, fun key j => ?_⟩
    rw [Json.field?_numbered]
    simp only [List.getElem?_map, Option.map_eq_some_iff]
    constructor
    · rintro ⟨i, hkey, token, htoken, rfl⟩
      exact ⟨i, token, htoken, hkey, rfl⟩
    · rintro ⟨i, token, htoken, hkey, rfl⟩
      exact ⟨i, hkey, token, htoken, rfl⟩

/-- In `if é iff` one scanner goes on behind the accented letter, and the other never answers
again. The table lists `iff` as the second token and the letter as what was passed over. -/
theorem scan_agrees_scanRecovering_words :
    ∃ t, ofLexicon words = .ok t ∧
      (t.scanRecovering "if é iff").answer 1 = some (.error (.noMatch 3 'é')) ∧
      (t.tokenizeLossy "if é iff").2.head? = some (.noMatch 3 'é') ∧
      t.tokenize "if é iff" = .error (.noMatch 3 'é') ∧
      (∀ n, 1 < n → (t.scan "if é iff").answer n = none) ∧
      ((Lexer.tokenTable ⟨words, t⟩ "if é iff").toJson.field? "tokens").bind (·.field? "1") =
        some (.object [("text", .string "iff"), ("type", .string "WORD")]) ∧
      (Lexer.tokenTable ⟨words, t⟩ "if é iff").toJson.field? "skipped" =
        some (.array [.object [("character", .string "é"), ("offset", .number "3")]]) := by
  have hread : (ofLexicon words).toOption.map (fun t =>
      ((t.scanRecovering "if é iff").answer 1,
        (t.tokenizeLossy "if é iff").1[1]?.map (fun token => (token.kind, token.text)),
        (t.tokenizeLossy "if é iff").2)) =
          some (some (.error (.noMatch 3 'é')), some ("WORD", "iff"), [.noMatch 3 'é']) := by
    decide +kernel
  cases ht : ofLexicon words with
  | error e =>
    rw [ht] at hread
    cases hread
  | ok t =>
    rw [ht] at hread
    obtain ⟨hanswer, hrest⟩ := Prod.mk.inj (Option.some.inj hread)
    obtain ⟨hsecond, herrors⟩ := Prod.mk.inj hrest
    obtain ⟨token, htoken, hentry⟩ := Option.map_eq_some_iff.1 hsecond
    obtain ⟨hkind, htext⟩ := Prod.mk.inj hentry
    obtain ⟨hanswers, -, herror, skipped, hskipped, -, htable⟩ :=
      scan_agrees_scanRecovering t "if é iff"
    have hfirst : (t.tokenizeLossy "if é iff").2.head? = some (.noMatch 3 'é') := by
      rw [herrors]
      rfl
    obtain ⟨htableSkipped, tokens, htokens, hfields⟩ := htable words
    refine ⟨t, rfl, hanswer, hfirst, (herror _).2 hfirst,
      fun n hn => (hanswers n).2 ⟨1, hn, _, hanswer⟩, ?_, ?_⟩
    · rw [htokens]
      exact (hfields _ _).2 ⟨1, token, htoken, rfl, by rw [hkind, htext]⟩
    · have hone : skipped = [(3, 'é')] := by
        have hpairs := congrArg (List.filterMap fun | .noMatch o c => some (o, c) | _ => none)
          (hskipped.symm.trans herrors)
        rw [List.filterMap_map] at hpairs
        exact List.filterMap_some.symm.trans hpairs
      rw [htableSkipped, hone]
      rfl

end Tokenizer

end TopDown
