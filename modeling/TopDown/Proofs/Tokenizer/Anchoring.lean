import TopDown.Lexicon.File
import TopDown.Proofs.Pattern.Anchored
import TopDown.Proofs.Pattern.Enclosed
import TopDown.Proofs.Tokenizer.Recovery

/-!
# Matches begin where the text does

A rule's pattern is put into a group behind an anchor before it is read. The group holds the pattern
as it is, unless a closing parenthesis in it closes the group.

* `Pattern.compileText?_eq` : what a pattern compiles to by itself;
* `Pattern.compile?_eq_some` : what is compiled for a pattern that does not stray is the pattern's
  own program, anchored;
* `Rule.IsAnchored` : the pattern of a rule is one by itself, and the match that is found in a text
  is that of the pattern at its start;
* `Tokenizer.exists_match_of_mem` : a token is a match of its rule's pattern;
* `Tokenizer.isAnchored_iff_not_strays` : which rules of a tokenizer are anchored, and what the
  tokens of these are;
* `Tokenizer.strayed` : a rule that is not.
-/

namespace TopDown

open Text

namespace Pattern

theorem toList_anchoredText (pattern : String) :
    (anchoredText pattern).toList = "^(?:".toList ++ (pattern.toList ++ [')']) := by
  rw [anchoredText, String.toList_append, String.toList_append, List.append_assoc]
  rfl

/-- A pattern compiles on its own if it can be read and its automata are within the limit. -/
theorem compileText?_eq (text : String) : compileText? text =
    (Expr.read? text.toList).bind fun e => if e.fits then some (Program.ofExpr e) else none := by
  rw [compileText?, Expr.parse?_eq_read?]
  cases Expr.read? text.toList with
  | none => rfl
  | some e => cases hfits : e.fits <;> simp [Option.filter, hfits]

theorem compile?_eq_some {pattern : String} {p : Program} (h : compile? pattern = some p)
    (hs : ¬ Strays pattern.toList) :
    ∃ e, Expr.read? pattern.toList = some e ∧ p = (Program.ofExpr e).anchored := by
  unfold compile? compileText? at h
  rw [toList_anchoredText] at h
  obtain ⟨e, he, rfl⟩ := Option.map_eq_some_iff.1 h
  obtain ⟨inner, hinner, rfl⟩ := Expr.parse?_anchored he hs
  exact ⟨inner, hinner, Program.ofExpr_sequence_start inner⟩

end Pattern

open Pattern (Expr Program Strays compile? compileText? compileText?_eq)

/-- The pattern of the rule is by itself one for `e`, and in every text the match that is found
begins at the start and is that of `e` there. How much space a pattern may take is not part of
being one, so by itself it compiles only if `e` fits. -/
structure Rule.IsAnchored (r : Rule) (e : Expr) : Prop where
  read : Expr.read? r.pattern.toList = some e
  alone : compileText? r.pattern = if e.fits then some (Program.ofExpr e) else none
  search : ∃ p, compile? r.pattern = some p ∧ ∀ text : List Char,
    p.findFrom none 0 text = p.find text ∧
      p.spanFrom none 0 text = (p.find text).map (0, ·) ∧
      p.find text = (Program.ofExpr e).matchAt none 0 text

theorem Rule.isAnchored_iff {r : Rule} {p : Program} (h : compile? r.pattern = some p) :
    (∃ e, r.IsAnchored e) ↔ ¬ Strays r.pattern.toList := by
  constructor
  · rintro ⟨e, hread, -, -⟩ hs
    rw [Expr.read?_eq_none hs] at hread
    cases hread
  · intro hs
    obtain ⟨e, hread, rfl⟩ := Pattern.compile?_eq_some h hs
    refine ⟨e, hread, by rw [compileText?_eq, hread, Option.bind_some], _, h, fun text =>
      ⟨Program.findFrom_anchored _ text, ?_, Program.find_anchored _ text⟩⟩
    rw [Program.spanFrom_anchored, Program.find_anchored]

/-! ## Tokens -/

namespace Tokenizer

theorem exists_rule_of_mem {x : Lexicon} {t : Tokenizer} {m : Matcher} (h : ofLexicon x = .ok t)
    (hm : m ∈ t) : ∃ r ∈ x.scannedRules, ∃ p, compile? r.pattern = some p ∧
      m = ⟨r.name, r.terminal?, r.priority, p.find⟩ := by
  obtain ⟨r, hr, hmatcher⟩ := exists_of_mem_right (mapM_eq_ok.1 h) hm
  unfold matcherOf at hmatcher
  split at hmatcher
  · rename_i find hfind
    obtain ⟨p, hp, rfl⟩ := Option.map_eq_some_iff.1 hfind
    exact ⟨r, hr, p, hp, (Except.ok.inj hmatcher).symm⟩
  · cases hmatcher

theorem exists_program_of_mem {x : Lexicon} {t : Tokenizer} {r : Rule} (h : ofLexicon x = .ok t)
    (hr : r ∈ x.scannedRules) : ∃ p, compile? r.pattern = some p := by
  obtain ⟨m, -, hmatcher⟩ := exists_of_mem_right (mapM_eq_ok.1 h).flip hr
  unfold matcherOf at hmatcher
  split at hmatcher
  · rename_i find hfind
    obtain ⟨p, hp, -⟩ := Option.map_eq_some_iff.1 hfind
    exact ⟨p, hp⟩
  · cases hmatcher

/-- What a scanner yields that halts at errors is yielded too by one that recovers. -/
theorem mem_of_mem_upToError {l : Lexeme} {ps : List Pull} (h : .ok l ∈ upToError ps) :
    .ok l ∈ ps := by
  fun_induction upToError ps with
  | case1 => exact h
  | case2 l' ps ih =>
    rcases List.mem_cons.1 h with h | h
    · exact List.mem_cons.2 (.inl h)
    · exact List.mem_cons_of_mem _ (ih h)
  | case3 e ps => simp at h

/-- A slice that yields a token is won by the token's rule, and its text is that of the token. -/
theorem exists_winner_of_mem {s : Slice} {token : Token} (h : .ok (.token token) ∈ s.lexemes) :
    ∃ m terminal, s.winner = some m ∧ m.terminal = some terminal ∧
      token = ⟨m.name, terminal, String.ofList s.text, s.start, s.stop⟩ := by
  unfold Slice.lexemes at h
  split at h
  · simp at h
  · rename_i m hm
    split at h
    · cases h
    · rename_i terminal hterminal
      cases List.mem_singleton.1 h
      exact ⟨m, terminal, hm, hterminal, rfl⟩

/-- A token is the match of its rule in front of what is left of the input. -/
theorem exists_match_of_mem {t : Tokenizer} {input : String} {token : Token} (ht : t.Fits)
    (h : .ok (.token token) ∈ (t.scanRecovering input).lexemes) :
    ∃ m ∈ t, token.kind = m.name ∧ m.terminal = some token.terminal ∧
      ∃ before behind, input.toList = before ++ token.text.toList ++ behind ∧
        token.start = byteSize before ∧
        m.find (token.text.toList ++ behind) = some token.text.toList.length := by
  obtain ⟨slices, -, hread, hlexemes⟩ := exists_tiles ht [] input.toList
  have hmem : .ok (.token token) ∈
      (⟨t, true, byteSize [], input.toList, false⟩ : Scanner).lexemes := h
  rw [hlexemes, List.mem_append, List.mem_flatMap] at hmem
  rcases hmem with ⟨s, hs, htoken⟩ | hfinish
  · obtain ⟨m, terminal, hm, hterminal, rfl⟩ := exists_winner_of_mem htoken
    obtain ⟨-, before, behind, hinput, hstart, -, htaken⟩ := hread s hs
    unfold Slice.IsTaken at htaken
    rw [hm] at htaken
    obtain ⟨i, hi, hfind, -⟩ := htaken
    refine ⟨m, List.mem_of_getElem? hi, rfl, hterminal, before, behind, ?_, hstart, ?_⟩
    · rw [String.toList_ofList]
      exact hinput
    · rw [String.toList_ofList]
      exact hfind
  · simp at hfinish

/-- Of a tokenizer that is made, a rule is anchored if and only if its pattern does not stray. Then
its pattern is by itself well formed, in every text the match that is found begins at the start, and
every token of the rule is what the pattern by itself matches from the token's first byte on. -/
theorem isAnchored_iff_not_strays {x : Lexicon} {t : Tokenizer} (h : ofLexicon x = .ok t) :
    (∀ r ∈ x.scannedRules, (∃ e, r.IsAnchored e) ↔ ¬ Strays r.pattern.toList) ∧
      ∀ (input : String) (token : Token),
        (.ok (.token token) ∈ (t.scan input).lexemes ∨
          .ok (.token token) ∈ (t.scanRecovering input).lexemes) →
        ∃ r ∈ x.scannedRules, token.kind = r.name ∧ r.terminal? = some token.terminal ∧
          (¬ Strays r.pattern.toList → ∃ e, r.IsAnchored e ∧
            ∃ before behind, input.toList = before ++ token.text.toList ++ behind ∧
              token.start = byteSize before ∧
              (Program.ofExpr e).matchAt none 0 (token.text.toList ++ behind) =
                some token.text.toList.length) := by
  refine ⟨fun r hr => ?_, fun input token htoken => ?_⟩
  · obtain ⟨p, hp⟩ := exists_program_of_mem h hr
    exact Rule.isAnchored_iff hp
  · have hmem : .ok (.token token) ∈ (t.scanRecovering input).lexemes := by
      rcases htoken with htoken | htoken
      · have hscan : (t.scan input).lexemes = upToError (t.scanRecovering input).lexemes :=
          lexemes_upToError t 0 input.toList
        rw [hscan] at htoken
        exact mem_of_mem_upToError htoken
      · exact htoken
    obtain ⟨m, hm, hkind, hterminal, before, behind, hinput, hstart, hfind⟩ :=
      exists_match_of_mem (fits_ofLexicon h) hmem
    obtain ⟨r, hr, p, hp, rfl⟩ := exists_rule_of_mem h hm
    refine ⟨r, hr, hkind, hterminal, fun hs => ?_⟩
    obtain ⟨e, he⟩ := (Rule.isAnchored_iff hp).2 hs
    obtain ⟨p', hp', hsearch⟩ := he.search
    cases hp.symm.trans hp'
    exact ⟨e, he, before, behind, hinput, hstart, (hsearch _).2.2.symm.trans hfind⟩

/-- The words are anchored, and the last token of `if é iff` is what the pattern of its rule matches
at the sixth byte. -/
theorem isAnchored_iff_not_strays_words :
    ∃ t, ofLexicon words = .ok t ∧ (∀ r ∈ words.scannedRules, ∃ e, r.IsAnchored e) ∧
      ∃ r ∈ words.scannedRules, r.name = "WORD" ∧ ∃ e, r.IsAnchored e ∧
        ∃ before behind, "if é iff".toList = before ++ "iff".toList ++ behind ∧
          byteSize before = 6 ∧
          (Program.ofExpr e).matchAt none 0 ("iff".toList ++ behind) = some 3 := by
  have hread : ∀ r ∈ words.scannedRules, (Expr.read? r.pattern.toList).isSome = true := by
    decide +kernel
  have hstrays (r : Rule) (hr : r ∈ words.scannedRules) : ¬ Strays r.pattern.toList := by
    intro hs
    have hsome := hread r hr
    rw [Expr.read?_eq_none hs] at hsome
    cases hsome
  have hlast : (ofLexicon words).toOption.map
      (fun t => (t.scanRecovering "if é iff").lexemes[2]?) =
        some (some (.ok (.token ⟨"WORD", "WORD", "iff", 6, 9⟩))) := by decide +kernel
  cases ht : ofLexicon words with
  | error e =>
    rw [ht] at hlast
    cases hlast
  | ok t =>
    rw [ht] at hlast
    obtain ⟨hrules, hmatches⟩ := isAnchored_iff_not_strays ht
    obtain ⟨r, hr, hkind, -, hmatch⟩ :=
      hmatches "if é iff" _ (.inr (List.mem_of_getElem? (Option.some.inj hlast)))
    obtain ⟨e, he, before, behind, hinput, hstart, hfind⟩ := hmatch (hstrays r hr)
    exact ⟨t, rfl, fun r hr => (hrules r hr).2 (hstrays r hr), r, hr, hkind.symm, e, he, before,
      behind, hinput, hstart.symm, hfind⟩

/-- A pattern that closes the group around it and opens another one. -/
def strayed : Lexicon := ⟨[⟨"A", "a)|(b", 1, false⟩]⟩

/-- By itself the pattern is none, but in its group it is one. The match that it finds in `xb`
begins at the second character, and the token holds the first one too. -/
theorem strayed_not_anchored :
    (Lexicon.parse "A := \"a)|(b\"\n").toOption = some strayed ∧
      (Expr.read? "a)|(b".toList).isNone = true ∧
      (compile? "a)|(b").map (fun p => (p.spanFrom none 0 "xb".toList, p.find "xb".toList)) =
        some (some (1, 2), some 2) ∧
      (ofLexicon strayed).toOption.map (fun t => (t.tokenize "xb").toOption) =
        some (some [⟨"A", "A", "xb", 0, 2⟩]) := by
  decide +kernel

end Tokenizer

end TopDown
