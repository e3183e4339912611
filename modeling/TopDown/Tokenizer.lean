import TopDown.Lexicon.Basic
import TopDown.Pattern.Search
import TopDown.Text.Bytes
import TopDown.Token

/-!
# Tokenizers

A tokenizer reads input by the longest match. Nothing is assumed of how a matcher finds its match,
and a lexicon can be used with any engine for its patterns.

* `Matcher` : a scanned rule, as a function from a text to the length of its match;
* `Tokenizer.longest?` : the winning match at the start of a text. The longest non-empty match
  wins; equal lengths go to the lower priority, then to the earlier rule;
* `Scanner` : a place in an input. `Scanner.next` passes over separators to the next lexeme;
* `Scanner.lexemes` : all that a scanner yields;
* `Tokenizer.scan`, `Tokenizer.scanRecovering` : a scanner that halts at the first character without
  a match, and one that reports it and goes on;
* `Tokenizer.tokenize`, `Tokenizer.tokenizeLossy` : the tokens of an input.
-/

namespace TopDown

open Text

/-- A rule that takes part in reading input. -/
structure Matcher where
  name : String
  /-- The terminal of its tokens; none for a separator. -/
  terminal : Option String
  priority : Nat
  /-- How many characters the rule's match takes off a text, if it matches. -/
  find : List Char → Option Nat

/-- Matchers in rule order. -/
abbrev Tokenizer := List Matcher

/-- A non-empty match. -/
structure Match where
  matcher : Matcher
  length : Nat
  length_pos : 0 < length

/-- Whether `m` wins over an earlier match `best`. -/
def Match.beats (m best : Match) : Bool :=
  best.length < m.length ||
    (m.length == best.length && m.matcher.priority < best.matcher.priority)

/-- The match of one rule at the start of a text, unless it is empty. -/
def Matcher.match? (m : Matcher) (rest : List Char) : Option Match :=
  match m.find rest with
  | some n => if h : 0 < n then some ⟨m, n, h⟩ else none
  | none => none

namespace Tokenizer

/-- The matcher of a scanned rule. -/
def matcherOf (r : Rule) (engine : Pattern.Engine := Pattern.engine) : Except LexError Matcher :=
  match engine (Pattern.anchoredText r.pattern) with
  | some find => .ok ⟨r.name, r.terminal?, r.priority, find⟩
  | none => .error (.invalidPattern r.name r.pattern)

/-- The tokenizer of a lexicon, unless one of its scanned patterns is malformed. -/
def ofLexicon (x : Lexicon) (engine : Pattern.Engine := Pattern.engine) :
    Except LexError Tokenizer := x.scannedRules.mapM (matcherOf · engine)

/-- The winning match at the start of `rest`. -/
def longest? (t : Tokenizer) (rest : List Char) : Option Match :=
  (t.filterMap (·.match? rest)).foldl
    (fun best m =>
      match best with
      | none => some m
      | some b => if m.beats b then some m else some b)
    none

end Tokenizer

/-- A place in an input that is being read. -/
structure Scanner where
  tokenizer : Tokenizer
  /-- Whether to go on behind a character that no rule matches. -/
  recovers : Bool
  /-- The byte offset of what is left. -/
  offset : Nat
  /-- What is left of the input. -/
  rest : List Char
  /-- Nothing more is yielded. -/
  isDone : Bool := false

namespace Scanner

/-- The next lexeme or error from here on, and the scanner behind it. Separators are passed over. -/
def pull (tokenizer : Tokenizer) (recovers : Bool) (offset : Nat) (rest : List Char) :
    Pull × Scanner :=
  match rest with
  | [] => (.ok (.finish offset), ⟨tokenizer, recovers, offset, [], true⟩)
  | c :: cs =>
    match tokenizer.longest? (c :: cs) with
    | none =>
      (.error (.noMatch offset c),
        ⟨tokenizer, recovers, offset + c.utf8Size, cs, !recovers⟩)
    | some m =>
      let text := (c :: cs).take m.length
      let stop := offset + byteSize text
      have := m.length_pos
      match m.matcher.terminal with
      | none => pull tokenizer recovers stop ((c :: cs).drop m.length)
      | some terminal =>
        (.ok (.token ⟨m.matcher.name, terminal, String.ofList text, offset, stop⟩),
          ⟨tokenizer, recovers, stop, (c :: cs).drop m.length, false⟩)
termination_by rest.length
decreasing_by
  simp only [List.length_drop, List.length_cons]
  omega

/-- The next lexeme or error and the scanner behind it, unless the scanner is done. -/
def next (s : Scanner) : Option (Pull × Scanner) :=
  if s.isDone then none else some (pull s.tokenizer s.recovers s.offset s.rest)

/-- How much a scanner can still yield. -/
def fuel (s : Scanner) : Nat := if s.isDone then 0 else s.rest.length + 1

theorem fuel_pull (t : Tokenizer) (r : Bool) (offset : Nat) (rest : List Char) :
    (pull t r offset rest).2.fuel < rest.length + 1 := by
  fun_induction pull t r offset rest with
  | case1 => simp [fuel]
  | case2 offset c cs => cases r <;> simp [fuel]
  | case3 offset c cs m _ _ _ hpos _ ih =>
    simp only [List.length_drop, List.length_cons] at ih ⊢
    omega
  | case4 offset c cs m _ _ _ hpos =>
    simp only [fuel, List.length_drop, List.length_cons, Bool.false_eq_true, if_false]
    omega

theorem fuel_next {s s' : Scanner} {p : Pull} (h : s.next = some (p, s')) : s'.fuel < s.fuel := by
  unfold next at h
  split at h
  · simp at h
  · rename_i hd
    simp only [Option.some.injEq] at h
    have := fuel_pull s.tokenizer s.recovers s.offset s.rest
    rw [h] at this
    simpa [fuel, hd] using this

/-- All that a scanner yields, in order. -/
def lexemes (s : Scanner) : List Pull :=
  match h : s.next with
  | none => []
  | some (p, s') =>
    have := fuel_next h
    p :: s'.lexemes
termination_by s.fuel

end Scanner

namespace Tokenizer

/-- Reads `input` up to the first error. -/
def scan (t : Tokenizer) (input : String) : Scanner := ⟨t, false, 0, input.toList, false⟩

/-- Reads all of `input`, past every error. -/
def scanRecovering (t : Tokenizer) (input : String) : Scanner := ⟨t, true, 0, input.toList, false⟩

/-- The tokens of a stream up to its first error. -/
def collect : List Pull → Except LexError (List Token)
  | [] => .ok []
  | .error e :: _ => .error e
  | .ok (.token t) :: ps =>
    match collect ps with
    | .ok ts => .ok (t :: ts)
    | .error e => .error e
  | .ok (.finish _) :: ps => collect ps

/-- The tokens of an input, or its first error. -/
def tokenize (t : Tokenizer) (input : String) : Except LexError (List Token) :=
  collect (t.scan input).lexemes

/-- Every token that can be read, and the errors that were passed over. -/
def tokenizeLossy (t : Tokenizer) (input : String) : List Token × List LexError :=
  let ps := (t.scanRecovering input).lexemes
  (ps.filterMap fun
    | .ok (.token t) => some t
    | _ => none,
   ps.filterMap fun
    | .error e => some e
    | _ => none)

end Tokenizer

end TopDown
