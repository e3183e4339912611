import Mathlib.Data.List.Nodup
import TopDown.Proofs.Traversal
import TopDown.Sample
import TopDown.Session

/-!
# Responses are independent of how their tasks are run

* `Request.sequential` : the response that compiling the two texts and then using the compilation
  gives, one channel after the other;
* `Executor.Honest` : every task comes back with the outcome of its work; `respondWith_eq` : then
  the response is the sequential one;
* `Response.AgreesBut` : responses that are equal on all channels but one, also as JSON;
* `Request.respondWith_sequential` : what this says of every channel.
-/

namespace TopDown

variable {m : Type → Type} [Monad m] {x : Executor m}

/-! ## Tasks -/

namespace Executor

/-- Every task comes back with the outcome of its work, and nothing else comes of it. -/
def Honest (x : Executor m) : Prop :=
  ∀ {α : Type} (task : Unit → Except Failure α), x.run task = pure (task ())

theorem honest_inline : inline.Honest := fun _ => rfl

variable {α β : Type}

theorem Honest.assemble (hx : x.Honest) (lexer : Except Failure Lexer)
    (ds : Except Failure Grammar.Declarations) (strategy : Strategy) (options : Grammar.Options) :
    x.assemble lexer ds strategy options = pure (Compilation.join lexer ds strategy options) := by
  unfold Executor.assemble Compilation.join
  cases lexer with
  | error e => rfl
  | ok lexer =>
    cases ds with
    | error e => rfl
    | ok ds => exact hx _

theorem Honest.share (hx : x.Honest) (shared : Except Failure α) (work : α → Except Failure β) :
    x.share shared work = pure (shared.bind work) := by
  unfold Executor.share
  cases shared with
  | error e => rfl
  | ok a => exact hx _

variable [LawfulMonad m]

theorem Honest.readTexts (hx : x.Honest) (lexicon grammar : String) (engine : Pattern.Engine) :
    x.readTexts lexicon grammar engine =
      pure (Lexer.ofText lexicon engine, readGrammar grammar) := by
  rw [Executor.readTexts, hx, pure_bind, hx, pure_bind]

theorem Honest.channel (hx : x.Honest) (isWanted : Bool) (shared : Except Failure α)
    (work : α → Except Failure β) :
    x.channel isWanted shared work =
      pure (if isWanted then some (shared.bind work) else none) := by
  rw [Executor.channel]
  split
  · rw [hx.share, pure_bind]
  · rfl

end Executor

/-! ## The sequential response -/

namespace Request

/-- The compilation of the two texts of a request. -/
def compile (r : Request) (s : Settings) (engine : Pattern.Engine := Pattern.engine) :
    Except Failure Compilation :=
  Compilation.ofTexts r.lexicon r.grammar (r.strategy.getD s.strategy) s.options engine

/-- The response that the compilation and the lexer of a request give, one channel after the
other. -/
def sequential (r : Request) (s : Settings) (engine : Pattern.Engine := Pattern.engine) :
    Response where
  source := do
    let c ← r.compile s engine
    c.source (r.parserName.getD s.parserName) (r.moduleName.getD s.moduleName)
  tokenTable :=
    if r.wantsTokenTable then some do
      let l ← Lexer.ofText r.lexicon engine
      return l.tokenTable (r.sample.getD "")
    else none
  parseTree :=
    if r.wantsParseTree then some do
      let c ← r.compile s engine
      c.parse defaultMaxDepth (r.sample.getD "")
    else none
  validation :=
    if r.wantsValidation then some do
      let c ← r.compile s engine
      return c.validate (r.sample.getD "")
    else none

/-- Honest tasks give the sequential response. -/
theorem respondWith_eq [LawfulMonad m] (hx : x.Honest) (r : Request) (s : Settings)
    (engine : Pattern.Engine) : r.respondWith x s engine = pure (r.sequential s engine) := by
  rw [respondWith]
  simp only [hx.readTexts, hx.assemble, hx.share, hx.channel, pure_bind]
  rfl

theorem respond_eq (r : Request) (s : Settings) (engine : Pattern.Engine) :
    r.respond s engine = r.sequential s engine :=
  respondWith_eq Executor.honest_inline r s engine

end Request

/-! ## JSON -/

namespace Json

theorem find?_key_eq_some {fields : List (String × Json)} (h : (fields.map Prod.fst).Nodup)
    {name : String} {j : Json} :
    (fields.find? (·.1 = name)).map Prod.snd = some j ↔ (name, j) ∈ fields := by
  induction fields with
  | nil => simp
  | cons f fields ih =>
    obtain ⟨key, value⟩ := f
    obtain ⟨hkey, hfields⟩ := List.nodup_cons.1 h
    by_cases hname : key = name
    · subst hname
      have hother : (key, j) ∉ fields := fun hmem => hkey (List.mem_map.2 ⟨_, hmem, rfl⟩)
      simp [hother, eq_comm]
    · rw [List.find?_cons_of_neg (by simpa using hname), ih hfields, List.mem_cons, Prod.mk.injEq,
        or_iff_right fun heq => hname heq.1.symm]

/-- The fields of an object whose keys are distinct, in whatever order they are written. -/
theorem field?_sorted {fields : List (String × Json)} (h : (fields.map Prod.fst).Nodup)
    {name : String} {j : Json} :
    (Json.sorted fields).field? name = some j ↔ (name, j) ∈ fields := by
  have hperm := List.mergeSort_perm fields fun a b => decide (a.1 ≤ b.1)
  rw [Json.sorted, field?, find?_key_eq_some ((hperm.map _).nodup_iff.2 h), hperm.mem_iff]

end Json

namespace Response

/-- The channels of a response as JSON, under their names. -/
theorem field?_toJson {out : Response} {name : String} {j : Json} :
    out.toJson.field? name = some j ↔
      (name = "source" ∧ j = channelJson .string out.source) ∨
      (∃ c, out.tokenTable = some c ∧ name = "tokenTable" ∧ j = channelJson TokenTable.toJson c) ∨
      (∃ c, out.parseTree = some c ∧ name = "parseTree" ∧ j = channelJson treeJson c) ∨
      ∃ c, out.validation = some c ∧ name = "validation" ∧ j = channelJson validationJson c := by
  rw [toJson, Json.field?_sorted]
  · simp only [List.mem_append, List.mem_singleton, Option.mem_toList, Option.map_eq_some_iff,
      Prod.mk.injEq, or_assoc, eq_comm (b := name), eq_comm (b := j)]
  · cases out.tokenTable <;> cases out.parseTree <;> cases out.validation <;> simp

/-- The optional channels of a response. -/
inductive Channel where
  | tokenTable
  | parseTree
  | validation
  deriving DecidableEq

/-- The name of a channel as JSON. -/
def Channel.key : Channel → String
  | tokenTable => "tokenTable"
  | parseTree => "parseTree"
  | validation => "validation"

/-- The responses are equal on all channels but one, also as JSON. -/
structure AgreesBut (c : Channel) (a b : Response) : Prop where
  source : a.source = b.source
  tokenTable : c ≠ .tokenTable → a.tokenTable = b.tokenTable
  parseTree : c ≠ .parseTree → a.parseTree = b.parseTree
  validation : c ≠ .validation → a.validation = b.validation
  toJson : ∀ name, name ≠ c.key → a.toJson.field? name = b.toJson.field? name

/-- What is equal in the responses is equal as JSON. -/
theorem AgreesBut.of_channels {c : Channel} {a b : Response} (source : a.source = b.source)
    (tokenTable : c ≠ .tokenTable → a.tokenTable = b.tokenTable)
    (parseTree : c ≠ .parseTree → a.parseTree = b.parseTree)
    (validation : c ≠ .validation → a.validation = b.validation) : AgreesBut c a b := by
  refine ⟨source, tokenTable, parseTree, validation, fun name hname => Option.ext fun j => ?_⟩
  rw [field?_toJson, field?_toJson, source]
  cases c with
  | tokenTable =>
    rw [parseTree (by decide), validation (by decide)]
    simp [show name ≠ "tokenTable" from hname]
  | parseTree =>
    rw [tokenTable (by decide), validation (by decide)]
    simp [show name ≠ "parseTree" from hname]
  | validation =>
    rw [tokenTable (by decide), parseTree (by decide)]
    simp [show name ≠ "validation" from hname]

end Response

namespace Request

open Response (Channel)

/-- A request with the flag of one channel set. -/
def want (r : Request) (isWanted : Bool) : Channel → Request
  | .tokenTable => { r with wantsTokenTable := isWanted }
  | .parseTree => { r with wantsParseTree := isWanted }
  | .validation => { r with wantsValidation := isWanted }

theorem agreesBut_want (r : Request) (s : Settings) (engine : Pattern.Engine) (isWanted : Bool)
    (c : Channel) : ((r.want isWanted c).respond s engine).AgreesBut c (r.respond s engine) := by
  rw [respond_eq, respond_eq]
  cases c with
  | tokenTable => exact .of_channels rfl (absurd rfl) (fun _ => rfl) fun _ => rfl
  | parseTree => exact .of_channels rfl (fun _ => rfl) (absurd rfl) fun _ => rfl
  | validation => exact .of_channels rfl (fun _ => rfl) (fun _ => rfl) (absurd rfl)

/-- However its tasks are run, and whichever engine it uses for patterns, a response is the
sequential one. A compilation that fails is told on
every channel that needs it; the token table needs the lexicon only; there are just the channels
that were asked for, and none of them depends on which others were. -/
theorem respondWith_sequential [LawfulMonad m] (hx : x.Honest) (r : Request) (s : Settings)
    (engine : Pattern.Engine) :
    r.respondWith x s engine = pure (r.respond s engine) ∧
    r.respond s engine = r.sequential s engine ∧
    (∀ e, r.compile s engine = .error e → (r.respond s engine).source = .error e ∧
      (∀ c ∈ (r.respond s engine).parseTree, c = .error e) ∧
      ∀ c ∈ (r.respond s engine).validation, c = .error e) ∧
    (∀ lexicon t, Lexicon.parse r.lexicon = .ok lexicon →
      Tokenizer.ofLexicon lexicon engine = .ok t → ∀ c ∈ (r.respond s engine).tokenTable,
        c = .ok (Lexer.tokenTable ⟨lexicon, t⟩ (r.sample.getD ""))) ∧
    (r.respond s engine).tokenTable.isSome = r.wantsTokenTable ∧
    (r.respond s engine).parseTree.isSome = r.wantsParseTree ∧
    (r.respond s engine).validation.isSome = r.wantsValidation ∧
    ∀ isWanted c, ((r.want isWanted c).respond s engine).AgreesBut c (r.respond s engine) := by
  refine ⟨?_, respond_eq r s engine, fun e he => ?_, fun lexicon t hlexicon ht => ?_, ?_, ?_, ?_,
    r.agreesBut_want s engine⟩
  · rw [respondWith_eq hx, respond_eq]
  · rw [respond_eq, sequential, he]
    refine ⟨rfl, fun c hc => ?_, fun c hc => ?_⟩
    all_goals
      obtain ⟨-, hc⟩ := Option.ite_none_right_eq_some.1 hc
      cases hc
      rfl
  · have hlexer : Lexer.ofText r.lexicon engine = .ok ⟨lexicon, t⟩ := by
      simp only [Lexer.ofText, hlexicon, Lexer.ofLexicon, ht]
    rw [respond_eq, sequential, hlexer]
    intro c hc
    obtain ⟨-, hc⟩ := Option.ite_none_right_eq_some.1 hc
    cases hc
    rfl
  all_goals
    rw [respond_eq, sequential]
    exact Bool.eq_iff_iff.2 Option.isSome_ite

/-- A request with a grammar that is not deterministic. -/
def conflicting : Request where
  lexicon := Sample.parens.lexicon
  grammar := "S -> ( | (S"
  wantsParseTree := true
  wantsTokenTable := true
  sample := some "(?"

/-- Why it is not. -/
def conflict : Failure :=
  .determinism ⟨.ll1, [⟨"S", "`(`", ["S -> (", "S -> ( S"]⟩]⟩

theorem respondWith_sequential_conflicting :
    Executor.inline.Honest ∧
    conflicting.respondWith Executor.inline {} = pure (conflicting.respond {}) ∧
    (conflicting.respond {}).source = .error conflict ∧
    (conflicting.respond {}).parseTree = some (.error conflict) ∧
    ((conflicting.respond {}).tokenTable.bind Except.toOption).map TokenTable.tokens =
      some [⟨"TERMINAL", "(", "(", 0, 1⟩] ∧
    (conflicting.respond {}).validation = none ∧
    ((conflicting.want true .validation).respond {}).AgreesBut .validation
      (conflicting.respond {}) := by
  obtain ⟨hrespond, -, hfails, -, -, hparseTree, hvalidation, hagrees⟩ :=
    respondWith_sequential Executor.honest_inline conflicting {} Pattern.engine
  have hfailure : failure? (conflicting.compile {}) = some conflict := by decide +kernel
  have hcompile : conflicting.compile {} = .error conflict := by
    cases hc : conflicting.compile {} with
    | ok c => rw [hc] at hfailure; cases hfailure
    | error e => rw [hc] at hfailure; cases hfailure; rfl
  obtain ⟨hsource, hparsed, -⟩ := hfails _ hcompile
  obtain ⟨c, hc⟩ := Option.isSome_iff_exists.1 hparseTree
  exact ⟨Executor.honest_inline, hrespond, hsource, hparsed c hc ▸ hc, by decide +kernel,
    Option.isSome_eq_false_iff.1 hvalidation |> Option.isNone_iff_eq_none.1,
    hagrees true .validation⟩

end Request

end TopDown
