import TopDown.Settings.Basic
import TopDown.TokenTable

/-!
# Requests and responses

A request brings the two texts of a language and a sample, and asks for some of four channels: the
source of the parser, a token table, a parse tree and a validation.

* `Request`, `Request.ofJson?` : what is asked for;
* `Response`, `Response.toJson` : the outcome of every channel, each with its own failure;
* `Executor` : how tasks are run; `Executor.inline` : each on the spot;
* `Request.respondWith` : the response to a request, by the tasks of an executor. Both texts are
  read whatever becomes of the other, and the channels share what was read. The token table needs
  the lexicon only, so faults of the grammar do not touch it;
* `Request.respond` : the response with all tasks run on the spot.
-/

namespace TopDown

/-- What a caller wants done. What is left open is taken from the settings; without a sample the
empty text is read. -/
structure Request where
  lexicon : String := ""
  grammar : String := ""
  parserName : Option String := none
  moduleName : Option String := none
  strategy : Option Strategy := none
  wantsParseTree : Bool := false
  wantsTokenTable : Bool := false
  wantsValidation : Bool := false
  sample : Option String := none
  deriving DecidableEq

namespace Request

/-- A field that must be a string if it is there. -/
def text? (j : Json) (name : String) : Option String :=
  match j.field? name with
  | none => some ""
  | some (.string s) => some s
  | some _ => none

/-- A field that must be a truth value if it is there. -/
def flag? (j : Json) (name : String) : Option Bool :=
  match j.field? name with
  | none => some false
  | some (.bool b) => some b
  | some _ => none

/-- A field that may be left open. -/
def optionalText? (j : Json) (name : String) : Option (Option String) :=
  match j.field? name with
  | none | some .null => some none
  | some (.string s) => some (some s)
  | some _ => none

/-- A strategy by its exact name, or none. The name may also be the only field of an object, which
then holds nothing. -/
def strategy? (j : Json) (name : String) : Option (Option Strategy) :=
  match j.field? name with
  | none | some .null => some none
  | some (.string s) | some (.object [(s, .null)]) => (Strategy.ofExactName? s).map some
  | some _ => none

/-- The request that an object describes. Fields that are not known are passed over. -/
def ofJson? (j : Json) : Option Request :=
  match j with
  | .object _ => do
    return {
      lexicon := ← text? j "lexerText"
      grammar := ← text? j "grammarText"
      parserName := ← optionalText? j "parserName"
      moduleName := ← optionalText? j "moduleName"
      strategy := ← strategy? j "strategy"
      wantsParseTree := ← flag? j "wantParseTree"
      wantsTokenTable := ← flag? j "wantTokenTable"
      wantsValidation := ← flag? j "wantValidation"
      sample := ← optionalText? j "sampleInput" }
  | _ => none

end Request

/-- The outcome of a request. A channel that was not asked for is `none`. -/
structure Response where
  source : Except Failure String
  tokenTable : Option (Except Failure TokenTable)
  parseTree : Option (Except Failure ParseTree)
  validation : Option (Except Failure Validation)

/-! ## Tasks -/

/-- A way to run tasks. The outcome of a task comes back in `m`, which may have effects of its
own. -/
structure Executor (m : Type → Type) where
  run : {α : Type} → (Unit → Except Failure α) → m (Except Failure α)

namespace Executor

/-- Runs every task on the spot. -/
def inline : Executor Id where
  run task := task ()

variable {m : Type → Type} [Monad m] {α β : Type} (x : Executor m)

/-- Reads both texts, each in a task of its own, whatever becomes of the other. -/
def readTexts (lexicon grammar : String) (engine : Pattern.Engine := Pattern.engine) :
    m (Except Failure Lexer × Except Failure Grammar.Declarations) := do
  let lexer ← x.run fun _ => Lexer.ofText lexicon engine
  let ds ← x.run fun _ => readGrammar grammar
  return (lexer, ds)

/-- A task that puts together what was read. If neither text could be read, the failure of the
lexicon is told. -/
def assemble (lexer : Except Failure Lexer) (ds : Except Failure Grammar.Declarations)
    (strategy : Strategy) (options : Grammar.Options) : m (Except Failure Compilation) :=
  match lexer, ds with
  | .error e, _ => return .error e
  | .ok _, .error e => return .error e
  | .ok lexer, .ok ds => x.run fun _ => Compilation.assemble lexer ds strategy options

/-- A task that works on an outcome which it shares with others. A failure is passed on. -/
def share (shared : Except Failure α) (work : α → Except Failure β) : m (Except Failure β) :=
  match shared with
  | .error e => return .error e
  | .ok a => x.run fun _ => work a

/-- A task that is run only if its outcome is wanted. -/
def channel (isWanted : Bool) (shared : Except Failure α) (work : α → Except Failure β) :
    m (Option (Except Failure β)) := do
  if isWanted then return some (← x.share shared work) else return none

end Executor

namespace Request

/-- Runs all channels of a request. -/
def respondWith {m : Type → Type} [Monad m] (x : Executor m) (r : Request) (s : Settings)
    (engine : Pattern.Engine := Pattern.engine) : m Response := do
  let sample := r.sample.getD ""
  let (lexer, ds) ← x.readTexts r.lexicon r.grammar engine
  let compiled ← x.assemble lexer ds (r.strategy.getD s.strategy) s.options
  let source ← x.share compiled fun c =>
    c.source (r.parserName.getD s.parserName) (r.moduleName.getD s.moduleName)
  let tokenTable ← x.channel r.wantsTokenTable lexer fun l => .ok (l.tokenTable sample)
  let parseTree ← x.channel r.wantsParseTree compiled fun c => c.parse defaultMaxDepth sample
  let validation ← x.channel r.wantsValidation compiled fun c => .ok (c.validate sample)
  return { source, tokenTable, parseTree, validation }

/-- The response to a request. -/
def respond (r : Request) (s : Settings) (engine : Pattern.Engine := Pattern.engine) : Response :=
  Id.run (r.respondWith .inline s engine)

end Request

namespace Response

def failureJson (e : Failure) : Json :=
  .object [("error", .object [("kind", .string e.kind), ("message", .string e.message)])]

/-- The outcome of a channel, a failure as its kind and message. -/
def channelJson {α : Type} (write : α → Json) : Except Failure α → Json
  | .ok a => write a
  | .error e => failureJson e

mutual

/-- A tree as nested objects. -/
def treeJson : ParseTree → Json
  | .node n children =>
    .object [("children", .array (forestJson children)), ("name", .string n.name)]

def forestJson : List ParseTree → List Json
  | [] => []
  | t :: ts => treeJson t :: forestJson ts

end

def stepJson (s : TraceStep) : Json :=
  .sorted [("depth", .nat s.depth), ("top", .string s.top), ("input", .string s.input),
    ("action", .string s.action)]

def validationJson (v : Validation) : Json :=
  .sorted [("accepted", .bool v.accepted), ("trace", .array (v.trace.map stepJson)),
    ("text", .string v.render)]

/-- All channels that were asked for. The source always is. -/
def toJson (r : Response) : Json :=
  .sorted ([("source", channelJson .string r.source)] ++
    (r.tokenTable.map fun x => ("tokenTable", channelJson TokenTable.toJson x)).toList ++
    (r.parseTree.map fun x => ("parseTree", channelJson treeJson x)).toList ++
    (r.validation.map fun x => ("validation", channelJson validationJson x)).toList)

end Response

end TopDown
