import TopDown.Table.Strategy

/-!
# Command lines

* `Verb` : what the program can be told to do;
* `Opt` : an option, with the kind of value it takes, if it takes one;
* `Refusal` : a command line that starts nothing, because it asks for help or is misused;
* `Item.of` : what one argument is, for the options that are known where it stands;
* `Scan.all` : the arguments from left to right. The first fault or call for help decides;
* `Invocation.ofArgs` : the command that arguments describe.

The settings file may be given before the verb and behind it; behind it wins.
-/

namespace TopDown.Command

inductive Verb where
  | generate
  | run
  | table
  | lint
  deriving DecidableEq

def Verb.ofName? : String → Option Verb
  | "generate" => some .generate
  | "run" => some .run
  | "table" => some .table
  | "lint" => some .lint
  | _ => none

/-- What the value of an option may be. -/
inductive ValueKind where
  | text
  /-- Any text but the empty one. -/
  | path
  /-- A strategy by name, upper or lower case. -/
  | strategy
  deriving DecidableEq

def ValueKind.admits : ValueKind → String → Bool
  | .text, _ => true
  | .path, value => !value.isEmpty
  | .strategy, value => (Strategy.ofName? value).isSome

/-- An option. Without a kind of value it is a switch. -/
structure Opt where
  name : String
  letter : Option Char
  value : Option ValueKind
  deriving DecidableEq

namespace Opt

def config : Opt := ⟨"config", some 'c', some .path⟩
def strategy : Opt := ⟨"strategy", some 's', some .strategy⟩
def parserName : Opt := ⟨"parser-name", some 'p', some .text⟩
def moduleName : Opt := ⟨"module", some 'm', some .text⟩
def output : Opt := ⟨"output", some 'o', some .path⟩
def input : Opt := ⟨"input", some 'i', some .path⟩
def sample : Opt := ⟨"text", some 't', some .text⟩
def tree : Opt := ⟨"tree", none, none⟩
def tokens : Opt := ⟨"tokens", none, none⟩
def validation : Opt := ⟨"validate", none, none⟩
def sets : Opt := ⟨"sets", none, none⟩

end Opt

/-- The options that are known behind a verb. -/
def Verb.options : Verb → List Opt
  | .generate => [.config, .strategy, .parserName, .moduleName, .output]
  | .run => [.config, .strategy, .input, .sample, .tree, .tokens, .validation]
  | .table => [.config, .strategy, .sets]
  | .lint => [.config]

/-- The options that are known at this point of a command line. -/
def knownOptions : Option Verb → List Opt
  | some verb => verb.options
  | none => [.config]

/-- A command line that starts nothing. -/
inductive Refusal where
  | help
  | misuse
  deriving DecidableEq

/-- The process's exit code. -/
def Refusal.code : Refusal → Nat
  | help => 0
  | misuse => 2

/-! ## Single arguments -/

/-- What an argument is. -/
inductive Item where
  | word
  /-- Two dashes, behind which there are words only. -/
  | escape
  | switch (o : Opt)
  | setting (o : Opt) (value : String)
  /-- An option whose value is the next argument. -/
  | opening (o : Opt)
  | refusal (r : Refusal)

/-- Whether an argument starts like an option. A single dash is a word. -/
def isOptionLike : List Char → Bool
  | '-' :: _ :: _ => true
  | _ => false

namespace Item

/-- An option with what is attached to it, if anything is. -/
def ofOption (o : Opt) (attached : Option (List Char)) : Item :=
  match o.value, attached with
  | none, none => switch o
  | none, some _ => refusal .misuse
  | some _, some value => setting o (String.ofList value)
  | some _, none => opening o

/-- A long option such as `name` or `name=value`. -/
def ofLong (options : List Opt) (s : List Char) : Item :=
  let name := String.ofList (s.takeWhile (· != '='))
  let attached :=
    match s.dropWhile (· != '=') with
    | _ :: value => some value
    | [] => none
  if name = "help" then refusal (if attached.isNone then .help else .misuse)
  else
    match options.find? (·.name = name) with
    | some o => ofOption o attached
    | none => refusal .misuse

/-- A short option, with its value right behind it or behind an equals sign. -/
def ofShort (options : List Opt) (letter : Char) (s : List Char) : Item :=
  if letter = 'h' then refusal .help
  else
    match options.find? (·.letter = some letter) with
    | none => refusal .misuse
    | some o =>
      match s with
      | [] => ofOption o none
      | '=' :: value => ofOption o (some value)
      | value => ofOption o (some value)

def of (options : List Opt) : List Char → Item
  | ['-', '-'] => escape
  | '-' :: '-' :: s => ofLong options s
  | '-' :: letter :: s => ofShort options letter s
  | _ => word

end Item

/-! ## All arguments -/

/-- Where the reading of a command line stands. -/
structure Scan where
  verb : Option Verb := none
  /-- An option that waits for its value. -/
  waiting : Option Opt := none
  /-- Whether only words follow. -/
  isEscaped : Bool := false
  /-- The options since the verb with their values; a switch has an empty one. -/
  settings : List (Opt × String) := []
  words : List String := []
  /-- The settings file given before the verb. -/
  outerConfig : Option String := none

namespace Scan

/-- How many words follow a verb: the two texts of a language. -/
def wordCount : Nat := 2

def value? (s : Scan) (o : Opt) : Option String := (s.settings.find? (·.1 = o)).map Prod.snd

def has (s : Scan) (o : Opt) : Bool := (s.value? o).isSome

/-- Gives an option its value, once. -/
def set (s : Scan) (o : Opt) (value : String) : Except Refusal Scan :=
  let isAdmitted := match o.value with
    | some kind => kind.admits value
    | none => true
  if s.has o || !isAdmitted then .error .misuse
  else .ok { s with settings := s.settings ++ [(o, value)], waiting := none }

/-- Takes a word that follows the verb. -/
def addWord (s : Scan) (word : String) : Except Refusal Scan :=
  if s.words.length < wordCount && !word.isEmpty then .ok { s with words := s.words ++ [word] }
  else .error .misuse

/-- Whether help can be given on what follows the word `help`. -/
def isHelpTopic : List String → Bool
  | [] => true
  | [topic] => (Verb.ofName? topic).isSome || topic == "help"
  | _ => false

/-- Takes a word, the first of which is the verb. -/
def word (s : Scan) (w : String) (rest : List String) : Except Refusal Scan :=
  match s.verb with
  | some _ => s.addWord w
  | none =>
    if s.isEscaped then .error .misuse
    else if w = "help" then .error (if isHelpTopic rest then .help else .misuse)
    else
      match Verb.ofName? w with
      | some verb =>
        .ok { s with verb := some verb, settings := [], outerConfig := s.value? .config }
      | none => .error .misuse

/-- Takes one argument, with those behind it in view. -/
def next (s : Scan) (arg : String) (rest : List String) : Except Refusal Scan :=
  if s.isEscaped then s.word arg rest
  else
    match s.waiting with
    | some o => if isOptionLike arg.toList then .error .misuse else s.set o arg
    | none =>
      match Item.of (knownOptions s.verb) arg.toList with
      | .word => s.word arg rest
      | .escape => .ok { s with isEscaped := true }
      | .switch o => s.set o ""
      | .setting o value => s.set o value
      | .opening o => .ok { s with waiting := some o }
      | .refusal r => .error r

/-- Takes all arguments. -/
def all (s : Scan) : List String → Except Refusal Scan
  | [] => if s.waiting.isSome then .error .misuse else .ok s
  | arg :: rest =>
    match s.next arg rest with
    | .ok s => s.all rest
    | .error r => .error r

end Scan

/-! ## Commands -/

/-- The files that hold the two texts of a language. -/
structure Specs where
  lexicon : String
  grammar : String
  deriving DecidableEq

/-- A sample by file or as it is. -/
inductive SampleSource where
  | file (path : String)
  | inline (text : String)
  deriving DecidableEq

inductive Task where
  /-- Writes the source of a parser. -/
  | generate (specs : Specs) (strategy : Option Strategy) (parserName moduleName : Option String)
      (output : Option String)
  /-- Answers a request. -/
  | run (specs : Specs) (strategy : Option Strategy) (sample : Option SampleSource)
      (tree tokens validation : Bool)
  /-- Shows the prediction table. -/
  | table (specs : Specs) (strategy : Option Strategy) (sets : Bool)
  /-- Lists all faults. -/
  | lint (specs : Specs)
  deriving DecidableEq

structure Invocation where
  config : Option String
  task : Task
  deriving DecidableEq

namespace Invocation

/-- The sample that a run reads: a file or a text, not both. -/
def sampleOf (s : Scan) : Except Refusal (Option SampleSource) :=
  match s.value? .input, s.value? .sample with
  | some _, some _ => .error .misuse
  | some path, none => .ok (some (.file path))
  | none, some text => .ok (some (.inline text))
  | none, none => .ok none

/-- The command of a scanned command line. -/
def ofScan (s : Scan) : Except Refusal Invocation :=
  let config := s.value? .config <|> s.outerConfig
  let strategy := (s.value? .strategy).bind Strategy.ofName?
  match s.verb, s.words with
  | some .generate, [lexicon, grammar] =>
    .ok ⟨config, .generate ⟨lexicon, grammar⟩ strategy (s.value? .parserName)
      (s.value? .moduleName) (s.value? .output)⟩
  | some .run, [lexicon, grammar] =>
    match sampleOf s with
    | .ok sample =>
      .ok ⟨config, .run ⟨lexicon, grammar⟩ strategy sample (s.has .tree) (s.has .tokens)
        (s.has .validation)⟩
    | .error r => .error r
  | some .table, [lexicon, grammar] =>
    .ok ⟨config, .table ⟨lexicon, grammar⟩ strategy (s.has .sets)⟩
  | some .lint, [lexicon, grammar] => .ok ⟨config, .lint ⟨lexicon, grammar⟩⟩
  | _, _ => .error .misuse

/-- The command that arguments describe. -/
def ofArgs (args : List String) : Except Refusal Invocation :=
  match Scan.all {} args with
  | .ok s => ofScan s
  | .error r => .error r

end Invocation

end TopDown.Command
