import TopDown.Command.Args
import TopDown.Command.Interaction
import TopDown.Session

/-!
# Running commands

* `withSettings` : the settings that hold for a command. A file that is named must be there; the
  file of the usual name need not;
* `Task.perform` : what a command does. Everything that fails is reported with exit code one;
* `interaction` : what the program does with its arguments.
-/

namespace TopDown.Command

/-- Where settings are looked for unless another file is named. -/
def settingsPath : String := "./llgen.toml"

/-- Ends with an error. -/
def fail (message : String) : Interaction := .report ("Error: " ++ message ++ "\n") (.exit 1)

/-- Ends with an error and its cause. -/
def failBecause (message cause : String) : Interaction :=
  fail (message ++ "\n\nCaused by:\n    " ++ cause)

/-- Ends with an error, or goes on. -/
def orFail {α : Type} (x : Except Failure α) (next : α → Interaction) : Interaction :=
  match x with
  | .ok a => next a
  | .error e => fail e.message

/-- Goes on with the text of a file. -/
def withFile (path : String) (next : String → Interaction) : Interaction :=
  .read path fun
    | .ok text => next text
    | .error fault => failBecause ("cannot read " ++ path) fault.message

/-- Goes on with both texts of a language, that of the lexicon read first. -/
def withSpecs (specs : Specs) (next : String → String → Interaction) : Interaction :=
  withFile specs.lexicon fun lexicon => withFile specs.grammar fun grammar => next lexicon grammar

/-! ## Settings -/

/-- Goes on with the settings that a file holds. -/
def loadSettings (path text : String) (next : Settings → Interaction) : Interaction :=
  match Settings.ofText? text with
  | some s => next s
  | none => fail ("invalid settings in " ++ path ++ ": TOML parse error")

/-- Ends because a settings file cannot be read. -/
def failSettings (path : String) (fault : FileFault) : Interaction :=
  failBecause ("cannot read " ++ path ++ ": " ++ fault.message) fault.message

/-- Goes on with the settings of the named file, or of the usual one if it is there. -/
def withSettings (config : Option String) (next : Settings → Interaction) : Interaction :=
  match config with
  | some path =>
    .read path fun
      | .ok text => loadSettings path text next
      | .error fault => failSettings path fault
  | none =>
    .read settingsPath fun
      | .ok text => loadSettings settingsPath text next
      | .error (.other message) => failSettings settingsPath (.other message)
      | .error _ => next {}

/-! ## Commands -/

/-- Writes a parser to a file or prints it. The file is made before the names are checked. -/
def generate (c : Compilation) (name path : String) (output : Option String) : Interaction :=
  match output with
  | none => orFail (c.source name path) fun source => .print source (.exit 0)
  | some file =>
    .create file fun
      | .error fault => failBecause ("cannot create " ++ file) fault.message
      | .ok () => orFail (c.source name path) fun source => .write file source (.exit 0)

/-- Goes on with the sample of a run. -/
def withSample (sample : Option SampleSource) (next : Option String → Interaction) : Interaction :=
  match sample with
  | some (.file path) => withFile path fun text => next (some text)
  | some (.inline text) => next (some text)
  | none => next none

/-- One line for every fault, and the number of them. -/
def reportAll (faults : List Failure) : Interaction :=
  .report (String.join (faults.map fun e => e.kind ++ ": " ++ e.message ++ "\n"))
    (fail (toString faults.length ++ " problems found"))

/-- What a command does under given settings. -/
def Task.perform (s : Settings) : Task → Interaction
  | .generate specs strategy parserName moduleName output =>
    withSpecs specs fun lexicon grammar =>
      orFail (Compilation.ofTexts lexicon grammar (strategy.getD s.strategy) s.options) fun c =>
        Command.generate c (parserName.getD s.parserName) (moduleName.getD s.moduleName) output
  | .run specs strategy sample tree tokens validation =>
    withSample sample fun sample =>
      withSpecs specs fun lexicon grammar =>
        let request : Request :=
          { lexicon, grammar, strategy, sample
            wantsParseTree := tree, wantsTokenTable := tokens, wantsValidation := validation }
        .print ((request.respond s).toJson.pretty ++ "\n") (.exit 0)
  | .table specs strategy sets =>
    withSpecs specs fun lexicon grammar =>
      orFail (Compilation.ofTexts lexicon grammar (strategy.getD s.strategy) s.options) fun c =>
        .print ((if sets then c.analysis.render c.grammar ++ "\n" else "") ++
          c.table.render c.grammar) (.exit 0)
  | .lint specs =>
    withSpecs specs fun lexicon grammar =>
      match TopDown.lint lexicon grammar s.options with
      | [] => .print "no problems found\n" (.exit 0)
      | faults => reportAll faults

/-- How the program is used. -/
def usage : String :=
  "Usage: llgen [-c FILE] COMMAND LEXER GRAMMAR [OPTIONS]\n\n" ++
  "Commands:\n" ++
  "  generate  emit a standalone parser (-s STRATEGY, -p NAME, -m MODULE, -o OUT)\n" ++
  "  run       run a sample input (-s STRATEGY, -i FILE or -t TEXT, --tree, --tokens, " ++
  "--validate)\n" ++
  "  table     print the prediction table (-s STRATEGY, --sets)\n" ++
  "  lint      report every problem\n"

/-- What the program does with its arguments. -/
def interaction (args : List String) : Interaction :=
  match Invocation.ofArgs args with
  | .ok i => withSettings i.config fun s => i.task.perform s
  | .error .help => .print usage (.exit Refusal.help.code)
  | .error .misuse => .report usage (.exit Refusal.misuse.code)

end TopDown.Command
