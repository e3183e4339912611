import TopDown.Grammar.Resolve
import TopDown.Settings.Word
import TopDown.Table.Strategy

/-!
# Settings

* `Settings` : what holds for a request that leaves something open;
* `Settings.Entry` : a key with a string or a list of strings;
* `Settings.entries` : the entries of a settings file, one a line. A list may go on over several
  lines, and a comma may stand behind its last item;
* `Settings.ofText?` : the settings of a file. Every key is a known one and stands there once.
-/

namespace TopDown

/-- Defaults for what a request leaves open. -/
structure Settings where
  strategy : Strategy := .ll1
  emptySymbols : List String := ["$", "eps"]
  parserName : String := "Parser"
  moduleName : String := ""
  deriving DecidableEq

namespace Settings

def options (s : Settings) : Grammar.Options := ⟨s.emptySymbols⟩

inductive Value where
  | text (value : String)
  | list (items : List String)
  deriving DecidableEq

structure Entry where
  key : String
  value : Value
  deriving DecidableEq

/-- The items of a list behind its opening bracket, and the rest after it. `ready` says whether an
item may follow, as opposed to a comma. -/
def readItems (ready : Bool) : List Word → Option (List String × List Word)
  | [] => none
  | .newline :: ws => readItems ready ws
  | .closing :: ws => some ([], ws)
  | .comma :: ws => if ready then none else readItems true ws
  | .text item :: ws | .block item :: ws =>
    if ready then
      match readItems false ws with
      | some (items, rest) => some (item :: items, rest)
      | none => none
    else none
  | _ => none

/-- A value and the rest after it. -/
def readValue : List Word → Option (Value × List Word)
  | .text value :: ws | .block value :: ws => some (.text value, ws)
  | .opening :: ws =>
    match readItems true ws with
    | some (items, rest) => some (.list items, rest)
    | none => none
  | _ => none

/-- An entry and the rest after it. -/
def readEntry : List Word → Option (Entry × List Word)
  | .bare key :: .equals :: ws | .text key :: .equals :: ws =>
    match readValue ws with
    | some (value, rest) => some (⟨key, value⟩, rest)
    | none => none
  | _ => none

theorem length_readItems {ready : Bool} {ws rest : List Word} {items : List String}
    (h : readItems ready ws = some (items, rest)) : rest.length < ws.length := by
  fun_induction readItems ready ws generalizing items <;> grind

theorem length_readValue {ws rest : List Word} {value : Value}
    (h : readValue ws = some (value, rest)) : rest.length < ws.length := by
  have := @length_readItems
  fun_cases readValue ws <;> grind [readValue]

theorem length_readEntry {ws rest : List Word} {e : Entry}
    (h : readEntry ws = some (e, rest)) : rest.length < ws.length := by
  have := @length_readValue
  fun_cases readEntry ws <;> grind [readEntry]

/-- The entries of a file, given by its words. -/
def entries (ws : List Word) : Option (List Entry) :=
  match ws with
  | [] => some []
  | .newline :: ws => entries ws
  | w :: ws =>
    match h : readEntry (w :: ws) with
    | none => none
    | some (e, []) => some [e]
    | some (e, .newline :: rest) =>
      have := length_readEntry h
      (entries rest).map (e :: ·)
    | some _ => none
termination_by ws.length
decreasing_by all_goals simp only [List.length_cons] at *; omega

/-- Settings with one entry of a file taken over. -/
def take? (s : Settings) : Entry → Option Settings
  | ⟨"strategy", .text name⟩ =>
    (Strategy.ofExactName? name).map fun strategy => { s with strategy }
  | ⟨"empty-symbols", .list emptySymbols⟩ => some { s with emptySymbols }
  | ⟨"parser-name", .text parserName⟩ => some { s with parserName }
  | ⟨"module-name", .text moduleName⟩ => some { s with moduleName }
  | _ => none

/-- The settings of a list of entries. -/
def ofEntries? (es : List Entry) : Option Settings :=
  if (es.map Entry.key).Nodup then es.foldlM take? {} else none

/-- The settings that a file holds. -/
def ofText? (text : String) : Option Settings := do
  ofEntries? (← entries (← words (Text.dropByteOrderMark text.toList)))

end Settings

end TopDown
