import TopDown.Unicode.Ranges
import TopDown.Unicode.ScriptData

/-!
# Scripts

* `script? name` : the characters of a script, by name;
* `scriptExtension? name` : these and the characters that the script shares with others. A shared
  character no longer counts as common or inherited.
-/

namespace TopDown.Unicode

/-- The script with a name. -/
def scriptNamed? (name : String) : Option ScriptEntry :=
  scriptEntries.find? fun e => e.names.contains name

def script? (name : String) : Option Ranges := (scriptNamed? name).map fun e => .ofLines e.own

/-- The characters of a script that exists. -/
def scriptSet (name : String) : Ranges := (script? name).getD []

/-- The characters that are shared between some scripts but not all. -/
def sharedChars (_ : Unit) : Ranges := .unions (scriptEntries.map fun e => .ofLines e.shared)

def scriptExtension? (name : String) : Option Ranges :=
  (scriptNamed? name).map fun e =>
    let own := Ranges.ofLines e.own
    if e.names.contains "common" || e.names.contains "inherited" then own.diff (sharedChars ())
    else own.union (.ofLines e.shared)

end TopDown.Unicode
