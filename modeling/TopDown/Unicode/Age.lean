import TopDown.Unicode.AgeData
import TopDown.Unicode.Ranges

/-!
# Ages

* `versionNames` : a version's number, and its name such as `v30`;
* `age? name` : the characters that a version knows: those that it added and all older ones.
-/

namespace TopDown.Unicode

/-- The two ways to write a version. -/
def versionNames (version : String) : List String :=
  [version, "v" ++ String.ofList (version.toList.filter (· != '.'))]

/-- The entries up to the one with a name. -/
def upToVersion (name : String) :
    List (String × List String) → Option (List (String × List String))
  | [] => none
  | e :: es =>
    if (versionNames e.1).contains name then some [e] else (upToVersion name es).map (e :: ·)

def age? (name : String) : Option Ranges :=
  (upToVersion name ageEntries).map fun es => .unions (es.map fun e => .ofLines e.2)

end TopDown.Unicode
