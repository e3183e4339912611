import TopDown.Emission.Identifier

/-!
# Names of emitted parsers and modules

* `EmitError` : why a parser cannot be emitted;
* `parserName` : an identifier that no type of the emitted module bears;
* `modulePath` : the identifiers between the `::` and dots of a module path.
-/

namespace TopDown

/-- Why a parser cannot be emitted. -/
inductive EmitError where
  | invalidParserName (name : String)
  | invalidModule (path : String)
  | reservedName (name : String)
  | nondeterministic (conflicts : Nat)
  | unknownTerminal (rule : String)
  deriving DecidableEq

def EmitError.message : EmitError → String
  | invalidParserName name => "`" ++ name ++ "` is not a valid parser name"
  | invalidModule path => "`" ++ path ++ "` is not a valid module path"
  | reservedName name => "`" ++ name ++ "` clashes with an item of the generated module"
  | nondeterministic conflicts =>
    "cannot emit a parser from a table with " ++ toString conflicts ++ " conflicts"
  | unknownTerminal rule =>
    "lexical rule `" ++ rule ++ "` produces a terminal the grammar does not declare"

namespace Emission

open Text

/-- The names of types and values that the emitted module uses itself. -/
def reservedNames : List String :=
  ["Token", "Node", "Error", "Symbol", "Result", "Option", "Vec", "String", "Some", "None", "Ok",
   "Err"]

/-- The identifier of an emitted parser. -/
def parserName (name : String) : Except EmitError String :=
  match identifier? name.toList with
  | none => .error (.invalidParserName name)
  | some id => if id ∈ reservedNames then .error (.reservedName name) else .ok id

/-- Puts a character in front of the first segment. -/
def consSegment (c : Char) : List (List Char) → List (List Char)
  | [] => [[c]]
  | segment :: segments => (c :: segment) :: segments

/-- The segments of a path between `::` and dots. -/
def segments : List Char → List (List Char)
  | [] => [[]]
  | ':' :: ':' :: s => [] :: segments s
  | '.' :: s => [] :: segments s
  | c :: s => consSegment c (segments s)

/-- The modules of a path, outermost first. The empty path has none. -/
def modulePath (path : String) : Except EmitError (List String) :=
  let path := trim path.toList
  if path.isEmpty then .ok []
  else
    match (segments path).mapM identifier? with
    | some ids => .ok ids
    | none => .error (.invalidModule (String.ofList path))

end Emission

end TopDown
