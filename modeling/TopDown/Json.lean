/-!
# JSON values and their layout

* `Json` : a JSON value. Numbers are kept by their text;
* `Json.sorted` : an object with its fields in the order of their keys;
* `Json.numbered` : a list as an object whose keys are the positions from zero on. Keys are texts,
  so that of `10` comes before that of `2`;
* `Json.field?` : a field of an object;
* `Json.pretty` : the text of a value, one item a line, two spaces a level. Characters outside ASCII
  stand for themselves.
-/

namespace TopDown

/-- A JSON value. -/
inductive Json where
  | null
  | bool (value : Bool)
  | number (text : String)
  | string (value : String)
  | array (items : List Json)
  | object (fields : List (String × Json))
  deriving Inhabited

namespace Json

def nat (n : Nat) : Json := number (toString n)

/-- An object, its fields in the order of their keys. -/
def sorted (fields : List (String × Json)) : Json :=
  object (fields.mergeSort fun a b => decide (a.1 ≤ b.1))

/-- A list as an object whose keys are positions. -/
def numbered (items : List Json) : Json :=
  sorted (items.zipIdx.map fun (item, i) => (toString i, item))

/-- The value of a field, if the object has it. -/
def field? (name : String) : Json → Option Json
  | object fields => (fields.find? (·.1 = name)).map Prod.snd
  | _ => none

/-! ## Writing -/

/-- A control character by its number. -/
def escapeControl (n : Nat) : String :=
  "\\u00" ++ (if n < 16 then "0" else "") ++ String.ofList (Nat.toDigits 16 n)

/-- A character inside a string. -/
def escapeChar (c : Char) : String :=
  if c = '"' then "\\\""
  else if c = '\\' then "\\\\"
  else if c = '\n' then "\\n"
  else if c = '\r' then "\\r"
  else if c = '\t' then "\\t"
  else if c = '\x08' then "\\b"
  else if c = '\x0c' then "\\f"
  else if c.toNat < 32 then escapeControl c.toNat
  else String.singleton c

def quote (s : String) : String :=
  s.toList.foldl (fun out c => out ++ escapeChar c) "\"" ++ "\""

/-- A new line with the indentation of a level. -/
def breakLine (level : Nat) : String :=
  "\n" ++ String.ofList (List.replicate (2 * level) ' ')

mutual

/-- Writes a value that stands on a level behind `out`. -/
def write (level : Nat) (out : String) : Json → String
  | null => out ++ "null"
  | bool value => out ++ if value then "true" else "false"
  | number text => out ++ text
  | string value => out ++ quote value
  | array [] => out ++ "[]"
  | array (item :: items) =>
    writeItems (level + 1) (write (level + 1) (out ++ "[" ++ breakLine (level + 1)) item) items ++
      breakLine level ++ "]"
  | object [] => out ++ "\x7b\x7d"
  | object ((name, value) :: fields) =>
    writeFields (level + 1)
      (write (level + 1) (out ++ "\x7b" ++ breakLine (level + 1) ++ quote name ++ ": ") value)
      fields ++ breakLine level ++ "\x7d"

/-- Writes the second item of an array and those behind it. -/
def writeItems (level : Nat) (out : String) : List Json → String
  | [] => out
  | item :: items => writeItems level (write level (out ++ "," ++ breakLine level) item) items

/-- Writes the second field of an object and those behind it. -/
def writeFields (level : Nat) (out : String) : List (String × Json) → String
  | [] => out
  | (name, value) :: fields =>
    writeFields level (write level (out ++ "," ++ breakLine level ++ quote name ++ ": ") value)
      fields

end

/-- The text of a value. -/
def pretty (j : Json) : String := write 0 "" j

end Json

end TopDown
