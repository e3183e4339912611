/-!
# Layout of nested lists

A list is printed on one line if it fits there. Otherwise each of its items goes on a line of its
own, indented by one level and followed by a comma, and is laid out in the same way.

* `Layout` : texts that never break, and lists of layouts between brackets;
* `Layout.flat` : everything on one line;
* `Layout.render` : broken where it does not fit.
-/

namespace TopDown.Emission

/-- A text or a bracketed list. -/
inductive Layout where
  | atom (text : String)
  | list (opening closing : String) (items : List Layout)

/-- The last column, in bytes, that a list on one line may reach. -/
def lineWidth : Nat := 89

def spaces (n : Nat) : String := String.ofList (List.replicate n ' ')

/-- The columns of one level of indentation. -/
def indentWidth : Nat := 4

namespace Layout

mutual

/-- The layout on one line. -/
def flat : Layout → String
  | atom text => text
  | list opening closing items => opening ++ flatItems items ++ closing

/-- The items of a list on one line. -/
def flatItems : List Layout → String
  | [] => ""
  | [i] => i.flat
  | i :: j :: is => i.flat ++ ", " ++ flatItems (j :: is)

end

mutual

/-- The layout from `column` on, on a line indented by `indent`, with `after` bytes directly behind
it. -/
def render (indent column after : Nat) : Layout → String
  | atom text => text
  | list opening closing items =>
    let line := opening ++ flatItems items ++ closing
    if items.isEmpty || column + line.utf8ByteSize + after ≤ lineWidth then line
    else
      opening ++ "\n" ++ renderItems (indent + indentWidth) items ++ spaces indent ++ closing

/-- The items of a broken list. The comma behind the last one is not counted when it is laid
out. -/
def renderItems (indent : Nat) : List Layout → String
  | [] => ""
  | [i] => spaces indent ++ i.render indent indent 0 ++ ",\n"
  | i :: j :: is =>
    spaces indent ++ i.render indent indent 1 ++ ",\n" ++ renderItems indent (j :: is)

end

end Layout

end TopDown.Emission
