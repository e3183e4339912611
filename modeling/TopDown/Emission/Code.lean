import TopDown.Emission.Layout
import TopDown.Text.Lines

/-!
# Lines and blocks of code

* `Code` : a line, or lines that hang under a first line, with or without a closing line;
* `Code.block` : lines in braces;
* `Code.render` : code as a text, each level indented;
* `indentText` : a text with all its lines indented, empty lines apart.
-/

namespace TopDown.Emission

/-- Emitted code. -/
inductive Code where
  | line (text : String)
  | nest (first : String) (body : List Code) (last : Option String)

namespace Code

/-- Lines in braces behind `head`, with `tail` directly after the closing brace. -/
def block (head : String) (body : List Code) (tail : String) : Code :=
  .nest (head ++ " \x7b") body (some ("\x7d" ++ tail))

mutual

def render (indent : Nat) : Code → String
  | line text => spaces indent ++ text ++ "\n"
  | nest first body last =>
    spaces indent ++ first ++ "\n" ++ renderAll (indent + indentWidth) body ++
      (match last with
        | some text => spaces indent ++ text ++ "\n"
        | none => "")

def renderAll (indent : Nat) : List Code → String
  | [] => ""
  | c :: cs => c.render indent ++ renderAll indent cs

end

end Code

/-- A line with its indentation, unless it is empty. -/
def indentLine (depth : Nat) (line : List Char) : String :=
  (if line.isEmpty then "" else spaces (indentWidth * depth) ++ String.ofList line) ++ "\n"

/-- A text indented by `depth` levels. -/
def indentText (depth : Nat) (text : String) : String :=
  if depth = 0 then text else String.join ((Text.lines text.toList).map (indentLine depth))

end TopDown.Emission
