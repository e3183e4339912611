/-!
# Lines of a text

`lines s` cuts `s` after every line feed. A line loses its line feed and one carriage return in
front of it; a last line without a line feed keeps all its characters, and a text that ends in a
line feed has no empty line after it.
-/

namespace TopDown.Text

/-- Puts a character in front of the first line, which it opens if there is none yet. -/
def consLine (c : Char) : List (List Char) → List (List Char)
  | [] => [[c]]
  | l :: ls => (c :: l) :: ls

def lines : List Char → List (List Char)
  | [] => []
  | '\n' :: s => [] :: lines s
  | '\r' :: '\n' :: s => [] :: lines s
  | c :: s => consLine c (lines s)

/-- The lines of a text with their numbers, from one. -/
def numberedLines (s : List Char) : List (Nat × List Char) :=
  (lines s).zipIdx.map fun (l, i) => (i + 1, l)

end TopDown.Text
