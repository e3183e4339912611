/-!
# Blanks: white space, gaps and trimming

* `isBlank c` : `c` is white space in the sense of the Unicode property `White_Space`;
* `isGap c` : `c` is a space or a tab, the only blanks allowed between the parts of a line;
* `trimStart`, `trimEnd`, `trim` : a text without its leading, trailing or outer blanks;
* `skipGap` : a text without its leading gap;
* `dropByteOrderMark` : a text without the mark that may stand in front of all else.
-/

namespace TopDown.Text

/-- White space in the Unicode sense: the 25 characters of `White_Space`. -/
def isBlank (c : Char) : Bool :=
  let n := c.toNat
  (9 ≤ n && n ≤ 13) || n == 0x20 || n == 0x85 || n == 0xA0 || n == 0x1680 ||
    (0x2000 ≤ n && n ≤ 0x200A) || n == 0x2028 || n == 0x2029 || n == 0x202F || n == 0x205F ||
    n == 0x3000

/-- A space or a tab. -/
def isGap (c : Char) : Bool := c == ' ' || c == '\t'

def trimStart (s : List Char) : List Char := s.dropWhile isBlank

def trimEnd (s : List Char) : List Char := (s.reverse.dropWhile isBlank).reverse

/-- The text between the first and the last character that is not blank. -/
def trim (s : List Char) : List Char := trimEnd (trimStart s)

def skipGap (s : List Char) : List Char := s.dropWhile isGap

/-- A text without a byte order mark in front. -/
def dropByteOrderMark : List Char → List Char
  | '\uFEFF' :: s => s
  | s => s

theorem isBlank_of_isGap {c : Char} (h : isGap c = true) : isBlank c = true := by
  simp only [isGap, Bool.or_eq_true, beq_iff_eq] at h
  rcases h with rfl | rfl <;> decide

theorem length_skipGap_le (s : List Char) : (skipGap s).length ≤ s.length :=
  (List.dropWhile_sublist _).length_le

end TopDown.Text
