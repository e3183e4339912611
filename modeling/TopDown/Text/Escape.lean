import TopDown.Unicode.Property

/-!
# Characters and strings in escaped form

* `escapeCode c` : a character by its code point, as `\u` and the hexadecimal number in braces;
* `isHidden c` : `c` cannot be told from the text around it when shown as it is;
* `escapeChar c` : tab, line feed, carriage return and backslash by name, hidden characters by code
  point, everything else as it is;
* `quoteChar c` : a character between single quotes, as diagnostics show it;
* `quoteString s` : a string literal, as emitted source holds it.
-/

namespace TopDown.Text

def escapeCode (c : Char) : String :=
  "\\u\x7b" ++ String.ofList (Nat.toDigits 16 c.toNat) ++ "\x7d"

/-- Marks that extend a grapheme although they take up room of their own. -/
def isHalfwidthMark (c : Char) : Bool := c.toNat == 0xFF9E || c.toNat == 0xFF9F

/-- Characters that would join their neighbour, that show as nothing or that cannot be shown. -/
def isHidden (c : Char) : Bool :=
  (Unicode.isGraphemeExtend c && !isHalfwidthMark c) || Unicode.isFiller c ||
    !Unicode.isPrintable c

/-- A character in a quoted form, quotes and NUL apart. -/
def escapeChar (c : Char) : String :=
  if c = '\t' then "\\t"
  else if c = '\n' then "\\n"
  else if c = '\r' then "\\r"
  else if c = '\\' then "\\\\"
  else if isHidden c then escapeCode c
  else String.singleton c

/-- A character between single quotes. -/
def quoteChar (c : Char) : String :=
  "'" ++ (if c = '\x00' then "\\0" else if c = '\'' then "\\'" else escapeChar c) ++ "'"

def isOctalDigit (c : Char) : Bool := '0' ≤ c && c ≤ '7'

/-- NUL in a string literal. In front of an octal digit it is written in full, so that the two do
not read as one number. -/
def escapeNul : List Char → String
  | c :: _ => if isOctalDigit c then "\\x00" else "\\0"
  | [] => "\\0"

/-- The inside of a string literal. -/
def escapeString : List Char → String
  | [] => ""
  | c :: s =>
    (if c = '\x00' then escapeNul s
      else if c = '"' then "\\\""
      else escapeChar c) ++ escapeString s

/-- A string literal. -/
def quoteString (s : String) : String := "\"" ++ escapeString s.toList ++ "\""

end TopDown.Text
