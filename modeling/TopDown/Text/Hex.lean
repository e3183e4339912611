/-!
# Characters by code point

* `hexValue?` : the value of a hexadecimal digit, upper or lower case;
* `scalar?` : the character of a code point, if there is one;
* `charOfHex?` : the character whose code point a list of hexadecimal digits writes.
-/

namespace TopDown.Text

def hexValue? (c : Char) : Option Nat :=
  if c.isDigit then some (c.toNat - '0'.toNat)
  else if 'a' ≤ c && c ≤ 'f' then some (c.toNat - 'a'.toNat + 10)
  else if 'A' ≤ c && c ≤ 'F' then some (c.toNat - 'A'.toNat + 10)
  else none

/-- The character of a code point. -/
def scalar? (n : Nat) : Option Char := if n.isValidChar then some (Char.ofNat n) else none

/-- The character that a list of hexadecimal digits names. -/
def charOfHex? (digits : List Char) : Option Char :=
  if digits.isEmpty then none
  else
    match digits.mapM hexValue? with
    | some values => scalar? (values.foldl (16 * · + ·) 0)
    | none => none

end TopDown.Text
