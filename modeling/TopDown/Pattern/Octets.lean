import TopDown.Pattern.CharSet

/-!
# Characters as octets

* `octetCount`, `octets` : how many octets a character takes, and which;
* `octetRanges` : the characters of a range as sequences of octet ranges, in ascending order. Two
  sequences have no character in common, and together they have all;
* `CharSet.octetRanges` : the same for a set.
-/

namespace TopDown.Pattern

/-- A sequence of ranges, one for each octet of a character. -/
abbrev OctetRanges := List (Nat × Nat)

/-- How many octets a code point takes. -/
def octetCount (n : Nat) : Nat :=
  if n < 0x80 then 1 else if n < 0x800 then 2 else if n < 0x10000 then 3 else 4

/-- The octets of a character. -/
def octets (c : Char) : List Nat :=
  let n := c.toNat
  match octetCount n with
  | 1 => [n]
  | 2 => [0xC0 + n / 64, 0x80 + n % 64]
  | 3 => [0xE0 + n / 4096, 0x80 + n / 64 % 64, 0x80 + n % 64]
  | _ => [0xF0 + n / 262144, 0x80 + n / 4096 % 64, 0x80 + n / 64 % 64, 0x80 + n % 64]

/-- The numbers from `lo` to `hi`, written with `level + 1` digits to the base 64, as sequences of
digit ranges. Numbers that share their first digit with `lo` or `hi` are set apart, unless these
are the first or the last numbers with that digit. -/
def digitRanges : Nat → Nat → Nat → List OctetRanges
  | 0, lo, hi => [[(lo, hi)]]
  | level + 1, lo, hi =>
    let block := 64 ^ (level + 1)
    let first := lo / block
    let last := hi / block
    if first = last then
      (digitRanges level (lo % block) (hi % block)).map ((first, first) :: ·)
    else
      let below := if lo % block = 0 then [] else
        (digitRanges level (lo % block) (block - 1)).map ((first, first) :: ·)
      let above := if hi % block = block - 1 then [] else
        (digitRanges level 0 (hi % block)).map ((last, last) :: ·)
      let start := if lo % block = 0 then first else first + 1
      let stop := if hi % block = block - 1 then last + 1 else last
      let between := if start < stop then
        [(start, stop - 1) :: List.replicate (level + 1) (0, 63)] else []
      below ++ between ++ above

/-- Digits as octets: the first is marked with the number of octets, the others as followers. -/
def markDigits (lead : Nat) : OctetRanges → OctetRanges
  | [] => []
  | (a, b) :: rs => (lead + a, lead + b) :: rs.map fun (a, b) => (0x80 + a, 0x80 + b)

/-- The part of a range that lies between `least` and `most`, in octets after the first. -/
def octetRangesWithin (least most level lead lo hi : Nat) : List OctetRanges :=
  if max lo least ≤ min hi most then
    (digitRanges level (max lo least) (min hi most)).map (markDigits lead)
  else []

def octetRanges (lo hi : Nat) : List OctetRanges :=
  octetRangesWithin 0 0x7F 0 0 lo hi ++ octetRangesWithin 0x80 0x7FF 1 0xC0 lo hi ++
    octetRangesWithin 0x800 0xFFFF 2 0xE0 lo hi ++ octetRangesWithin 0x10000 0x10FFFF 3 0xF0 lo hi

/-- All characters of a set. -/
def CharSet.octetRanges (s : CharSet) : List OctetRanges :=
  s.flatMap fun (lo, hi) => Pattern.octetRanges lo hi

end TopDown.Pattern
