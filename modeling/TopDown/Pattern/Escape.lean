import TopDown.Pattern.Expr
import TopDown.Pattern.Property
import TopDown.Text.Blank
import TopDown.Text.Hex

/-!
# Flags and escapes of patterns

* `Flags` : what the letters in `(?imsUuxR)` switch;
* `Flags.skip` : the text without leading blanks and comments, where these are to be ignored;
* `Flags.foldSet`, `Flags.foldChar` : a set or a character with its case variants, where case is to
  be ignored;
* `Primitive` : what an escape can stand for;
* `readEscape` : the escape behind a backslash, and the rest after it.

The readers of a counted text take the number of characters that are left as a bound on their
steps.
-/

namespace TopDown.Pattern

open Text

/-- The switches of a pattern. -/
structure Flags where
  ignoreCase : Bool := false
  multiLine : Bool := false
  dotNewline : Bool := false
  swapGreed : Bool := false
  unicode : Bool := true
  ignoreBlanks : Bool := false
  crlf : Bool := false

/-- Drops blanks and `#` comments; `inComment` says whether a comment is open. -/
def skipIgnored (inComment : Bool) : List Char → List Char
  | [] => []
  | c :: s =>
    if inComment then skipIgnored (c != '\n') s
    else if isBlank c then skipIgnored false s
    else if c = '#' then skipIgnored true s
    else c :: s

def Flags.skip (f : Flags) (s : List Char) : List Char :=
  if f.ignoreBlanks then skipIgnored false s else s

/-- A set with its case variants, if case is to be ignored. -/
def Flags.foldSet (f : Flags) (s : CharSet) : CharSet :=
  if !f.ignoreCase then s else if f.unicode then Unicode.Ranges.foldCase s else s.foldAscii

/-- A character with its case variants, if case is to be ignored. -/
def Flags.foldChar (f : Flags) (c : Char) : CharSet :=
  if !f.ignoreCase then .ofChar c
  else if f.unicode then .ofCodes ((Unicode.caseVariants c).map Char.toNat)
  else (CharSet.ofChar c).foldAscii

/-- What a single item of a pattern stands for. -/
inductive Primitive where
  | literal (c : Char)
  | look (l : Look)
  | set (s : CharSet)

/-- A character with a meaning of its own, which an escape takes away. -/
def isMeta (c : Char) : Bool := "\\.+*?()|[]\x7b\x7d^$#&-~".toList.contains c

/-- A character that may be escaped: ASCII, but no letter, digit or angle bracket. -/
def isEscapable (c : Char) : Bool :=
  isMeta c || (c.toNat < 128 && !c.isAlphanum && c != '<' && c != '>')

/-- Exactly `n` characters, ignored text between them dropped. -/
def takeChars (f : Flags) : Nat → List Char → Option (List Char × List Char)
  | 0, s => some ([], s)
  | n + 1, s =>
    match f.skip s with
    | [] => none
    | c :: rest => (takeChars f n rest).map fun (t, r) => (c :: t, r)

/-- The characters up to a closing brace, ignored text dropped. -/
def takeBraced (f : Flags) : Nat → List Char → Option (List Char × List Char)
  | 0, _ => none
  | n + 1, s =>
    match f.skip s with
    | [] => none
    | '\x7d' :: rest => some ([], rest)
    | c :: rest => (takeBraced f n rest).map fun (t, r) => (c :: t, r)

/-- A character by code point: `n` digits, or any number of them in braces. Without Unicode two
digits are a byte, and of a character above ASCII that would be half. -/
def readHexEscape (f : Flags) (n : Nat) (s : List Char) : Option (Char × List Char) :=
  match f.skip s with
  | '\x7b' :: rest =>
    match takeBraced f (rest.length + 1) rest with
    | some (ds, rest) => (charOfHex? ds).map fun c => (c, rest)
    | none => none
  | rest =>
    match takeChars f n rest with
    | some (ds, rest) =>
      match charOfHex? ds with
      | some c => if n = 2 && !f.unicode && c.toNat > 127 then none else some (c, rest)
      | none => none
    | none => none

/-- The set of a Unicode class: one letter, or a property in braces. -/
def readPropertyClass (f : Flags) (negated : Bool) (s : List Char) :
    Option (CharSet × List Char) :=
  if !f.unicode then none
  else
    let query : Option (PropertyQuery × List Char) :=
      match f.skip s with
      | '\x7b' :: rest =>
        (takeBraced f (rest.length + 1) rest).map fun (text, rest) =>
          (PropertyQuery.read text, rest)
      | [] => none
      | c :: rest => if c = '\\' then none else some (⟨[c], none, false⟩, rest)
    match query with
    | some (q, rest) =>
      q.set?.map fun set => (CharSet.negateIf (negated != q.negated) (f.foldSet set), rest)
    | none => none

/-- A class such as `\d`. Without Unicode its complement would hold half characters, so it is
refused. -/
def readNamedClass (f : Flags) (negated : Bool) (set : Bool → CharSet) (rest : List Char) :
    Option (Primitive × List Char) :=
  if negated && !f.unicode then none
  else some (.set (CharSet.negateIf negated (set f.unicode)), rest)

/-- The word boundary that the text in braces behind `\b` names, if it can be one at all. -/
def readBoundary (f : Flags) (s : List Char) : Option (Look × List Char) :=
  match s with
  | '\x7b' :: rest =>
    match f.skip rest with
    | [] => none
    | c :: _ =>
      if c.isAlpha || c == '-' then
        match takeBraced f (rest.length + 1) rest with
        | some (name, after) =>
          match String.ofList name with
          | "start" => some (.wordStart f.unicode, after)
          | "end" => some (.wordEnd f.unicode, after)
          | "start-half" => some (.wordStartHalf f.unicode, after)
          | "end-half" => some (.wordEndHalf f.unicode, after)
          | _ => none
        | none => none
      else some (.wordBoundary f.unicode, s)
  | _ => some (.wordBoundary f.unicode, s)

/-- The escape at the start of a text that follows a backslash. -/
def readEscape (f : Flags) : List Char → Option (Primitive × List Char)
  | [] => none
  | c :: s =>
    let literal := fun (r : Option (Char × List Char)) =>
      r.map fun (d, rest) => (Primitive.literal d, rest)
    if isEscapable c then some (.literal c, s)
    else match c with
      | 'x' => literal (readHexEscape f 2 s)
      | 'u' => literal (readHexEscape f 4 s)
      | 'U' => literal (readHexEscape f 8 s)
      | 'p' => (readPropertyClass f false s).map fun (set, rest) => (.set set, rest)
      | 'P' => (readPropertyClass f true s).map fun (set, rest) => (.set set, rest)
      | 'd' => readNamedClass f false CharSet.digit s
      | 'D' => readNamedClass f true CharSet.digit s
      | 's' => readNamedClass f false CharSet.blank s
      | 'S' => readNamedClass f true CharSet.blank s
      | 'w' => readNamedClass f false CharSet.word s
      | 'W' => readNamedClass f true CharSet.word s
      | 'a' => some (.literal '\x07', s)
      | 'f' => some (.literal '\x0c', s)
      | 't' => some (.literal '\t', s)
      | 'n' => some (.literal '\n', s)
      | 'r' => some (.literal '\r', s)
      | 'v' => some (.literal '\x0b', s)
      | 'A' => some (.look .start, s)
      | 'z' => some (.look .finish, s)
      | 'b' => (readBoundary f s).map fun (l, rest) => (.look l, rest)
      | 'B' => some (.look (.notWordBoundary f.unicode), s)
      | '<' => some (.look (.wordStart f.unicode), s)
      | '>' => some (.look (.wordEnd f.unicode), s)
      | _ => none

end TopDown.Pattern
