import TopDown.Pattern.CharSet
import TopDown.Unicode.Age
import TopDown.Unicode.Segmentation

/-!
# Unicode properties in patterns

* `normalizeName` : a name of a property or a value, reduced to what tells it from others;
* `ofCategoryName?` : the characters of a general category or of a group of them;
* `ofPropertyName?` : the characters of a property that is named alone: a binary property, a general
  category or a script;
* `ofPropertyValue?` : the characters for which a property has a value;
* `PropertyQuery.read` : the inside of a property class, taken apart.
-/

namespace TopDown.Pattern

open Unicode

/-- A text in lower case, without blanks, hyphens, underscores and all that is not ASCII. -/
def plainName (name : List Char) : List Char :=
  (name.filter fun c => c.toNat < 128 && c != ' ' && c != '-' && c != '_').map Char.toLower

/-- A name in plain form, without the `is` that it may start with. Only the name `isc` keeps it,
as it does not mean the category `c`. -/
def normalizeName (name : List Char) : String :=
  match name with
  | i :: s :: rest =>
    if i.toLower = 'i' && s.toLower = 's' then
      if plainName rest = ['c'] then "isc" else String.ofList (plainName rest)
    else String.ofList (plainName name)
  | _ => String.ofList (plainName name)

/-! ## General categories -/

def categoryNames : List (String × Category) :=
  [("lu", .lu), ("uppercaseletter", .lu), ("ll", .ll), ("lowercaseletter", .ll), ("lt", .lt),
   ("titlecaseletter", .lt), ("lm", .lm), ("modifierletter", .lm), ("lo", .lo),
   ("otherletter", .lo), ("mn", .mn), ("nonspacingmark", .mn), ("mc", .mc), ("spacingmark", .mc),
   ("me", .me), ("enclosingmark", .me), ("nd", .nd), ("decimalnumber", .nd), ("digit", .nd),
   ("nl", .nl), ("letternumber", .nl), ("no", .no), ("othernumber", .no), ("pc", .pc),
   ("connectorpunctuation", .pc), ("pd", .pd), ("dashpunctuation", .pd), ("ps", .ps),
   ("openpunctuation", .ps), ("pe", .pe), ("closepunctuation", .pe), ("pi", .pi),
   ("initialpunctuation", .pi), ("pf", .pf), ("finalpunctuation", .pf), ("po", .po),
   ("otherpunctuation", .po), ("sm", .sm), ("mathsymbol", .sm), ("sc", .sc),
   ("currencysymbol", .sc), ("sk", .sk), ("modifiersymbol", .sk), ("so", .so),
   ("othersymbol", .so), ("zs", .zs), ("spaceseparator", .zs), ("zl", .zl),
   ("lineseparator", .zl), ("zp", .zp), ("paragraphseparator", .zp), ("cc", .cc), ("cntrl", .cc),
   ("control", .cc), ("cf", .cf), ("format", .cf), ("co", .co), ("privateuse", .co),
   ("cn", .cn), ("unassigned", .cn)]

def categoryGroups : List (String × (Category → Bool)) :=
  [("l", Category.isLetter), ("letter", Category.isLetter), ("m", Category.isMark),
   ("mark", Category.isMark), ("combiningmark", Category.isMark), ("n", Category.isNumber),
   ("number", Category.isNumber), ("p", Category.isPunctuation), ("punct", Category.isPunctuation),
   ("punctuation", Category.isPunctuation), ("s", Category.isSign), ("symbol", Category.isSign),
   ("z", Category.isSeparator), ("separator", Category.isSeparator), ("c", Category.isOther),
   ("other", Category.isOther), ("lc", Category.isCasedLetter),
   ("casedletter", Category.isCasedLetter)]

/-- The characters of a general category or a group of them. -/
def ofCategoryName? (name : String) : Option CharSet :=
  match name with
  | "any" => some .all
  | "assigned" => some (Ranges.compl (categorySet (· == .cn)))
  | "ascii" => some [(0, 0x7F)]
  | _ =>
    match categoryNames.lookup name with
    | some k => some (categorySet (· == k))
    | none => (categoryGroups.lookup name).map categorySet

/-! ## Properties -/

def ofPropertyName? (name : String) : Option CharSet :=
  match BinaryProperty.ofName? name with
  | some p => some p.set
  | none =>
    match ofCategoryName? name with
    | some s => some s
    | none => script? name

def ofPropertyValue? (name value : String) : Option CharSet :=
  match name with
  | "gc" | "generalcategory" => ofCategoryName? value
  | "sc" | "script" => script? value
  | "scx" | "scriptextensions" => scriptExtension? value
  | "age" => age? value
  | "gcb" | "graphemeclusterbreak" => graphemeBreak? value
  | "wb" | "wordbreak" => wordBreak? value
  | "sb" | "sentencebreak" => sentenceBreak? value
  | _ => none

/-- The text before and after the first place where `mark` stands. -/
def splitAtMark? (mark : List Char) : List Char → Option (List Char × List Char)
  | [] => none
  | c :: s =>
    if mark.isPrefixOf (c :: s) then some ([], (c :: s).drop mark.length)
    else (splitAtMark? mark s).map fun (a, b) => (c :: a, b)

/-- What a property class asks for. -/
structure PropertyQuery where
  name : List Char
  value : Option (List Char)
  /-- The characters that differ in the value are meant. -/
  negated : Bool

namespace PropertyQuery

/-- A property, or a property and a value around `!=`, `:` or `=`. The first of these marks that
occurs at all divides the text. -/
def read (text : List Char) : PropertyQuery :=
  match splitAtMark? ['!', '='] text with
  | some (name, value) => ⟨name, some value, true⟩
  | none =>
    match splitAtMark? [':'] text with
    | some (name, value) => ⟨name, some value, false⟩
    | none =>
      match splitAtMark? ['='] text with
      | some (name, value) => ⟨name, some value, false⟩
      | none => ⟨text, none, false⟩

/-- The characters that the query names, its negation left aside. -/
def set? (q : PropertyQuery) : Option CharSet :=
  match q.value with
  | some value => ofPropertyValue? (normalizeName q.name) (normalizeName value)
  | none => ofPropertyName? (normalizeName q.name)

end PropertyQuery

end TopDown.Pattern
