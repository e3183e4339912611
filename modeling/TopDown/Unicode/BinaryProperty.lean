import TopDown.Unicode.Category
import TopDown.Unicode.PropertyData

/-!
# Binary properties

The properties that a character has or has not, as of version 16. Most are put together from
general categories and lists of exceptions, in the way that the standard derives them.

* `letters`, `alphabetic`, `wordChars`, ... : the sets that other sets are made of;
* `BinaryProperty` : the properties;
* `BinaryProperty.ofName?` : a property by its name or its abbreviation, in lower case and without
  blanks, hyphens and underscores;
* `BinaryProperty.set` : the characters with a property.
-/

namespace TopDown.Unicode

open Ranges

/-! ## Sets that other sets are made of -/

def whiteSpace : Ranges := .ofLines ["9-d 20 85 a0 1680 2000-200a 2028-2029 202f 205f 3000"]

/-- Marks that choose a form of the character before them. -/
def variationSelectors : Ranges := .ofLines ["180b-180d 180f fe00-fe0f e0100-e01ef"]

def regionalIndicators : Ranges := .ofLines ["1f1e6-1f1ff"]

/-- Skin tones of emoji. -/
def emojiModifiers : Ranges := .ofLines ["1f3fb-1f3ff"]

/-- Letters and letter numbers. -/
def letters : Ranges := categorySet fun k => k.isLetter || k == .nl

def alphabetic : Ranges := letters.union otherAlphabetic

def lowercase : Ranges := (categorySet (· == .ll)).union otherLowercase

def uppercase : Ranges := (categorySet (· == .lu)).union otherUppercase

def graphemeExtend : Ranges := (categorySet fun k => k == .mn || k == .me).union otherGraphemeExtend

def idStart : Ranges := (letters.union otherIdStart).diff patternSyntax

def idContinue : Ranges :=
  .unions [idStart, categorySet fun k => k == .mn || k == .mc || k == .nd || k == .pc,
    otherIdContinue]

/-- Compatibility characters that start with a blank or a mark when they are taken apart. -/
def looseLetters : Ranges := .ofLines
  ["37a 309b-309c fc5e-fc63 fdfa-fdfb fe70 fe72 fe74 fe76 fe78 fe7a fe7c fe7e"]

/-- Vowels and voicing marks that end in a mark when they are taken apart. -/
def looseVowels : Ranges := .ofLines ["e33 eb3 ff9e-ff9f"]

def defaultIgnorable : Ranges :=
  ((categorySet (· == .cf)).union (otherDefaultIgnorable.union variationSelectors)).diff
    (concatenationMark.union (.ofLines ["fff9-fffb 13430-1343f"]))

def titlecaseChanges : Ranges :=
  (uppercaseChanges.diff (.ofLines
    ["1c5 1c8 1cb 1f2 10d0-10fa 10fd-10ff 1f88-1f8f 1f98-1f9f 1fa8-1faf 1fbc 1fcc 1ffc"])).union
    (.ofLines ["1c4 1c7 1ca 1f1"])

def foldingChanges : Ranges :=
  (lowercaseChanges.diff (.ofLines ["13a0-13f5"])).union (.ofLines
    ["b5 df 149 17f 345 3c2 3d0-3d1 3d5-3d6 3f0-3f1 3f5 587 13f8-13fd 1c80-1c88 1e9a-1e9b",
     "1f80-1f87 1f90-1f97 1fa0-1fa7 1fb2-1fb4 1fb7 1fc2-1fc4 1fc7 1ff2-1ff4 1ff7 ab70-abbf",
     "fb00-fb06 fb13-fb17"])

/-- Signs that may start an identifier in mathematical profiles. -/
def mathStart : Ranges := .ofLines
  ["2202 2207 221e 1d6c1 1d6db 1d6fb 1d715 1d735 1d74f 1d76f 1d789 1d7a9 1d7c3"]

/-- What words are made of: alphabetic characters, marks, decimal digits, connectors and the two
joiners. -/
def wordChars : Ranges :=
  .unions [alphabetic, categorySet fun k => k.isMark || k == .nd || k == .pc, [(0x200C, 0x200D)]]

/-! ## The properties -/

/-- The properties of characters that are either there or not. -/
inductive BinaryProperty where
  | asciiHexDigit | alphabetic | bidiControl | caseIgnorable | cased
  | changesWhenCasefolded | changesWhenCasemapped | changesWhenLowercased
  | changesWhenTitlecased | changesWhenUppercased
  | dash | defaultIgnorable | deprecated | diacritic
  | emoji | emojiComponent | emojiModifier | emojiModifierBase | emojiPresentation
  | extendedPictographic | extender
  | graphemeBase | graphemeExtend | graphemeLink
  | hexDigit | hyphen
  | idCompatMathContinue | idCompatMathStart | idContinue | idStart
  | idsBinaryOperator | idsTrinaryOperator | idsUnaryOperator
  | ideographic | joinControl | logicalOrderException | lowercase | math
  | modifierCombiningMark | noncharacter
  | otherAlphabetic | otherDefaultIgnorable | otherGraphemeExtend | otherIdContinue | otherIdStart
  | otherLowercase | otherMath | otherUppercase
  | patternSyntax | patternWhiteSpace | prependedConcatenationMark | quotationMark
  | radical | regionalIndicator | sentenceTerminal | softDotted | terminalPunctuation
  | unifiedIdeograph | uppercase | variationSelector | whiteSpace | xidContinue | xidStart

namespace BinaryProperty

/-- The names of the properties. -/
def names : List (String × BinaryProperty) :=
  [("ahex", asciiHexDigit), ("asciihexdigit", asciiHexDigit), ("alpha", alphabetic),
   ("alphabetic", alphabetic), ("bidic", bidiControl), ("bidicontrol", bidiControl),
   ("ci", caseIgnorable), ("caseignorable", caseIgnorable), ("cased", cased),
   ("cwcf", changesWhenCasefolded), ("changeswhencasefolded", changesWhenCasefolded),
   ("cwcm", changesWhenCasemapped), ("changeswhencasemapped", changesWhenCasemapped),
   ("cwl", changesWhenLowercased), ("changeswhenlowercased", changesWhenLowercased),
   ("cwt", changesWhenTitlecased), ("changeswhentitlecased", changesWhenTitlecased),
   ("cwu", changesWhenUppercased), ("changeswhenuppercased", changesWhenUppercased),
   ("dash", dash), ("di", defaultIgnorable), ("defaultignorablecodepoint", defaultIgnorable),
   ("dep", deprecated), ("deprecated", deprecated), ("dia", diacritic), ("diacritic", diacritic),
   ("emoji", emoji), ("ecomp", emojiComponent), ("emojicomponent", emojiComponent),
   ("emod", emojiModifier), ("emojimodifier", emojiModifier), ("ebase", emojiModifierBase),
   ("emojimodifierbase", emojiModifierBase), ("epres", emojiPresentation),
   ("emojipresentation", emojiPresentation), ("extpict", extendedPictographic),
   ("extendedpictographic", extendedPictographic), ("ext", extender), ("extender", extender),
   ("grbase", graphemeBase), ("graphemebase", graphemeBase), ("grext", graphemeExtend),
   ("graphemeextend", graphemeExtend), ("grlink", graphemeLink), ("graphemelink", graphemeLink),
   ("hex", hexDigit), ("hexdigit", hexDigit), ("hyphen", hyphen),
   ("idcompatmathcontinue", idCompatMathContinue), ("idcompatmathstart", idCompatMathStart),
   ("idc", idContinue), ("idcontinue", idContinue), ("ids", idStart), ("idstart", idStart),
   ("idsb", idsBinaryOperator), ("idsbinaryoperator", idsBinaryOperator),
   ("idst", idsTrinaryOperator), ("idstrinaryoperator", idsTrinaryOperator),
   ("idsu", idsUnaryOperator), ("idsunaryoperator", idsUnaryOperator), ("ideo", ideographic),
   ("ideographic", ideographic), ("joinc", joinControl), ("joincontrol", joinControl),
   ("loe", logicalOrderException), ("logicalorderexception", logicalOrderException),
   ("lower", lowercase), ("lowercase", lowercase), ("math", math), ("mcm", modifierCombiningMark),
   ("modifiercombiningmark", modifierCombiningMark), ("nchar", noncharacter),
   ("noncharactercodepoint", noncharacter), ("oalpha", otherAlphabetic),
   ("otheralphabetic", otherAlphabetic), ("odi", otherDefaultIgnorable),
   ("otherdefaultignorablecodepoint", otherDefaultIgnorable), ("ogrext", otherGraphemeExtend),
   ("othergraphemeextend", otherGraphemeExtend), ("oidc", otherIdContinue),
   ("otheridcontinue", otherIdContinue), ("oids", otherIdStart), ("otheridstart", otherIdStart),
   ("olower", otherLowercase), ("otherlowercase", otherLowercase), ("omath", otherMath),
   ("othermath", otherMath), ("oupper", otherUppercase), ("otheruppercase", otherUppercase),
   ("patsyn", patternSyntax), ("patternsyntax", patternSyntax), ("patws", patternWhiteSpace),
   ("patternwhitespace", patternWhiteSpace), ("pcm", prependedConcatenationMark),
   ("prependedconcatenationmark", prependedConcatenationMark), ("qmark", quotationMark),
   ("quotationmark", quotationMark), ("radical", radical), ("ri", regionalIndicator),
   ("regionalindicator", regionalIndicator), ("sterm", sentenceTerminal),
   ("sentenceterminal", sentenceTerminal), ("sd", softDotted), ("softdotted", softDotted),
   ("term", terminalPunctuation), ("terminalpunctuation", terminalPunctuation),
   ("uideo", unifiedIdeograph), ("unifiedideograph", unifiedIdeograph), ("upper", uppercase),
   ("uppercase", uppercase), ("vs", variationSelector), ("variationselector", variationSelector),
   ("wspace", whiteSpace), ("space", whiteSpace), ("whitespace", whiteSpace),
   ("xidc", xidContinue), ("xidcontinue", xidContinue), ("xids", xidStart),
   ("xidstart", xidStart)]

def ofName? (name : String) : Option BinaryProperty := names.lookup name

/-- The characters with a property. -/
def set : BinaryProperty → Ranges
  | asciiHexDigit => .ofLines ["30-39 41-46 61-66"]
  | alphabetic => Unicode.alphabetic
  | bidiControl => .ofLines ["61c 200e-200f 202a-202e 2066-2069"]
  | caseIgnorable =>
    (categorySet fun k => k == .mn || k == .me || k == .cf || k == .lm || k == .sk).union
      betweenLetters
  | cased => .unions [Unicode.lowercase, Unicode.uppercase, categorySet (· == .lt)]
  | changesWhenCasefolded => foldingChanges
  | changesWhenCasemapped => .unions [lowercaseChanges, uppercaseChanges, titlecaseChanges]
  | changesWhenLowercased => lowercaseChanges
  | changesWhenTitlecased => titlecaseChanges
  | changesWhenUppercased => uppercaseChanges
  | dash => Unicode.dash
  | defaultIgnorable => Unicode.defaultIgnorable
  | deprecated => Unicode.deprecated
  | diacritic => Unicode.diacritic
  | emoji => Unicode.emoji
  | emojiComponent => Unicode.emojiComponent
  | emojiModifier => emojiModifiers
  | emojiModifierBase => Unicode.emojiModifierBase
  | emojiPresentation => Unicode.emojiPresentation
  | extendedPictographic => Unicode.extendedPictographic
  | extender => Unicode.extender
  | graphemeBase =>
    (categorySet fun k => !k.isOther && k != .zl && k != .zp).diff Unicode.graphemeExtend
  | graphemeExtend => Unicode.graphemeExtend
  | graphemeLink => Unicode.graphemeLink
  | hexDigit => .ofLines ["30-39 41-46 61-66 ff10-ff19 ff21-ff26 ff41-ff46"]
  | hyphen => Unicode.hyphen
  | idCompatMathContinue => (Ranges.ofLines ["b2-b3 b9 2070 2074-207e 2080-208e"]).union mathStart
  | idCompatMathStart => mathStart
  | idContinue => Unicode.idContinue
  | idStart => Unicode.idStart
  | idsBinaryOperator => .ofLines ["2ff0-2ff1 2ff4-2ffd 31ef"]
  | idsTrinaryOperator => .ofLines ["2ff2-2ff3"]
  | idsUnaryOperator => .ofLines ["2ffe-2fff"]
  | ideographic => Unicode.ideographic
  | joinControl => .ofLines ["200c-200d"]
  | logicalOrderException => .ofLines ["e40-e44 ec0-ec4 19b5-19b7 19ba aab5-aab6 aab9 aabb-aabc"]
  | lowercase => Unicode.lowercase
  | math => (categorySet (· == .sm)).union Unicode.otherMath
  | modifierCombiningMark =>
    .ofLines ["654-655 658 6dc 6e3 6e7-6e8 8ca-8cb 8cd-8cf 8d3 8f3"]
  | noncharacter => Unicode.noncharacter
  | otherAlphabetic => Unicode.otherAlphabetic
  | otherDefaultIgnorable => Unicode.otherDefaultIgnorable
  | otherGraphemeExtend => Unicode.otherGraphemeExtend
  | otherIdContinue => Unicode.otherIdContinue
  | otherIdStart => Unicode.otherIdStart
  | otherLowercase => Unicode.otherLowercase
  | otherMath => Unicode.otherMath
  | otherUppercase => Unicode.otherUppercase
  | patternSyntax => Unicode.patternSyntax
  | patternWhiteSpace => .ofLines ["9-d 20 85 200e-200f 2028-2029"]
  | prependedConcatenationMark => concatenationMark
  | quotationMark => Unicode.quotationMark
  | radical => .ofLines ["2e80-2e99 2e9b-2ef3 2f00-2fd5"]
  | regionalIndicator => regionalIndicators
  | sentenceTerminal => Unicode.sentenceTerminal
  | softDotted => Unicode.softDotted
  | terminalPunctuation => Unicode.terminalPunctuation
  | unifiedIdeograph => Unicode.unifiedIdeograph
  | uppercase => Unicode.uppercase
  | variationSelector => variationSelectors
  | whiteSpace => Unicode.whiteSpace
  | xidContinue => Unicode.idContinue.diff looseLetters
  | xidStart => Unicode.idStart.diff (looseLetters.union looseVowels)

end BinaryProperty

end TopDown.Unicode
