import TopDown.Unicode.BinaryProperty
import TopDown.Unicode.Script

/-!
# Where text may be divided

The classes by which text is divided into graphemes, words and sentences, as of version 16. Each
function gives the characters of a class by its name or its abbreviation, in lower case; the class
of all that is in no other one cannot be asked for.

* `graphemeBreak? name` : the classes of `Grapheme_Cluster_Break`;
* `wordBreak? name` : the classes of `Word_Break`;
* `sentenceBreak? name` : the classes of `Sentence_Break`.
-/

namespace TopDown.Unicode

open Ranges

def spacingMarks : Ranges := categorySet (· == .mc)

def formats : Ranges := categorySet (· == .cf)

/-- The two joiners and the space without width. -/
def zeroWidths : Ranges := [(0x200B, 0x200D)]

/-- Signs in front of numbers, which count as numbers themselves. -/
def numberSigns : Ranges := .ofLines ["600-605 6dd 890-891 8e2 110bd 110cd"]

/-! ## Graphemes -/

def graphemeExtenders : Ranges := graphemeExtend.union emojiModifiers

def graphemeControls : Ranges :=
  (Ranges.unions [categorySet fun k => k == .zl || k == .zp || k == .cc || k == .cf,
    defaultIgnorable.inter (categorySet (· == .cn))]).diff
    (.unions [.ofLines ["a d 200c-200d"], concatenationMark, graphemeExtend])

/-- Marks that follow the character before them without a break. -/
def graphemeSpacingMarks : Ranges :=
  ((spacingMarks.diff graphemeExtenders).union (.ofLines ["e33 eb3"])).diff (.ofLines
    ["102b-102c 1038 1062-1064 1067-106d 1083 1087-108c 108f 109a-109c 1a61 1a63-1a64 aa7b aa7d",
     "11720-11721"])

/-- Syllables of two jamo, which is every 28th of the Hangul syllables. -/
def openSyllables : Ranges := everyNth 0xAC00 0xD788 28

def graphemeBreak? (name : String) : Option Ranges :=
  match name with
  | "cr" => some (.singleton 13)
  | "lf" => some (.singleton 10)
  | "cn" | "control" => some graphemeControls
  | "ex" | "extend" => some graphemeExtenders
  | "zwj" => some (.singleton 0x200D)
  | "ri" | "regionalindicator" => some regionalIndicators
  | "pp" | "prepend" =>
    some (concatenationMark.union (.ofLines
      ["d4e 111c2-111c3 113d1 1193f 11941 11a3a 11a84-11a89 11d46 11f02"]))
  | "sm" | "spacingmark" => some graphemeSpacingMarks
  | "l" => some (.ofLines ["1100-115f a960-a97c"])
  | "v" => some (.ofLines ["1160-11a7 d7b0-d7c6 16d63 16d67-16d6a"])
  | "t" => some (.ofLines ["11a8-11ff d7cb-d7fb"])
  | "lv" => some openSyllables
  | "lvt" => some ((Ranges.ofLines ["ac00-d7a3"]).diff openSyllables)
  | _ => none

/-! ## Words -/

def wordExtenders : Ranges := .unions [graphemeExtend, spacingMarks, emojiModifiers]

def wordKatakana : Ranges :=
  (scriptSet "katakana").union (.ofLines ["3031-3035 309b-309c 30a0 30fc ff70"])

def hebrewLetters : Ranges := (scriptSet "hebrew").inter (categorySet (· == .lo))

/-- Scripts written without spaces between words. -/
def unspacedScripts : Ranges :=
  .unions (["thai", "lao", "myanmar", "khmer", "taile", "newtailue", "taitham", "taiviet",
    "ahom"].map scriptSet)

def wordLetters : Ranges :=
  (alphabetic.union (.ofLines
    ["2c2-2c5 2d2-2d7 2de-2df 2e5-2eb 2ed 2ef-2ff 55a-55c 55e 58a 5f3 70f a708-a716 a720-a721",
     "a789-a78a ab5b"])).diff
    (.unions [ideographic, wordKatakana, unspacedScripts, scriptSet "hiragana", wordExtenders,
      hebrewLetters])

def wordBreak? (name : String) : Option Ranges :=
  match name with
  | "cr" => some (.singleton 13)
  | "lf" => some (.singleton 10)
  | "nl" | "newline" => some (.ofLines ["b-c 85 2028-2029"])
  | "extend" => some wordExtenders
  | "zwj" => some (.singleton 0x200D)
  | "ri" | "regionalindicator" => some regionalIndicators
  | "fo" | "format" =>
    some (formats.diff (.unions [zeroWidths, graphemeExtend, numberSigns, .singleton 0x70F]))
  | "ka" | "katakana" => some wordKatakana
  | "hl" | "hebrewletter" => some hebrewLetters
  | "le" | "aletter" => some wordLetters
  | "sq" | "singlequote" => some (.singleton 0x27)
  | "dq" | "doublequote" => some (.singleton 0x22)
  | "mb" | "midnumlet" => some (.ofLines ["2e 2018-2019 2024 fe52 ff07 ff0e"])
  | "ml" | "midletter" => some (.ofLines ["3a b7 387 55f 5f4 2027 fe13 fe55 ff1a"])
  | "mn" | "midnum" =>
    some (.ofLines ["2c 3b 37e 589 60c-60d 66c 7f8 2044 fe10 fe14 fe50 fe54 ff0c ff1b"])
  | "nu" | "numeric" =>
    some (.unions [categorySet (· == .nd), .singleton 0x66B, numberSigns])
  | "ex" | "extendnumlet" => some ((categorySet (· == .pc)).union (.singleton 0x202F))
  | "wsegspace" => some (.ofLines ["20 1680 2000-2006 2008-200a 205f 3000"])
  | _ => none

/-! ## Sentences -/

def sentenceExtenders : Ranges := .unions [graphemeExtend, spacingMarks, .singleton 0x200D]

def sentenceLower : Ranges :=
  lowercase.diff (graphemeExtend.union (.ofLines ["10d0-10fa 10fd-10ff"]))

def sentenceUpper : Ranges :=
  ((categorySet (· == .lt)).union uppercase).diff (.ofLines ["1c90-1cba 1cbd-1cbf"])

/-- Full stops that may also end an abbreviation or a number. -/
def fullStops : Ranges := .ofLines ["2e 2024 fe52 ff0e"]

def sentenceBreak? (name : String) : Option Ranges :=
  match name with
  | "cr" => some (.singleton 13)
  | "lf" => some (.singleton 10)
  | "se" | "sep" => some (.ofLines ["85 2028-2029"])
  | "ex" | "extend" => some sentenceExtenders
  | "fo" | "format" =>
    some (formats.diff (.unions [.ofLines ["200c-200d"], graphemeExtend, numberSigns]))
  | "sp" => some (whiteSpace.diff (.ofLines ["a d 85 2028-2029"]))
  | "lo" | "lower" => some sentenceLower
  | "up" | "upper" => some sentenceUpper
  | "le" | "oletter" =>
    some ((alphabetic.union (.singleton 0x5F3)).diff
      (.unions [sentenceLower, sentenceUpper, sentenceExtenders]))
  | "nu" | "numeric" =>
    some (.unions [categorySet (· == .nd), .ofLines ["66b-66c"], numberSigns])
  | "at" | "aterm" => some fullStops
  | "sc" | "scontinue" =>
    some (.ofLines
      ["2c-2d 3a-3b 37e 55d 60c-60d 7f8 1802 1808 2013-2014 3001 fe10-fe11 fe13-fe14 fe31-fe32",
       "fe50-fe51 fe54-fe55 fe58 fe63 ff0c-ff0d ff1a-ff1b ff64"])
  | "st" | "sterm" => some (sentenceTerminal.diff fullStops)
  | "cl" | "close" =>
    some ((Ranges.union
      (categorySet fun k => k == .ps || k == .pe || k == .pi || k == .pf)
      (.ofLines ["22 27 275b-2760 2e00-2e01 2e06-2e08 2e0b 1f676-1f678"])).diff
      (fullStops.union sentenceTerminal))
  | _ => none

end TopDown.Unicode
