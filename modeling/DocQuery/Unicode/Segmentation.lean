import DocQuery.Unicode.Derived
import DocQuery.Unicode.Script
/-! How code points take part in the division of a text into graphemes, words and sentences.  Each
division knows kinds of code points by name; code points of no kind have no name here. -/

namespace DocQuery.Unicode

/-- What joins two code points that would else stand apart. -/
def joiner : Ranges := .ofPair 0x200d 0x200d

/-! ### Graphemes -/

/-- The least number of a Hangul syllable. -/
def firstSyllable : Nat := 0xac00

/-- The Hangul syllables that end in a vowel: every twenty-eighth. -/
def openSyllables : Ranges :=
  ⟨((List.range 399).map fun i => (firstSyllable + 28 * i, firstSyllable + 28 * i)).toArray⟩

/-- Code points that extend the grapheme before them. -/
def graphemeExtenders : Ranges := graphemeExtend.union (properties.union ["emod"])

/-- Code points that belong to the grapheme after them. -/
def graphemePrefixes : Ranges :=
  (properties.union ["pcm"]).union <| .ofText
   "d4e 111c2-111c3 113d1 1193f 11941 11a3a 11a84-11a89 11d46 11f02"

/-- Controls, which stand alone. -/
def graphemeControls : Ranges :=
  ((categories.union ["zl", "zp", "cc", "cf"]).union (ignorable.diff assigned)).diff
    (graphemeExtenders.union ((properties.union ["pcm"]).union (.ofText "a d 200c-200d")))

/-- Marks that take up space and belong to the grapheme before them. -/
def spacingMarks : Ranges :=
  ((categories.union ["mc"]).union (.ofText "e33 eb3")).diff <|
    (graphemeExtenders.union graphemePrefixes).union <| .ofText
     "102b-102c 1038 1062-1064 1067-106d 1083 1087-108c 108f 109a-109c 1a61 1a63-1a64 aa7b aa7d
      11720-11721"

/-- The code points of a kind in the division into graphemes. -/
def graphemeBreak? : (name : String) → Option Ranges
  | "control" | "cn" => some graphemeControls
  | "cr" => some (.ofPair 13 13)
  | "lf" => some (.ofPair 10 10)
  | "extend" | "ex" => some graphemeExtenders
  | "prepend" | "pp" => some graphemePrefixes
  | "spacingmark" | "sm" => some spacingMarks
  | "regionalindicator" | "ri" => some (properties.union ["ri"])
  | "zwj" => some joiner
  | "l" => some (.ofText "1100-115f a960-a97c")
  | "v" => some (.ofText "1160-11a7 d7b0-d7c6 16d63 16d67-16d6a")
  | "t" => some (.ofText "11a8-11ff d7cb-d7fb")
  | "lv" => some openSyllables
  | "lvt" => some ((Ranges.ofPair firstSyllable 0xd7a3).diff openSyllables)
  | _ => none

/-! ### Words -/

/-- Marks of numbers and of abbreviations that stand in front of them. -/
def subtendingMarks : Ranges := .ofText "600-605 6dd 890-891 8e2 110bd 110cd"

/-- Code points that extend the word before them. -/
def wordExtenders : Ranges := (graphemeExtenders.union (categories.union ["mc"])).diff joiner

/-- Digits and the like. -/
def wordNumbers : Ranges :=
  ((categories.union ["nd"]).union (.ofPair 0x66b 0x66b)).union subtendingMarks

def katakana : Ranges :=
  (scripts.union ["kana"]).union (.ofText "3031-3035 309b-309c 30a0 30fc ff70")

def hebrewLetters : Ranges := (scripts.union ["hebr"]).inter (categories.union ["lo"])

/-- Letters of scripts that are written without blanks between words, and so no part of a word by
themselves. -/
def unspacedLetters : Ranges :=
  ((properties.union ["ideo"]).union (scripts.union ["hira"])).union <| .ofText
   "e01-e30 e32-e33 e40-e46 e81-e82 e84 e86-e8a e8c-ea3 ea5 ea7-eb0 eb2-eb3 ebd ec0-ec4 ec6
    edc-edf 1000-102a 103f 1050-1055 105a-105d 1061 1065-1066 106e-1070 1075-1081 108e
    1780-17b3 17d7 17dc 1950-196d 1970-1974 1980-19ab 19b0-19c9 1a20-1a54 1aa7 a9e0-a9e4
    a9e6-a9ef a9fa-a9fe aa60-aa76 aa7a aa7e-aaaf aab1 aab5-aab6 aab9-aabd aac0 aac2
    aadb-aadd 11700-1171a 11740-11746"

/-- Letters of words. -/
def wordLetters : Ranges :=
  (alphabetic.diff ((unspacedLetters.union (katakana.union hebrewLetters)).union
    (wordExtenders.union wordNumbers))).union <| .ofText
     "2c2-2c5 2d2-2d7 2de-2df 2e5-2eb 2ed 2ef-2ff 55a-55c 55e 58a 5f3 70f a708-a716 a720-a721
      a789-a78a ab5b"

/-- Format characters, those apart that extend a word or belong to a number. -/
def wordFormats : Ranges :=
  (categories.union ["cf"]).diff
    (wordExtenders.union (subtendingMarks.union (.ofText "70f 200b-200d")))

/-- The code points of a kind in the division into words. -/
def wordBreak? : (name : String) → Option Ranges
  | "aletter" | "le" => some wordLetters
  | "cr" => some (.ofPair 13 13)
  | "lf" => some (.ofPair 10 10)
  | "newline" | "nl" => some (.ofText "b-c 85 2028-2029")
  | "doublequote" | "dq" => some (.ofPair 0x22 0x22)
  | "singlequote" | "sq" => some (.ofPair 0x27 0x27)
  | "extend" => some wordExtenders
  | "extendnumlet" | "ex" => some ((categories.union ["pc"]).union (.ofPair 0x202f 0x202f))
  | "format" | "fo" => some wordFormats
  | "hebrewletter" | "hl" => some hebrewLetters
  | "katakana" | "ka" => some katakana
  | "midletter" | "ml" => some (.ofText "3a b7 387 55f 5f4 2027 fe13 fe55 ff1a")
  | "midnum" | "mn" =>
    some (.ofText "2c 3b 37e 589 60c-60d 66c 7f8 2044 fe10 fe14 fe50 fe54 ff0c ff1b")
  | "midnumlet" | "mb" => some (.ofText "2e 2018-2019 2024 fe52 ff07 ff0e")
  | "numeric" | "nu" => some wordNumbers
  | "regionalindicator" | "ri" => some (properties.union ["ri"])
  | "wsegspace" => some ((categories.union ["zs"]).diff (.ofText "a0 2007 202f"))
  | "zwj" => some joiner
  | _ => none

/-! ### Sentences -/

/-- Full stops. -/
def fullStops : Ranges := .ofText "2e 2024 fe52 ff0e"

/-- Small letters, Georgian ones apart. -/
def sentenceLower : Ranges :=
  lowercase.diff (graphemeExtend.union (.ofText "10d0-10fa 10fd-10ff"))

/-- Capitals, Georgian ones apart. -/
def sentenceUpper : Ranges :=
  (uppercase.union (categories.union ["lt"])).diff (.ofText "1c90-1cba 1cbd-1cbf")

/-- Code points that extend the one before them. -/
def sentenceExtenders : Ranges := (wordExtenders.union joiner).diff (properties.union ["emod"])

def sentenceNumbers : Ranges := wordNumbers.union (.ofPair 0x66c 0x66c)

/-- Letters of no case. -/
def sentenceLetters : Ranges :=
  (alphabetic.diff ((sentenceLower.union sentenceUpper).union
    (sentenceExtenders.union sentenceNumbers))).union (.ofText "5f3 70f")

/-- Code points of a kind in the division into sentences. -/
def sentenceBreak? : (name : String) → Option Ranges
  | "aterm" | "at" => some fullStops
  | "close" | "cl" =>
    some (((setOf ["ps", "pe", "pi", "pf"] ["qmark"]).union
      (.ofText "275b-2760 2e00-2e01 2e06-2e08 2e0b 1f676-1f678")).diff (.ofText "ff02 ff07"))
  | "cr" => some (.ofPair 13 13)
  | "lf" => some (.ofPair 10 10)
  | "extend" | "ex" => some sentenceExtenders
  | "format" | "fo" =>
    some ((categories.union ["cf"]).diff
      (sentenceExtenders.union (subtendingMarks.union (.ofText "70f 200c-200d"))))
  | "lower" | "lo" => some sentenceLower
  | "numeric" | "nu" => some sentenceNumbers
  | "oletter" | "le" => some sentenceLetters
  | "scontinue" | "sc" =>
    some (.ofText "2c-2d 3a-3b 37e 55d 60c-60d 7f8 1802 1808 2013-2014 3001 fe10-fe11 fe13-fe14
      fe31-fe32 fe50-fe51 fe54-fe55 fe58 fe63 ff0c-ff0d ff1a-ff1b ff64")
  | "sep" | "se" => some (.ofText "85 2028-2029")
  | "sp" => some ((properties.union ["wspace"]).diff (.ofText "a d 85 2028-2029"))
  | "sterm" | "st" => some ((properties.union ["sterm"]).diff fullStops)
  | "upper" | "up" => some sentenceUpper
  | _ => none

end DocQuery.Unicode
