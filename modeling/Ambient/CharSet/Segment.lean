/-
Where clusters of characters, words and sentences end.

* `CharSet.cluster?` — the characters of one kind at the breaks of clusters, such as `extend`;
* `CharSet.word?` — the same at the breaks of words;
* `CharSet.sentence?` — the same at the breaks of sentences.

The kinds have a short and a long name, in lower case and without blanks.
-/
import Ambient.CharSet.Binary

namespace Ambient

namespace CharSet

/-- The characters that stand before a cluster and belong to it. -/
def clusterPrepend : CharSet :=
  .ofCodes
    ["600-605 6DD 70F 890-891 8E2 D4E 110BD 110CD 111C2-111C3 113D1 1193F 11941 11A3A",
     "11A84-11A89 11D46 11F02"]

/-- The marks with a width of their own that begin a cluster. -/
def standingMarks : CharSet :=
  .ofCodes
    ["102B-102C 1038 1062-1064 1067-106D 1083 1087-108C 108F 109A-109C 1A61 1A63-1A64 AA7B AA7D",
     "11720-11721"]

/-- The first of the syllables with two letters, and each 28th after it. -/
def syllablesOfTwo : CharSet :=
  ⟨(List.range 399).map fun i => (0xAC00 + 28 * i, 0xAC00 + 28 * i)⟩

/-- The kinds of characters at the breaks of clusters. -/
def cluster? : String → Option CharSet
  | "cn" | "control" =>
    let others := unions [clusterPrepend, graphemeExtend,
      ⟨[(0x0A, 0x0A), (0x0D, 0x0D), (0x200C, 0x200D)]⟩]
    some ((category ["Zl", "Zp", "Cc", "Cf"]).union
      ((category ["Cn"]).inter defaultIgnorable) |>.diff others)
  | "cr" => some (single 0x0D)
  | "ex" | "extend" => some (graphemeExtend.union (listed "emojimodifier"))
  | "l" => some ⟨[(0x1100, 0x115F), (0xA960, 0xA97C)]⟩
  | "lf" => some (single 0x0A)
  | "lv" => some syllablesOfTwo
  | "lvt" => some ((range 0xAC00 0xD7A3).diff syllablesOfTwo)
  | "pp" | "prepend" => some clusterPrepend
  | "ri" | "regionalindicator" => some (listed "regionalindicator")
  | "sm" | "spacingmark" =>
    some (((category ["Mc"]).diff (graphemeExtend.union standingMarks)).union
      ⟨[(0xE33, 0xE33), (0xEB3, 0xEB3)]⟩)
  | "t" => some ⟨[(0x11A8, 0x11FF), (0xD7CB, 0xD7FB)]⟩
  | "v" => some ⟨[(0x1160, 0x11A7), (0xD7B0, 0xD7C6), (0x16D63, 0x16D63), (0x16D67, 0x16D6A)]⟩
  | "zwj" => some (single 0x200D)
  | _ => none

/-- The marks, which take no part in the breaks around them. -/
def marks : CharSet :=
  graphemeExtend.union (category ["Mc"])

/-- The signs that stand before the digits they belong to. -/
def digitSigns : CharSet :=
  (listed "prependedconcatenationmark").diff (single 0x70F)

/-- The letters of the Hebrew script. -/
def hebrewLetters : CharSet :=
  .ofCodes
    ["5D0-5EA 5EF-5F2 FB1D FB1F-FB28 FB2A-FB36 FB38-FB3C FB3E FB40-FB41 FB43-FB44 FB46-FB4F"]

/-- The letters that stand with those of the Katakana script. -/
def katakana : CharSet :=
  .ofCodes
    ["3031-3035 309B-309C 30A0-30FA 30FC-30FF 31F0-31FF 32D0-32FE 3300-3357 FF66-FF9D",
     "1AFF0-1AFF3 1AFF5-1AFFB 1AFFD-1AFFE 1B000 1B120-1B122 1B155 1B164-1B167"]

/-- The letters of scripts that are written without blanks between words. -/
def unspacedLetters : CharSet :=
  .ofCodes
    ["E01-E30 E32-E33 E40-E46 E81-E82 E84 E86-E8A E8C-EA3 EA5 EA7-EB0 EB2-EB3 EBD EC0-EC4 EC6",
     "EDC-EDF 1000-102A 103F 1050-1055 105A-105D 1061 1065-1066 106E-1070 1075-1081 108E",
     "1780-17B3 17D7 17DC 1950-196D 1970-1974 1980-19AB 19B0-19C9 1A20-1A54 1AA7 3041-3096",
     "309D-309F A9E0-A9E4 A9E6-A9EF A9FA-A9FE AA60-AA76 AA7A AA7E-AAAF AAB1 AAB5-AAB6 AAB9-AABD",
     "AAC0 AAC2 AADB-AADD 11700-1171A 11740-11746 1B001-1B11F 1B132 1B150-1B152"]

/-- The signs that words are made of although they are no letters. -/
def wordSigns : CharSet :=
  .ofCodes
    ["2C2-2C5 2D2-2D7 2DE-2DF 2E5-2EB 2ED 2EF-2FF 55A-55C 55E 58A 5F3 70F A708-A716 A720-A721",
     "A789-A78A AB5B"]

/-- The kinds of characters at the breaks of words. -/
def word? : String → Option CharSet
  | "cr" => some (single 0x0D)
  | "dq" | "doublequote" => some (single 0x22)
  | "ex" | "extendnumlet" => some (.ofCodes ["5F 202F 203F-2040 2054 FE33-FE34 FE4D-FE4F FF3F"])
  | "extend" => some ((marks.union (listed "emojimodifier")).diff (single 0x200D))
  | "fo" | "format" =>
    let others := unions [graphemeExtend, clusterPrepend, ⟨[(0x200B, 0x200B), (0x200D, 0x200D)]⟩]
    some ((category ["Cf"]).diff others)
  | "hl" | "hebrewletter" => some hebrewLetters
  | "ka" | "katakana" => some katakana
  | "le" | "aletter" =>
    let others := unions [listed "ideographic", hebrewLetters, katakana, unspacedLetters, marks]
    some ((alphabetic.diff others).union wordSigns)
  | "lf" => some (single 0x0A)
  | "mb" | "midnumlet" =>
    some (.ofCodes ["2E 2018-2019 2024 FE52 FF07 FF0E"])
  | "ml" | "midletter" =>
    some (.ofCodes ["3A B7 387 55F 5F4 2027 FE13 FE55 FF1A"])
  | "mn" | "midnum" =>
    some (.ofCodes ["2C 3B 37E 589 60C-60D 66C 7F8 2044 FE10 FE14 FE50 FE54 FF0C FF1B"])
  | "nl" | "newline" => some ⟨[(0x0B, 0x0C), (0x85, 0x85), (0x2028, 0x2029)]⟩
  | "nu" | "numeric" => some (unions [category ["Nd"], single 0x66B, digitSigns])
  | "ri" | "regionalindicator" => some (listed "regionalindicator")
  | "sq" | "singlequote" => some (single 0x27)
  | "wsegspace" =>
    some (.ofCodes ["20 1680 2000-2006 2008-200A 205F 3000"])
  | "zwj" => some (single 0x200D)
  | _ => none

/-- The points that end a sentence or an abbreviation. -/
def pointTerminals : CharSet :=
  ⟨[(0x2E, 0x2E), (0x2024, 0x2024), (0xFE52, 0xFE52), (0xFF0E, 0xFF0E)]⟩

/-- The Georgian letters that are written as small ones, and never begin a sentence. -/
def georgianLetters : CharSet :=
  ⟨[(0x10D0, 0x10FA), (0x10FD, 0x10FF)]⟩

/-- The Georgian capital letters, which may stand anywhere in a sentence. -/
def georgianCapitals : CharSet :=
  ⟨[(0x1C90, 0x1CBA), (0x1CBD, 0x1CBF)]⟩

/-- The capital letters that may begin a sentence. -/
def sentenceUpper : CharSet :=
  (uppercase.union (category ["Lt"])).diff georgianCapitals

/-- The small letters that do not begin a sentence. -/
def sentenceLower : CharSet :=
  lowercase.diff (graphemeExtend.union georgianLetters)

/-- The kinds of characters at the breaks of sentences. -/
def sentence? : String → Option CharSet
  | "at" | "aterm" => some pointTerminals
  | "cl" | "close" =>
    let others := ⟨[(0xFF02, 0xFF02), (0xFF07, 0xFF07)]⟩
    some ((unions [category ["Ps", "Pe", "Pi", "Pf"], listed "quotationmark",
      .ofCodes ["275B-2760 2E00-2E01 2E06-2E08 2E0B 1F676-1F678"]]).diff others)
  | "cr" => some (single 0x0D)
  | "ex" | "extend" => some (marks.union (single 0x200D))
  | "fo" | "format" =>
    some ((category ["Cf"]).diff (unions [graphemeExtend, digitSigns, single 0x200D]))
  | "le" | "oletter" =>
    let others := unions [sentenceUpper, sentenceLower, marks]
    some ((alphabetic.diff others).union (single 0x5F3))
  | "lf" => some (single 0x0A)
  | "lo" | "lower" => some sentenceLower
  | "nu" | "numeric" => some (unions [category ["Nd"], range 0x66B 0x66C, digitSigns])
  | "sc" | "scontinue" =>
    some (.ofCodes
      ["2C-2D 3A-3B 37E 55D 60C-60D 7F8 1802 1808 2013-2014 3001 FE10-FE11 FE13-FE14 FE31-FE32",
       "FE50-FE51 FE54-FE55 FE58 FE63 FF0C-FF0D FF1A-FF1B FF64"])
  | "se" | "sep" => some ⟨[(0x85, 0x85), (0x2028, 0x2029)]⟩
  | "sp" =>
    some (blanks.diff ⟨[(0x0A, 0x0A), (0x0D, 0x0D), (0x85, 0x85), (0x2028, 0x2029)]⟩)
  | "st" | "sterm" => some ((listed "sentenceterminal").diff pointTerminals)
  | "up" | "upper" => some sentenceUpper
  | _ => none

end CharSet

end Ambient
