/-
The properties Grapheme_Cluster_Break, Word_Break and Sentence_Break: what each character means
for where a text may be divided.
-/
import MessageHead.Property.Derived
import MessageHead.Property.Script

namespace MessageHead.Property

/-! ## Characters the three have in common -/

/-- The carriage return. -/
def carriageReturn : RangeSet := .single '\r'

/-- The line feed. -/
def lineFeed : RangeSet := .single '\n'

/-- The zero-width joiner. -/
def joiner : RangeSet := .read ["200D"]

/-- The characters of language tags, which extend what is in front of them. -/
def tagCharacter : RangeSet := .read ["E0020-E007F"]

/-- What belongs to the grapheme before. -/
def extending : RangeSet := .unions [graphemeExtend, spacingMark, emojiModifier]

/-- Numbers, number signs in front of digits, and marks between digits. -/
def numeric : RangeSet :=
  decimalNumber ∪ .read ["600-605 66B-66C 6DD 890-891 8E2 19DA 110BD 110CD"]

/-! ## Graphemes -/

/-- Characters that stand alone. -/
def graphemeControl : RangeSet :=
  .unions [control, lineSeparator, paragraphSeparator, format,
    unassigned ∩ defaultIgnorableCodePoint] \
    .unions [carriageReturn, lineFeed, joinControl, prependedConcatenationMark, tagCharacter]

/-- Spacing marks that belong to the character before. -/
def graphemeSpacing : RangeSet :=
  (spacingMark ∪ .read ["E33 EB3"]) \
    (graphemeExtend ∪ .read
      ["102B-102C 1038 1062-1064 1067-106D 1083 1087-108C 108F 109A-109C 1A61 1A63-1A64 AA7B AA7D",
       "11720-11721"])

/-- Characters that belong to the one behind. -/
def graphemePrepend : RangeSet :=
  prependedConcatenationMark ∪ .read
    ["D4E 111C2-111C3 113D1 1193F 11941 11A3A 11A84-11A89 11D46 11F02"]

/-- Hangul syllables without a final consonant: one in twenty-eight. -/
def openSyllable : RangeSet :=
  ⟨(List.range 399).map fun i => (0xAC00 + 28 * i, 0xAC00 + 28 * i)⟩

/-- The values of Grapheme_Cluster_Break with their names in lower case, without separators. -/
def graphemeBreaks : List (List String × RangeSet) := [
  (["control", "cn"], graphemeControl),
  (["cr"], carriageReturn),
  (["extend", "ex"], graphemeExtend ∪ emojiModifier),
  (["l"], .read ["1100-115F A960-A97C"]),
  (["lf"], lineFeed),
  (["lv"], openSyllable),
  (["lvt"], .read ["AC00-D7A3"] \ openSyllable),
  (["prepend", "pp"], graphemePrepend),
  (["regionalindicator", "ri"], regionalIndicator),
  (["spacingmark", "sm"], graphemeSpacing),
  (["t"], .read ["11A8-11FF D7CB-D7FB"]),
  (["v"], .read ["1160-11A7 D7B0-D7C6 16D63 16D67-16D6A"]),
  (["zwj"], joiner)]

/-! ## Words -/

/-- The characters of one script. -/
def Script.characters (s : Script) : RangeSet := .read s.own

/-- The characters of the script with that name. -/
def ofScript (name : String) : RangeSet :=
  .unions ((scripts.filter fun s => s.names.contains name).map Script.characters)

/-- Hebrew letters. -/
def hebrewLetter : RangeSet := ofScript "hebrew" ∩ otherLetter

/-- Katakana, and signs that repeat, lengthen or voice them. -/
def katakana : RangeSet :=
  ofScript "katakana" ∪ .read ["3031-3035 309B-309C 30A0 30FC FF70"]

/-- Letters of scripts that write words without blanks between them. -/
def unspaced : RangeSet := .read
  ["E01-E30 E32-E33 E40-E46 E81-E82 E84 E86-E8A E8C-EA3 EA5 EA7-EB0 EB2-EB3 EBD EC0-EC4 EC6",
   "EDC-EDF 1000-102A 103F 1050-1055 105A-105D 1061 1065-1066 106E-1070 1075-1081 108E 1780-17B3",
   "17D7 17DC 1950-196D 1970-1974 1980-19AB 19B0-19C9 1A20-1A54 1AA7 A9E0-A9E4 A9E6-A9EF A9FA-A9FE",
   "AA60-AA76 AA7A AA7E-AAAF AAB1 AAB5-AAB6 AAB9-AABD AAC0 AAC2 AADB-AADD 11700-1171A 11740-11746"]

/-- Signs that count as letters inside words. -/
def wordSign : RangeSet := .read
  ["2C2-2C5 2D2-2D7 2DE-2DF 2E5-2EB 2ED 2EF-2FF 55A-55C 55E 58A 5F3 70F A708-A716 A720-A721",
   "A789-A78A AB5B"]

/-- Letters of scripts with blanks between words. -/
def wordLetter : RangeSet :=
  (alphabetic \ .unions [ideographic, katakana, ofScript "hiragana", extending, hebrewLetter,
    unspaced]) ∪ wordSign

/-- The values of Word_Break with their names in lower case, without separators. -/
def wordBreaks : List (List String × RangeSet) := [
  (["aletter", "le"], wordLetter),
  (["cr"], carriageReturn),
  (["doublequote", "dq"], .single '"'),
  (["extend"], extending),
  (["extendnumlet", "ex"], connectorPunctuation ∪ .read ["202F"]),
  (["format", "fo"],
    format \ .unions [.read ["200B-200D"], prependedConcatenationMark, tagCharacter]),
  (["hebrewletter", "hl"], hebrewLetter),
  (["katakana", "ka"], katakana),
  (["lf"], lineFeed),
  (["midletter", "ml"], .read ["3A B7 387 55F 5F4 2027 FE13 FE55 FF1A"]),
  (["midnum", "mn"], .read ["2C 3B 37E 589 60C-60D 66C 7F8 2044 FE50 FE54 FF0C FF1B"]),
  (["midnumlet", "mb"], .read ["2E 2018-2019 2024 FE52 FF07 FF0E"]),
  (["newline", "nl"], .read ["B-C 85 2028-2029"]),
  (["numeric", "nu"], numeric \ .read ["66C"]),
  (["regionalindicator", "ri"], regionalIndicator),
  (["singlequote", "sq"], .single '\''),
  (["wsegspace"], spaceSeparator \ .read ["A0 2007 202F"]),
  (["zwj"], joiner)]

/-! ## Sentences -/

/-- What extends a character inside a sentence. -/
def sentenceExtend : RangeSet := .unions [graphemeExtend, spacingMark, joiner]

/-- What ends a line of a sentence. -/
def sentenceSeparator : RangeSet := .read ["85 2028-2029"]

/-- Full stops, which also stand in abbreviations and numbers. -/
def fullStop : RangeSet := .read ["2E 2024 FE52 FF0E"]

/-- Lowercase characters; Georgian letters have no case in running text. -/
def sentenceLower : RangeSet :=
  lowercase \ (graphemeExtend ∪ .read ["10D0-10FA 10FD-10FF"])

/-- Uppercase characters that can begin a sentence. -/
def sentenceUpper : RangeSet :=
  (uppercase ∪ titlecaseLetter) \ .read ["1C90-1CBA 1CBD-1CBF"]

/-- Letters that have no case. -/
def sentenceLetter : RangeSet :=
  (alphabetic \ .unions [sentenceLower, sentenceUpper, sentenceExtend]) ∪ .read ["5F3"]

/-- The values of Sentence_Break with their names in lower case, without separators. -/
def sentenceBreaks : List (List String × RangeSet) := [
  (["aterm", "at"], fullStop),
  (["close", "cl"],
    .unions [openPunctuation, closePunctuation, initialPunctuation, finalPunctuation,
      .read ["22 27 275B-2760 2E00-2E01 2E06-2E08 2E0B 1F676-1F678"]]),
  (["cr"], carriageReturn),
  (["extend", "ex"], sentenceExtend),
  (["format", "fo"],
    format \ .unions [joinControl, prependedConcatenationMark \ .read ["70F"], tagCharacter]),
  (["lf"], lineFeed),
  (["lower", "lo"], sentenceLower),
  (["numeric", "nu"], numeric),
  (["oletter", "le"], sentenceLetter),
  (["scontinue", "sc"],
    .read
      ["2C-2D 3A-3B 37E 55D 60C-60D 7F8 1802 1808 2013-2014 3001 FE10-FE11 FE13-FE14 FE31-FE32",
       "FE50-FE51 FE54-FE55 FE58 FE63 FF0C-FF0D FF1A-FF1B FF64"]),
  (["sep", "se"], sentenceSeparator),
  (["sp"], whiteSpace \ .unions [sentenceSeparator, carriageReturn, lineFeed]),
  (["sterm", "st"], sentenceTerminal \ fullStop),
  (["upper", "up"], sentenceUpper)]

end MessageHead.Property
