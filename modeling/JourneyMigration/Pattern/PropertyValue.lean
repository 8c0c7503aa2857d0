import JourneyMigration.Pattern.Property
import JourneyMigration.Text.Age

/-!
# Property values — sets of characters by a property and the value that it has.

Categories and scripts are values of properties. An age stands for all characters that were there by then. Three more
properties say where a text falls apart into the characters that its readers see, into words and into sentences. Their
values come down to categories, scripts and binary properties, but for a few characters each.
-/

namespace JourneyMigration.CharSet

open GeneralCategory

/-- A value of a property, under all its names, and the characters for which the property has it. -/
structure PropertyValue where
  names : List String
  members : CharSet

/-- The characters for which a property has the value of a name, where all its values are given. -/
def valueNamed? (values : List PropertyValue) (name : String) : Option CharSet :=
  (values.find? (·.names.contains name)).map (·.members)

/-- The characters with the binary property of a name. -/
def having (name : String) : CharSet := ((BinaryProperty.named? name).map ofProperty).getD none

/-- The characters of the scripts of some names. -/
def writtenIn (names : List String) : CharSet := unionAll ((names.filterMap Script.named?).map ofScript)

/-- The mark that joins the characters around it into one. -/
def zeroWidthJoiner : CharSet := range 0x200D 0x200D

/-- Marks that enclose the number behind them. -/
def prependedMarks : CharSet := having "prependedconcatenationmark"

/-- The ends of lines that are a character each in ASCII. -/
def lineEnds : List PropertyValue := [⟨["cr"], range 0xD 0xD⟩, ⟨["lf"], range 0xA 0xA⟩]

/-! ## Characters as readers see them -/

/-- Marks that belong to the character before them. -/
def clusterExtend : CharSet :=
  difference (union (having "graphemeextend") (having "emojimodifier")) zeroWidthJoiner

/-- The Hangul syllables that end in a vowel: every twenty-eighth, from the first one on. -/
def openSyllables : List Nat := (List.range 399).flatMap fun i => [0xAC00 + 28 * i, 0xAC00 + 28 * i + 1]

/-- The values of the property `Grapheme_Cluster_Break`. -/
def graphemeClusterBreaks : List PropertyValue :=
  lineEnds ++
  [⟨["control", "cn"],
     difference
       (union (ofTables [lineSeparator, paragraphSeparator, control, format])
         (intersection unassigned (having "defaultignorablecodepoint")))
       (unionAll [of [0xA, 0xB, 0xD, 0xE, 0x200C, 0x200E], prependedMarks, clusterExtend])⟩,
   ⟨["extend", "ex"], clusterExtend⟩,
   ⟨["zwj"], zeroWidthJoiner⟩,
   ⟨["regionalindicator", "ri"], having "regionalindicator"⟩,
   ⟨["prepend", "pp"],
     union prependedMarks (of [0xD4E, 0xD4F, 0x111C2, 0x111C4, 0x113D1, 0x113D2, 0x1193F, 0x11940, 0x11941,
       0x11942, 0x11A3A, 0x11A3B, 0x11A84, 0x11A8A, 0x11D46, 0x11D47, 0x11F02, 0x11F03])⟩,
   ⟨["spacingmark", "sm"],
     difference (union (of spacingMark) (of [0xE33, 0xE34, 0xEB3, 0xEB4]))
       (union clusterExtend (of [0x102B, 0x102D, 0x1038, 0x1039, 0x1062, 0x1065, 0x1067, 0x106E, 0x1083,
         0x1084, 0x1087, 0x108D, 0x108F, 0x1090, 0x109A, 0x109D, 0x1A61, 0x1A62, 0x1A63, 0x1A65, 0xAA7B,
         0xAA7C, 0xAA7D, 0xAA7E, 0x11720, 0x11722]))⟩,
   ⟨["l"], of [0x1100, 0x1160, 0xA960, 0xA97D]⟩,
   ⟨["v"], of [0x1160, 0x11A8, 0xD7B0, 0xD7C7, 0x16D63, 0x16D64, 0x16D67, 0x16D6B]⟩,
   ⟨["t"], of [0x11A8, 0x1200, 0xD7CB, 0xD7FC]⟩,
   ⟨["lv"], of openSyllables⟩,
   ⟨["lvt"], difference (range 0xAC00 0xD7A3) (of openSyllables)⟩]

/-! ## Words -/

/-- Marks that belong to the character before them, if words are told apart. -/
def wordExtend : CharSet :=
  difference (unionAll [having "graphemeextend", of spacingMark, having "emojimodifier"]) zeroWidthJoiner

/-- Katakana, and what it shares with other scripts. -/
def wordKatakana : CharSet :=
  union (writtenIn ["katakana"]) (of [0x3031, 0x3036, 0x309B, 0x309D, 0x30A0, 0x30A1, 0x30FC, 0x30FD, 0xFF70, 0xFF71])

/-- The letters of Hebrew. -/
def hebrewLetter : CharSet := intersection (writtenIn ["hebrew"]) (of otherLetter)

/-- Scripts that put no blanks between words. -/
def unspacedScripts : List String :=
  ["hiragana", "thai", "lao", "myanmar", "khmer", "taile", "newtailue", "taitham", "taiviet", "ahom"]

/-- What stands for a letter in words, besides letters. -/
def letterLike : List Nat :=
  [0x2C2, 0x2C6, 0x2D2, 0x2D8, 0x2DE, 0x2E0, 0x2E5, 0x2EC, 0x2ED, 0x2EE, 0x2EF, 0x300, 0x55A, 0x55D, 0x55E,
   0x55F, 0x58A, 0x58B, 0x5F3, 0x5F4, 0x70F, 0x710, 0xA708, 0xA717, 0xA720, 0xA722, 0xA789, 0xA78B, 0xAB5B,
   0xAB5C]

/-- Marks that enclose a number and count as part of it. -/
def numberMarks : CharSet := difference prependedMarks (range 0x70F 0x70F)

/-- The values of the property `Word_Break`. -/
def wordBreaks : List PropertyValue :=
  lineEnds ++
  [⟨["newline", "nl"], of [0xB, 0xD, 0x85, 0x86, 0x2028, 0x202A]⟩,
   ⟨["extend"], wordExtend⟩,
   ⟨["zwj"], zeroWidthJoiner⟩,
   ⟨["regionalindicator", "ri"], having "regionalindicator"⟩,
   ⟨["format", "fo"], difference (of format) (unionAll [range 0x200B 0x200D, prependedMarks, wordExtend])⟩,
   ⟨["katakana", "ka"], wordKatakana⟩,
   ⟨["hebrewletter", "hl"], hebrewLetter⟩,
   ⟨["aletter", "le"],
     difference (union (having "alphabetic") (of letterLike))
       (unionAll [having "ideographic", wordKatakana, writtenIn unspacedScripts, hebrewLetter, wordExtend])⟩,
   ⟨["singlequote", "sq"], range 0x27 0x27⟩,
   ⟨["doublequote", "dq"], range 0x22 0x22⟩,
   ⟨["midnumlet", "mb"],
     of [0x2E, 0x2F, 0x2018, 0x201A, 0x2024, 0x2025, 0xFE52, 0xFE53, 0xFF07, 0xFF08, 0xFF0E, 0xFF0F]⟩,
   ⟨["midletter", "ml"],
     of [0x3A, 0x3B, 0xB7, 0xB8, 0x387, 0x388, 0x55F, 0x560, 0x5F4, 0x5F5, 0x2027, 0x2028, 0xFE13, 0xFE14, 0xFE55,
       0xFE56, 0xFF1A, 0xFF1B]⟩,
   ⟨["midnum", "mn"],
     of [0x2C, 0x2D, 0x3B, 0x3C, 0x37E, 0x37F, 0x589, 0x58A, 0x60C, 0x60E, 0x66C, 0x66D, 0x7F8, 0x7F9, 0x2044,
       0x2045, 0xFE10, 0xFE11, 0xFE14, 0xFE15, 0xFE50, 0xFE51, 0xFE54, 0xFE55, 0xFF0C, 0xFF0D, 0xFF1B, 0xFF1C]⟩,
   ⟨["numeric", "nu"], unionAll [digit, range 0x66B 0x66B, numberMarks]⟩,
   ⟨["extendnumlet", "ex"], union (of connectorPunctuation) (range 0x202F 0x202F)⟩,
   ⟨["wsegspace"], difference (of spaceSeparator) (of [0xA0, 0xA1, 0x2007, 0x2008, 0x202F, 0x2030])⟩]

/-! ## Sentences -/

/-- Marks that belong to the character before them, if sentences are told apart. -/
def sentenceExtend : CharSet := unionAll [having "graphemeextend", of spacingMark, zeroWidthJoiner]

/-- Small letters. Those of Georgian begin sentences as well. -/
def sentenceLower : CharSet :=
  difference (having "lowercase") (union (having "graphemeextend") (of [0x10D0, 0x10FB, 0x10FD, 0x1100]))

/-- Capital letters, but for those of Georgian. -/
def sentenceUpper : CharSet :=
  difference (union (of titlecaseLetter) (having "uppercase")) (of [0x1C90, 0x1CBB, 0x1CBD, 0x1CC0])

/-- Dots, which need not end a sentence. -/
def fullStop : CharSet := of [0x2E, 0x2F, 0x2024, 0x2025, 0xFE52, 0xFE53, 0xFF0E, 0xFF0F]

/-- What ends a sentence. -/
def sentenceEnd : CharSet := difference (having "sentenceterminal") fullStop

/-- The values of the property `Sentence_Break`. -/
def sentenceBreaks : List PropertyValue :=
  lineEnds ++
  [⟨["sep", "se"], of [0x85, 0x86, 0x2028, 0x202A]⟩,
   ⟨["extend", "ex"], sentenceExtend⟩,
   ⟨["format", "fo"], difference (of format) (union sentenceExtend numberMarks)⟩,
   ⟨["sp"], difference space (of [0xA, 0xB, 0xD, 0xE, 0x85, 0x86, 0x2028, 0x202A])⟩,
   ⟨["lower", "lo"], sentenceLower⟩,
   ⟨["upper", "up"], sentenceUpper⟩,
   ⟨["oletter", "le"],
     difference (union (having "alphabetic") (range 0x5F3 0x5F3))
       (unionAll [sentenceLower, sentenceUpper, sentenceExtend])⟩,
   ⟨["numeric", "nu"], unionAll [digit, range 0x66B 0x66C, numberMarks]⟩,
   ⟨["aterm", "at"], fullStop⟩,
   ⟨["scontinue", "sc"],
     of [0x2C, 0x2E, 0x3A, 0x3C, 0x37E, 0x37F, 0x55D, 0x55E, 0x60C, 0x60E, 0x7F8, 0x7F9, 0x1802, 0x1803, 0x1808,
       0x1809, 0x2013, 0x2015, 0x3001, 0x3002, 0xFE10, 0xFE12, 0xFE13, 0xFE15, 0xFE31, 0xFE33, 0xFE50, 0xFE52,
       0xFE54, 0xFE56, 0xFE58, 0xFE59, 0xFE63, 0xFE64, 0xFF0C, 0xFF0E, 0xFF1A, 0xFF1C, 0xFF64, 0xFF65]⟩,
   ⟨["sterm", "st"], sentenceEnd⟩,
   ⟨["close", "cl"],
     difference
       (union (ofTables [openPunctuation, closePunctuation, initialPunctuation, finalPunctuation])
         (of [0x22, 0x23, 0x27, 0x28, 0x275B, 0x2761, 0x2E00, 0x2E02, 0x2E06, 0x2E09, 0x2E0B, 0x2E0C, 0x1F676,
           0x1F679]))
       (union fullStop sentenceEnd)⟩]

/-! ## All properties -/

/-- The characters that were there by an age. -/
def byAge? (age : String) : Option CharSet := (Age.until? age).map fun ages => ofTables (ages.map (·.added))

/-- The set of characters whose property of a name has a value. -/
def valued? (name value : String) : Option CharSet :=
  let value := looseName value
  match looseName name with
  | "generalcategory" | "gc" => category? value
  | "script" | "sc" => (Script.named? value).map ofScript
  | "scriptextensions" | "scx" => (Script.named? value).map ofScriptExtension
  | "age" => byAge? value
  | "graphemeclusterbreak" | "gcb" => valueNamed? graphemeClusterBreaks value
  | "wordbreak" | "wb" => valueNamed? wordBreaks value
  | "sentencebreak" | "sb" => valueNamed? sentenceBreaks value
  | _ => Option.none

end JourneyMigration.CharSet
