import Switchboard.Unicode.Property
import Switchboard.Unicode.Script
/-!
# Segmentation

Text is divided into what a reader takes for characters, into words and into sentences.
For each of these divisions the standard gives a code point a class, which says whether
text may be divided beside it. The classes follow from other properties, but for a few
code points that are listed.
-/

namespace Switchboard

namespace Unicode

/-! ## Characters of the reader -/

/-- The signs for skin, which change the sign in front of them. -/
def skinTones : CharSet := setOf Table.emojiModifier

/-- The join that is seen. -/
def joiner : CharSet := .singleton 0x200d

/-- The marks that stand in front of what they belong to. -/
def prependedMarks : CharSet := setOf Table.prependedConcatenationMark

/-- What continues a character of the reader. -/
def clusterExtend : CharSet := (graphemeExtend ∪ skinTones) \ joiner

/-- What stands in front of what it continues. -/
def clusterPrepend : CharSet :=
  prependedMarks ∪ .ofRanges
    [⟨0xd4e, 0xd4e⟩, ⟨0x111c2, 0x111c3⟩, ⟨0x113d1, 0x113d1⟩, ⟨0x1193f, 0x1193f⟩,
     ⟨0x11941, 0x11941⟩, ⟨0x11a3a, 0x11a3a⟩, ⟨0x11a84, 0x11a89⟩, ⟨0x11d46, 0x11d46⟩,
     ⟨0x11f02, 0x11f02⟩]

/-- What shows nothing, and stands alone. -/
def clusterControl : CharSet :=
  (categories ["Zl", "Zp", "Cc", "Cf"]
      ∪ categories ["Cn"] ∩ setOf Table.defaultIgnorableCodePoint)
    \ (.ofList [0xa, 0xd] ∪ setOf Table.joinControl ∪ prependedMarks ∪ clusterExtend)

/-- Marks that take space, but stand beside letters as letters do. -/
def looseMarks : CharSet :=
  .ofRanges
    [⟨0x102b, 0x102c⟩, ⟨0x1038, 0x1038⟩, ⟨0x1062, 0x1064⟩, ⟨0x1067, 0x106d⟩,
     ⟨0x1083, 0x1083⟩, ⟨0x1087, 0x108c⟩, ⟨0x108f, 0x108f⟩, ⟨0x109a, 0x109c⟩,
     ⟨0x1a61, 0x1a61⟩, ⟨0x1a63, 0x1a64⟩, ⟨0xaa7b, 0xaa7b⟩, ⟨0xaa7d, 0xaa7d⟩,
     ⟨0x11720, 0x11721⟩]

/-- The marks that take space. -/
def clusterSpacingMark : CharSet :=
  categories ["Mc"] \ (clusterExtend ∪ looseMarks) ∪ .ofList [0xe33, 0xeb3]

/-- The syllables of Hangul. -/
def syllables : CharSet := .ofRange 0xac00 0xd7a3

/-- How many syllables of Hangul start with the same two letters. -/
def syllablesInBlock : Nat := 28

/-- The syllables of Hangul that end in a vowel, each the first in its block. -/
def openSyllables : CharSet :=
  .ofList ((List.range 399).map fun block => 0xac00 + syllablesInBlock * block)

/-- The letters that start a syllable of Hangul. -/
def leadingLetters : CharSet := .ofRanges [⟨0x1100, 0x115f⟩, ⟨0xa960, 0xa97c⟩]

/-- The vowels of syllables. -/
def vowels : CharSet :=
  .ofRanges [⟨0x1160, 0x11a7⟩, ⟨0xd7b0, 0xd7c6⟩, ⟨0x16d63, 0x16d63⟩, ⟨0x16d67, 0x16d6a⟩]

/-- The letters that end a syllable of Hangul. -/
def trailingLetters : CharSet := .ofRanges [⟨0x11a8, 0x11ff⟩, ⟨0xd7cb, 0xd7fb⟩]

/-- The classes for characters of the reader, by name. -/
def graphemeBreaks : List (List String × (Unit → CharSet)) :=
  [(["cn", "control"], fun _ => clusterControl),
   (["cr"], fun _ => .singleton 0xd),
   (["ex", "extend"], fun _ => clusterExtend),
   (["l"], fun _ => leadingLetters),
   (["lf"], fun _ => .singleton 0xa),
   (["lv"], fun _ => openSyllables),
   (["lvt"], fun _ => syllables \ openSyllables),
   (["pp", "prepend"], fun _ => clusterPrepend),
   (["ri", "regionalindicator"], fun _ => setOf Table.regionalIndicator),
   (["sm", "spacingmark"], fun _ => clusterSpacingMark),
   (["t"], fun _ => trailingLetters),
   (["v"], fun _ => vowels),
   (["zwj"], fun _ => joiner)]

/-! ## Words -/

/-- What continues a word without being part of it. -/
def wordExtend : CharSet := (graphemeExtend ∪ categories ["Mc"] ∪ skinTones) \ joiner

/-- The marks in front of numbers. -/
def numberMarks : CharSet := prependedMarks \ .singleton 0x70f

/-- The letters of Hebrew. -/
def hebrewLetters : CharSet := script "Hebr" ∩ categories ["Lo"]

/-- What words in Katakana are made of. -/
def katakana : CharSet :=
  script "Kana" ∪ .ofList [0x3031, 0x3032, 0x3033, 0x3034, 0x3035, 0x309b, 0x309c, 0x30a0, 0x30fc,
    0xff70]

/-- What stands in words as letters do. -/
def quasiLetters : CharSet :=
  .ofRanges
    [⟨0x2c2, 0x2c5⟩, ⟨0x2d2, 0x2d7⟩, ⟨0x2de, 0x2df⟩, ⟨0x2e5, 0x2eb⟩, ⟨0x2ed, 0x2ed⟩,
     ⟨0x2ef, 0x2ff⟩, ⟨0x55a, 0x55c⟩, ⟨0x55e, 0x55e⟩, ⟨0x58a, 0x58a⟩, ⟨0x5f3, 0x5f3⟩,
     ⟨0x70f, 0x70f⟩, ⟨0xa708, 0xa716⟩, ⟨0xa720, 0xa721⟩, ⟨0xa789, 0xa78a⟩, ⟨0xab5b, 0xab5b⟩]

/-- The writings that put no space between words, in which only a dictionary can tell
them. -/
def unspacedScripts : List String :=
  ["Thai", "Laoo", "Mymr", "Khmr", "Talu", "Tale", "Lana", "Tavt", "Ahom"]

/-- The code points of the writings that put no space between words. -/
def unspaced : CharSet := (unspacedScripts.map script).foldl (· ∪ ·) .empty

/-- The letters that words are made of. -/
def wordLetters : CharSet :=
  (alphabetic ∪ quasiLetters)
    \ (setOf Table.ideographic ∪ katakana ∪ script "Hira" ∪ unspaced ∪ wordExtend ∪ hebrewLetters)

/-- The classes for words, by name. -/
def wordBreaks : List (List String × (Unit → CharSet)) :=
  [(["le", "aletter"], fun _ => wordLetters),
   (["cr"], fun _ => .singleton 0xd),
   (["dq", "doublequote"], fun _ => .singleton 0x22),
   (["extend"], fun _ => wordExtend),
   (["ex", "extendnumlet"], fun _ => categories ["Pc"] ∪ .singleton 0x202f),
   (["fo", "format"], fun _ =>
     categories ["Cf"] \ (.singleton 0x200b ∪ joiner ∪ prependedMarks ∪ wordExtend)),
   (["hl", "hebrewletter"], fun _ => hebrewLetters),
   (["ka", "katakana"], fun _ => katakana),
   (["lf"], fun _ => .singleton 0xa),
   (["ml", "midletter"], fun _ =>
     .ofList [0x3a, 0xb7, 0x387, 0x55f, 0x5f4, 0x2027, 0xfe13, 0xfe55, 0xff1a]),
   (["mn", "midnum"], fun _ =>
     .ofList [0x2c, 0x3b, 0x37e, 0x589, 0x60c, 0x60d, 0x66c, 0x7f8, 0x2044, 0xfe50, 0xfe54,
       0xff0c, 0xff1b]),
   (["mb", "midnumlet"], fun _ =>
     .ofList [0x2e, 0x2018, 0x2019, 0x2024, 0xfe52, 0xff07, 0xff0e]),
   (["nl", "newline"], fun _ => .ofList [0xb, 0xc, 0x85, 0x2028, 0x2029]),
   (["nu", "numeric"], fun _ => decimalDigits ∪ numberMarks ∪ .ofList [0x66b, 0x19da]),
   (["ri", "regionalindicator"], fun _ => setOf Table.regionalIndicator),
   (["sq", "singlequote"], fun _ => .singleton 0x27),
   (["wsegspace"], fun _ => categories ["Zs"] \ .ofList [0xa0, 0x2007, 0x202f]),
   (["zwj"], fun _ => joiner)]

/-! ## Sentences -/

/-- What continues the character in front of it. -/
def sentenceExtend : CharSet := graphemeExtend ∪ categories ["Mc"] ∪ joiner

/-- The characters that end a paragraph by themselves. -/
def paragraphEnds : CharSet := .ofList [0x85, 0x2028, 0x2029]

/-- The stops that may be part of a number or a short form. -/
def ambiguousStops : CharSet := .ofList [0x2e, 0x2024, 0xfe52, 0xff0e]

/-- The small letters of sentences; those of Georgian start sentences, too. -/
def sentenceLower : CharSet :=
  lowercase \ (graphemeExtend ∪ .ofRanges [⟨0x10d0, 0x10fa⟩, ⟨0x10fd, 0x10ff⟩])

/-- The capital letters of sentences, of which those of Georgian are none. -/
def sentenceUpper : CharSet :=
  uppercase \ .ofRanges [⟨0x1c90, 0x1cba⟩, ⟨0x1cbd, 0x1cbf⟩] ∪ categories ["Lt"]

/-- The letters of sentences that have no case. -/
def sentenceLetters : CharSet :=
  (alphabetic ∪ .singleton 0x5f3) \ (sentenceLower ∪ sentenceUpper ∪ sentenceExtend)

/-- The quotes that are neither opening nor closing by category. -/
def neutralQuotes : CharSet :=
  .ofRanges
    [⟨0x22, 0x22⟩, ⟨0x27, 0x27⟩, ⟨0x275b, 0x2760⟩, ⟨0x2e00, 0x2e01⟩, ⟨0x2e06, 0x2e08⟩,
     ⟨0x2e0b, 0x2e0b⟩, ⟨0x1f676, 0x1f678⟩]

/-- The classes for sentences, by name. -/
def sentenceBreaks : List (List String × (Unit → CharSet)) :=
  [(["at", "aterm"], fun _ => ambiguousStops),
   (["cr"], fun _ => .singleton 0xd),
   (["cl", "close"], fun _ => categories ["Ps", "Pe", "Pi", "Pf"] ∪ neutralQuotes),
   (["ex", "extend"], fun _ => sentenceExtend),
   (["fo", "format"], fun _ => categories ["Cf"] \ (sentenceExtend ∪ numberMarks)),
   (["lf"], fun _ => .singleton 0xa),
   (["lo", "lower"], fun _ => sentenceLower),
   (["nu", "numeric"], fun _ => decimalDigits ∪ numberMarks ∪ .ofList [0x66b, 0x66c, 0x19da]),
   (["le", "oletter"], fun _ => sentenceLetters),
   (["sc", "scontinue"], fun _ =>
     .ofList [0x2c, 0x2d, 0x3a, 0x3b, 0x37e, 0x55d, 0x60c, 0x60d, 0x7f8, 0x1802, 0x1808, 0x2013,
       0x2014, 0x3001, 0xfe10, 0xfe11, 0xfe13, 0xfe14, 0xfe31, 0xfe32, 0xfe50, 0xfe51, 0xfe54,
       0xfe55, 0xfe58, 0xfe63, 0xff0c, 0xff0d, 0xff1a, 0xff1b, 0xff64]),
   (["st", "sterm"], fun _ => setOf Table.sentenceTerminal \ ambiguousStops),
   (["se", "sep"], fun _ => paragraphEnds),
   (["sp"], fun _ => whiteSpace \ (paragraphEnds ∪ .ofList [0xa, 0xd])),
   (["up", "upper"], fun _ => sentenceUpper)]

end Unicode

end Switchboard
