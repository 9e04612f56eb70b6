import Switchboard.Unicode.Category
import Switchboard.Unicode.PropertyTable
/-!
# Binary properties

Properties that a code point has or has not. Some are written in tables; the others
follow from those and from categories, as the standard defines them.
-/

namespace Switchboard

namespace Unicode

open CharSet

/-- The white space. -/
def whiteSpace : CharSet := setOf Table.whiteSpace

/-- The small letters, and what else is in lower case. -/
def lowercase : CharSet := categories ["Ll"] ∪ setOf Table.otherLowercase

/-- The capital letters, and what else is in upper case. -/
def uppercase : CharSet := categories ["Lu"] ∪ setOf Table.otherUppercase

/-- The characters of words in some writing. -/
def alphabetic : CharSet :=
  lowercase ∪ uppercase ∪ categories ["Lt", "Lm", "Lo", "Nl"] ∪ setOf Table.otherAlphabetic

/-- The characters that have case. -/
def cased : CharSet := lowercase ∪ uppercase ∪ categories ["Lt"]

/-- The characters that continue a letter without being one. -/
def graphemeExtend : CharSet := categories ["Me", "Mn"] ∪ setOf Table.otherGraphemeExtend

/-- The characters that letters are built on. -/
def graphemeBase : CharSet :=
  (categories ["Cc", "Cf", "Cs", "Co", "Cn", "Zl", "Zp"] ∪ graphemeExtend).complement

/-- The characters that syntax may use. -/
def syntactic : CharSet := setOf Table.patternSyntax ∪ setOf Table.patternWhiteSpace

/-- What may start an identifier. -/
def idStart : CharSet := (letters ∪ categories ["Nl"]) \ syntactic ∪ setOf Table.otherIdStart

/-- What may continue an identifier. -/
def idContinue : CharSet :=
  (idStart ∪ categories ["Mn", "Mc", "Nd", "Pc"]) \ syntactic ∪ setOf Table.otherIdContinue

/-- What changes when it is put in another case. -/
def changesWhenCasemapped : CharSet := setOf Table.changesWhenCasemapped

/-- What changes when it is put in lower case. -/
def changesWhenLowercased : CharSet := changesWhenCasemapped \ lowercase

/-- What changes when it is put in upper case. -/
def changesWhenUppercased : CharSet := changesWhenCasemapped \ uppercase

/-- The characters of words: those of writing, marks, digits, connectors, and joins. -/
def word : CharSet :=
  alphabetic ∪ categories ["Mc", "Me", "Mn", "Nd", "Pc"] ∪ setOf Table.joinControl

/-- The mathematical symbols that may start an identifier. -/
def idCompatMathStart : CharSet :=
  .ofList [0x2202, 0x2207, 0x221e, 0x1d6c1, 0x1d6db, 0x1d6fb, 0x1d715, 0x1d735, 0x1d74f,
    0x1d76f, 0x1d789, 0x1d7a9, 0x1d7c3]

/-- The mathematical symbols that may continue an identifier. -/
def idCompatMathContinue : CharSet :=
  idCompatMathStart ∪ .ofRanges
    [⟨0xb2, 0xb3⟩, ⟨0xb9, 0xb9⟩, ⟨0x2070, 0x2070⟩, ⟨0x2074, 0x207e⟩, ⟨0x2080, 0x208e⟩]

/-- The properties by name, each with its code points. -/
def properties : List (List String × (Unit → CharSet)) :=
  [(["ahex", "asciihexdigit"], fun _ => setOf Table.asciiHexDigit),
   (["alpha", "alphabetic"], fun _ => alphabetic),
   (["bidic", "bidicontrol"], fun _ => setOf Table.bidiControl),
   (["bidim", "bidimirrored"], fun _ => setOf Table.bidiMirrored),
   (["ci", "caseignorable"], fun _ =>
     (categories ["Mn", "Me", "Cf", "Lm", "Sk"]).symmDiff (setOf Table.caseIgnorableToggle)),
   (["cased"], fun _ => cased),
   (["cwcf", "changeswhencasefolded"], fun _ =>
     changesWhenLowercased.symmDiff (setOf Table.casefoldedToggle)),
   (["cwcm", "changeswhencasemapped"], fun _ => changesWhenCasemapped),
   (["cwl", "changeswhenlowercased"], fun _ => changesWhenLowercased),
   (["cwt", "changeswhentitlecased"], fun _ =>
     changesWhenUppercased.symmDiff (setOf Table.titlecasedToggle)),
   (["cwu", "changeswhenuppercased"], fun _ => changesWhenUppercased),
   (["dash"], fun _ => setOf Table.dash),
   (["di", "defaultignorablecodepoint"], fun _ => setOf Table.defaultIgnorableCodePoint),
   (["dep", "deprecated"], fun _ => setOf Table.deprecated),
   (["dia", "diacritic"], fun _ => setOf Table.diacritic),
   (["emoji"], fun _ => setOf Table.emoji),
   (["ecomp", "emojicomponent"], fun _ => setOf Table.emojiComponent),
   (["emod", "emojimodifier"], fun _ => setOf Table.emojiModifier),
   (["ebase", "emojimodifierbase"], fun _ => setOf Table.emojiModifierBase),
   (["epres", "emojipresentation"], fun _ => setOf Table.emojiPresentation),
   (["extpict", "extendedpictographic"], fun _ => setOf Table.extendedPictographic),
   (["ext", "extender"], fun _ => setOf Table.extender),
   (["grbase", "graphemebase"], fun _ => graphemeBase),
   (["grext", "graphemeextend"], fun _ => graphemeExtend),
   (["grlink", "graphemelink"], fun _ => setOf Table.graphemeLink),
   (["hex", "hexdigit"], fun _ => setOf Table.hexDigit),
   (["hyphen"], fun _ => setOf Table.hyphen),
   (["idsb", "idsbinaryoperator"], fun _ => setOf Table.idsBinaryOperator),
   (["idst", "idstrinaryoperator"], fun _ => setOf Table.idsTrinaryOperator),
   (["idsu", "idsunaryoperator"], fun _ => setOf Table.idsUnaryOperator),
   (["idcompatmathcontinue"], fun _ => idCompatMathContinue),
   (["idcompatmathstart"], fun _ => idCompatMathStart),
   (["idc", "idcontinue"], fun _ => idContinue),
   (["ids", "idstart"], fun _ => idStart),
   (["ideo", "ideographic"], fun _ => setOf Table.ideographic),
   (["joinc", "joincontrol"], fun _ => setOf Table.joinControl),
   (["loe", "logicalorderexception"], fun _ => setOf Table.logicalOrderException),
   (["lower", "lowercase"], fun _ => lowercase),
   (["math"], fun _ => categories ["Sm"] ∪ setOf Table.otherMath),
   (["mcm", "modifiercombiningmark"], fun _ => setOf Table.modifierCombiningMark),
   (["nchar", "noncharactercodepoint"], fun _ => setOf Table.noncharacterCodePoint),
   (["oalpha", "otheralphabetic"], fun _ => setOf Table.otherAlphabetic),
   (["odi", "otherdefaultignorablecodepoint"], fun _ =>
     setOf Table.otherDefaultIgnorableCodePoint),
   (["ogrext", "othergraphemeextend"], fun _ => setOf Table.otherGraphemeExtend),
   (["oidc", "otheridcontinue"], fun _ => setOf Table.otherIdContinue),
   (["oids", "otheridstart"], fun _ => setOf Table.otherIdStart),
   (["olower", "otherlowercase"], fun _ => setOf Table.otherLowercase),
   (["omath", "othermath"], fun _ => setOf Table.otherMath),
   (["oupper", "otheruppercase"], fun _ => setOf Table.otherUppercase),
   (["patsyn", "patternsyntax"], fun _ => setOf Table.patternSyntax),
   (["patws", "patternwhitespace"], fun _ => setOf Table.patternWhiteSpace),
   (["pcm", "prependedconcatenationmark"], fun _ => setOf Table.prependedConcatenationMark),
   (["qmark", "quotationmark"], fun _ => setOf Table.quotationMark),
   (["radical"], fun _ => setOf Table.radical),
   (["ri", "regionalindicator"], fun _ => setOf Table.regionalIndicator),
   (["sd", "softdotted"], fun _ => setOf Table.softDotted),
   (["sterm", "sentenceterminal"], fun _ => setOf Table.sentenceTerminal),
   (["term", "terminalpunctuation"], fun _ => setOf Table.terminalPunctuation),
   (["uideo", "unifiedideograph"], fun _ => setOf Table.unifiedIdeograph),
   (["upper", "uppercase"], fun _ => uppercase),
   (["vs", "variationselector"], fun _ => setOf Table.variationSelector),
   (["wspace", "whitespace", "space"], fun _ => whiteSpace),
   (["xidc", "xidcontinue"], fun _ => idContinue \ setOf Table.notXidContinue),
   (["xids", "xidstart"], fun _ => idStart \ setOf Table.notXidStart)]

/-- The characters that do not show when they are printed. -/
def unprintable : CharSet :=
  categories ["Cc", "Cf", "Cs", "Co", "Cn", "Zl", "Zp", "Zs"] \ .singleton ' '.toNat

end Unicode

end Switchboard
