import AnnotationQuery.Unicode.Category
import AnnotationQuery.Unicode.Folding
import AnnotationQuery.Unicode.Listed

/-!
# Properties of characters

The properties that a character has or has not in version 16 of the Unicode standard. Those with a
rule are built by it from categories and listed properties.

* `binaryProperties`: the properties under their names.
* `decimalDigits`, `blanks`, `wordCharacters`: the sets that match patterns have letters for.
-/

namespace AnnotationQuery.Unicode

/-! ## Case -/

/-- The letters and signs in lower case. -/
def lowercase : CodeSet :=
  Category.lowercaseLetter.members.union otherLowercase

/-- The letters and signs in upper case. -/
def uppercase : CodeSet :=
  Category.uppercaseLetter.members.union otherUppercase

/-- The pairs of letters of which the first is in upper case. -/
def titlecase : CodeSet :=
  Category.titlecaseLetter.members

/-- Letters of any case. -/
def cased : CodeSet :=
  (lowercase.union uppercase).union titlecase

/-- The characters that another sequence takes the place of when text is lowercased. -/
def changesWhenLowercased : CodeSet :=
  (foldable.inter (uppercase.union titlecase)).union (.single 0x130)

/-- The lowercase characters whose uppercase form is a sequence of characters or stands for other
characters too. -/
def uppercasedToOthers : CodeSet :=
  .ofListing
    ["131 149 1F0 587 1E96-1E9A 1F50 1F52 1F54 1F56 1FB2 1FB4 1FB6-1FB7 1FC2 1FC4 1FC6-1FC7 1FD2",
     "1FD6-1FD7 1FE2 1FE4 1FE6-1FE7 1FF2 1FF4 1FF6-1FF7 FB00-FB04 FB13-FB17"]

/-- The characters that another sequence takes the place of when text is uppercased. -/
def changesWhenUppercased : CodeSet :=
  (foldable.inter (lowercase.union titlecase)).union uppercasedToOthers

/-- The characters that another sequence takes the place of when text is titlecased. Georgian
letters keep their case. -/
def changesWhenTitlecased : CodeSet :=
  ((changesWhenUppercased.diff titlecase).union (.ofListing ["1C4 1C7 1CA 1F1"])).diff
    (.ofListing ["10D0-10FA 10FD-10FF"])

/-- The characters that another sequence takes the place of when case is folded. Cherokee letters
fold to their uppercase forms. -/
def changesWhenFolded : CodeSet :=
  (changesWhenLowercased.diff (.interval 0x13A0 0x13F5)).union
    (.ofListing
      ["B5 DF 149 17F 345 3C2 3D0-3D1 3D5-3D6 3F0-3F1 3F5 587 13F8-13FD 1C80-1C88 1E9A-1E9B",
       "1F80-1F87 1F90-1F97 1FA0-1FA7 1FB2-1FB4 1FB7 1FC2-1FC4 1FC7 1FF2-1FF4 1FF7 AB70-ABBF",
       "FB00-FB06 FB13-FB17"])

/-- The characters that another sequence takes the place of in some case. -/
def changesWhenMapped : CodeSet :=
  (changesWhenLowercased.union changesWhenUppercased).union changesWhenTitlecased

/-- The marks and signs that are skipped where the case of neighbours is looked at. -/
def caseIgnorable : CodeSet :=
  (Category.membersOf [.nonspacingMark, .enclosingMark, .format, .modifierLetter,
    .modifierSymbol]).union
    (.ofListing ["27 2E 3A B7 387 55F 5F4 2018-2019 2024 2027 FE13 FE52 FE55 FF07 FF0E FF1A"])

/-! ## Letters and names -/

/-- The characters that words are written with. -/
def alphabetic : CodeSet :=
  ((lowercase.union uppercase).union otherAlphabetic).union
    (Category.membersOf [.titlecaseLetter, .modifierLetter, .otherLetter, .letterNumber])

/-- The characters that no name may hold. -/
def outsideNames : CodeSet :=
  patternSyntax.union patternWhiteSpace

/-- The characters that may begin a name. -/
def nameStart : CodeSet :=
  ((Category.membersOf (.letterNumber :: Category.letters)).union otherNameStart).diff outsideNames

/-- The characters that may stand inside a name. -/
def namePart : CodeSet :=
  ((nameStart.union otherNamePart).union (Category.membersOf [.nonspacingMark, .spacingMark,
    .decimalNumber, .connectorPunctuation])).diff outsideNames

/-- The characters of names that compatible composition takes out of them. -/
def composedAway : CodeSet :=
  .ofListing
    ["37A 309B-309C FC5E-FC63 FDFA-FDFB FE70 FE72 FE74 FE76 FE78 FE7A FE7C FE7E"]

/-- The characters that may begin a name before and after composition. -/
def stableNameStart : CodeSet :=
  nameStart.diff (composedAway.union (.ofListing ["E33 EB3 FF9E-FF9F"]))

/-- The characters that may stand inside a name before and after composition. -/
def stableNamePart : CodeSet :=
  namePart.diff composedAway

/-- The characters that may stand inside a mathematical name. -/
def mathPart : CodeSet :=
  mathStart.union (.ofListing ["B2-B3 B9 2070 2074-207E 2080-208E"])

/-! ## Marks, signs and other code points -/

/-- The characters that extend the one before them. -/
def graphemeExtend : CodeSet :=
  (Category.membersOf [.nonspacingMark, .enclosingMark]).union otherGraphemeExtend

/-- The characters that others extend. -/
def graphemeBase : CodeSet :=
  Category.assigned.diff ((Category.membersOf [.control, .format, .privateUse, .lineSeparator,
    .paragraphSeparator]).union graphemeExtend)

/-- Mathematical characters. -/
def math : CodeSet :=
  Category.mathSymbol.members.union otherMath

/-- The code points that are not shown where they have no meaning. -/
def defaultIgnorable : CodeSet :=
  ((otherDefaultIgnorable.union Category.format.members).union variationSelector).diff
    ((prependedConcatenationMark.union whiteSpace).union
      (.ofListing ["FFF9-FFFB 13430-1343F"]))

/-- The code points that are set aside for use inside a program: the last two of every plane, and
some more. -/
def noncharacter : CodeSet :=
  .ofRanges (⟨0xFDD0, 0xFDEF⟩ ::
    (List.range 17).map fun plane => ⟨0x10000 * plane + 0xFFFE, 0x10000 * plane + 0xFFFF⟩)

/-! ## Sets with a letter of their own -/

/-- The digits of decimal numbers. -/
def decimalDigits : CodeSet :=
  Category.decimalNumber.members

/-- The blanks between words and lines. -/
def blanks : CodeSet :=
  whiteSpace

/-- The characters of words: letters, marks, digits, connectors and the controls of joining. -/
def wordCharacters : CodeSet :=
  (alphabetic.union joinControl).union
    (Category.membersOf (.decimalNumber :: .connectorPunctuation :: Category.marks))

/-! ## Names -/

/-- The properties that a character has or has not, each under its names in their plain form. -/
def binaryProperties : List (List String × CodeSet) :=
  [(["ahex", "asciihexdigit"], .ofListing ["30-39 41-46 61-66"]),
   (["alpha", "alphabetic"], alphabetic),
   (["bidic", "bidicontrol"], bidiControl),
   (["bidim", "bidimirrored"], bidiMirrored),
   (["ci", "caseignorable"], caseIgnorable),
   (["cased"], cased),
   (["cwcf", "changeswhencasefolded"], changesWhenFolded),
   (["cwcm", "changeswhencasemapped"], changesWhenMapped),
   (["cwl", "changeswhenlowercased"], changesWhenLowercased),
   (["cwt", "changeswhentitlecased"], changesWhenTitlecased),
   (["cwu", "changeswhenuppercased"], changesWhenUppercased),
   (["dash"], dash),
   (["di", "defaultignorablecodepoint"], defaultIgnorable),
   (["dep", "deprecated"], deprecated),
   (["dia", "diacritic"], diacritic),
   (["emoji"], emoji),
   (["ecomp", "emojicomponent"], emojiComponent),
   (["emod", "emojimodifier"], emojiModifier),
   (["ebase", "emojimodifierbase"], emojiModifierBase),
   (["epres", "emojipresentation"], emojiPresentation),
   (["extpict", "extendedpictographic"], extendedPictographic),
   (["ext", "extender"], extender),
   (["grbase", "graphemebase"], graphemeBase),
   (["grext", "graphemeextend"], graphemeExtend),
   (["grlink", "graphemelink"], graphemeLink),
   (["hex", "hexdigit"], hexDigit),
   (["hyphen"], hyphen),
   (["idsb", "idsbinaryoperator"], idsBinaryOperator),
   (["idst", "idstrinaryoperator"], idsTrinaryOperator),
   (["idsu", "idsunaryoperator"], idsUnaryOperator),
   (["idcompatmathcontinue"], mathPart),
   (["idcompatmathstart"], mathStart),
   (["idc", "idcontinue"], namePart),
   (["ids", "idstart"], nameStart),
   (["ideo", "ideographic"], ideographic),
   (["joinc", "joincontrol"], joinControl),
   (["loe", "logicalorderexception"], logicalOrderException),
   (["lower", "lowercase"], lowercase),
   (["math"], math),
   (["mcm", "modifiercombiningmark"], modifierCombiningMark),
   (["nchar", "noncharactercodepoint"], noncharacter),
   (["oalpha", "otheralphabetic"], otherAlphabetic),
   (["odi", "otherdefaultignorablecodepoint"], otherDefaultIgnorable),
   (["ogrext", "othergraphemeextend"], otherGraphemeExtend),
   (["oidc", "otheridcontinue"], otherNamePart),
   (["oids", "otheridstart"], otherNameStart),
   (["olower", "otherlowercase"], otherLowercase),
   (["omath", "othermath"], otherMath),
   (["oupper", "otheruppercase"], otherUppercase),
   (["patsyn", "patternsyntax"], patternSyntax),
   (["patws", "patternwhitespace"], patternWhiteSpace),
   (["pcm", "prependedconcatenationmark"], prependedConcatenationMark),
   (["qmark", "quotationmark"], quotationMark),
   (["radical"], radical),
   (["ri", "regionalindicator"], regionalIndicator),
   (["sterm", "sentenceterminal"], sentenceTerminal),
   (["sd", "softdotted"], softDotted),
   (["term", "terminalpunctuation"], terminalPunctuation),
   (["uideo", "unifiedideograph"], unifiedIdeograph),
   (["upper", "uppercase"], uppercase),
   (["vs", "variationselector"], variationSelector),
   (["wspace", "whitespace", "space"], whiteSpace),
   (["xidc", "xidcontinue"], stableNamePart),
   (["xids", "xidstart"], stableNameStart)]

end AnnotationQuery.Unicode
