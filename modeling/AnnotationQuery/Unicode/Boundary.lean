import AnnotationQuery.Unicode.Property
import AnnotationQuery.Unicode.Script

/-!
# Boundaries in text

The roles that characters have at the boundaries of user-perceived characters, of words and of
sentences, by the rules of version 16 of the Unicode standard. At each kind of boundary a character
has one role at most.

* `characterRoles`, `wordRoles`, `sentenceRoles`: the roles under their names.
-/

namespace AnnotationQuery.Unicode

/-- The members of the script with this name. -/
def scriptNamed (name : String) : CodeSet :=
  ((scripts.find? (name ∈ ·.names)).map Script.members).getD .empty

/-! ## Roles of their own -/

def carriageReturn : CodeSet := .single 0x0D

def lineFeed : CodeSet := .single 0x0A

/-- The character that joins emoji and letters. -/
def joiner : CodeSet := .single 0x200D

/-- The characters that neither begin nor end a line but join their neighbours. -/
def joiners : CodeSet := .interval 0x200C 0x200D

/-! ## User-perceived characters -/

namespace CharacterBoundary

/-- The characters that extend the one before them, and the modifiers of emoji. -/
def extend : CodeSet :=
  graphemeExtend.union emojiModifier

/-- Separators, controls, and ignorable code points that no character has. -/
def control : CodeSet :=
  ((Category.membersOf [.lineSeparator, .paragraphSeparator, .control, .format]).union
    (Category.unassigned.inter defaultIgnorable)).diff
    (((carriageReturn.union lineFeed).union joiners).union
      (prependedConcatenationMark.union extend))

/-- The marks that take up space after the character they belong to. -/
def spacing : CodeSet :=
  (Category.spacingMark.members.union (.ofListing ["E33 EB3"])).diff
    (extend.union (.ofListing
      ["102B-102C 1038 1062-1064 1067-106D 1083 1087-108C 108F 109A-109C 1A61 1A63-1A64 AA7B AA7D",
       "11720-11721"]))

/-- The characters that belong to the one after them. -/
def prepended : CodeSet :=
  prependedConcatenationMark.union (.ofListing
    ["D4E 111C2-111C3 113D1 1193F 11941 11A3A 11A84-11A89 11D46 11F02"])

/-- The syllables of Korean that end in a vowel. -/
def openSyllables : CodeSet :=
  .ofRanges ((List.range 399).map fun i => ⟨0xAC00 + 28 * i, 0xAC00 + 28 * i⟩)

/-- The syllables of Korean that end in a consonant. -/
def closedSyllables : CodeSet :=
  (CodeSet.interval 0xAC00 0xD7A3).diff openSyllables

end CharacterBoundary

open CharacterBoundary in
/-- The roles at the boundaries of user-perceived characters. -/
def characterRoles : List (List String × CodeSet) :=
  [(["cn", "control"], control),
   (["cr"], carriageReturn),
   (["ex", "extend"], extend),
   (["l"], .ofListing ["1100-115F A960-A97C"]),
   (["lf"], lineFeed),
   (["lv"], openSyllables),
   (["lvt"], closedSyllables),
   (["pp", "prepend"], prepended),
   (["ri", "regionalindicator"], regionalIndicator),
   (["sm", "spacingmark"], spacing),
   (["t"], .ofListing ["11A8-11FF D7CB-D7FB"]),
   (["v"], .ofListing ["1160-11A7 D7B0-D7C6 16D63 16D67-16D6A"]),
   (["zwj"], joiner)]

/-! ## Words -/

/-- The digits that numbers are broken by, with the marks in front of numbers. -/
def numeric : CodeSet :=
  (Category.decimalNumber.members.diff (.interval 0xFF10 0xFF19)).union
    (.ofListing ["600-605 66B-66C 6DD 890-891 8E2 19DA 110BD 110CD"])

namespace WordBoundary

/-- The marks that belong to the character before them. -/
def extend : CodeSet :=
  (CharacterBoundary.extend.union Category.spacingMark.members).diff joiner

/-- The format characters without a role of their own. -/
def format : CodeSet :=
  Category.format.members.diff
    ((extend.union prependedConcatenationMark).union (.ofListing ["200B-200D"]))

/-- The characters of katakana, with its signs of repetition and length. -/
def katakana : CodeSet :=
  (scriptNamed "katakana").union (.ofListing ["3031-3035 309B-309C 30A0 30FC FF70"])

/-- The letters of Hebrew. -/
def hebrewLetter : CodeSet :=
  (scriptNamed "hebrew").inter Category.otherLetter.members

/-- The characters of scripts that write no blanks between words. -/
def unspaced : CodeSet :=
  .ofListing
    ["E01-E3A E40-E4E E81-E82 E84 E86-E8A E8C-EA3 EA5 EA7-EBD EC0-EC4 EC6 EC8-ECE EDC-EDF",
     "1000-103F 1050-108F 109A-109F 1780-17D3 17D7 17DC-17DD 1950-196D 1970-1974 1980-19AB",
     "19B0-19C9 19DA 19DE-19DF 1A20-1A5E 1A60-1A7C 1AA0-1AAD A9E0-A9EF A9FA-A9FE AA60-AAC2",
     "AADB-AADF 11700-1171A 1171D-1172B 1173A-1173B 1173F-11746"]

/-- The letters of scripts that write blanks between words. -/
def letter : CodeSet :=
  (alphabetic.union (.ofListing
    ["2C2-2C5 2D2-2D7 2DE-2DF 2E5-2EB 2ED 2EF-2FF 55A-55C 55E 58A 5F3 70F A708-A716 A720-A721",
     "A789-A78A AB5B"])).diff
    ((((ideographic.union katakana).union (unspaced.union (scriptNamed "hiragana"))).union
      ((scriptNamed "thai").union (scriptNamed "lao"))).union (extend.union hebrewLetter))

end WordBoundary

open WordBoundary in
/-- The roles at the boundaries of words. -/
def wordRoles : List (List String × CodeSet) :=
  [(["cr"], carriageReturn),
   (["dq", "doublequote"], .single 0x22),
   (["ex", "extendnumlet"],
    Category.connectorPunctuation.members.union (.single 0x202F)),
   (["extend"], extend),
   (["fo", "format"], format),
   (["hl", "hebrewletter"], hebrewLetter),
   (["ka", "katakana"], katakana),
   (["le", "aletter"], letter),
   (["lf"], lineFeed),
   (["mb", "midnumlet"], .ofListing ["2E 2018-2019 2024 FE52 FF07 FF0E"]),
   (["ml", "midletter"], .ofListing ["3A B7 387 55F 5F4 2027 FE13 FE55 FF1A"]),
   (["mn", "midnum"],
    .ofListing ["2C 3B 37E 589 60C-60D 66C 7F8 2044 FE50 FE54 FF0C FF1B"]),
   (["nl", "newline"], .ofListing ["B-C 85 2028-2029"]),
   (["nu", "numeric"], (numeric.union (.interval 0xFF10 0xFF19)).diff (.single 0x66C)),
   (["ri", "regionalindicator"], regionalIndicator),
   (["sq", "singlequote"], .single 0x27),
   (["wsegspace"], Category.spaceSeparator.members.diff (.ofListing ["A0 2007 202F"])),
   (["zwj"], joiner)]

/-! ## Sentences -/

namespace SentenceBoundary

/-- The marks that belong to the character before them. -/
def extend : CodeSet :=
  (graphemeExtend.union Category.spacingMark.members).union joiner

/-- The format characters without a role of their own. -/
def format : CodeSet :=
  Category.format.members.diff
    ((extend.union joiners).union (prependedConcatenationMark.diff (.single 0x70F)))

/-- The ends of lines that end a sentence. -/
def separator : CodeSet :=
  .ofListing ["85 2028-2029"]

/-- The lowercase letters; those of Georgian are not told apart by case. -/
def lower : CodeSet :=
  lowercase.diff (graphemeExtend.union (.ofListing ["10D0-10FA 10FD-10FF"]))

/-- The uppercase letters; those of Georgian are not told apart by case. -/
def upper : CodeSet :=
  (uppercase.union titlecase).diff (.ofListing ["1C90-1CBA 1CBD-1CBF"])

/-- The marks that end sentences and stand for other things too. -/
def fullStop : CodeSet :=
  .ofListing ["2E 2024 FE52 FF0E"]

/-- The marks that end sentences only. -/
def terminal : CodeSet :=
  sentenceTerminal.diff fullStop

/-- Closing marks, and the quotation marks and brackets that may close. -/
def close : CodeSet :=
  ((Category.membersOf [.openPunctuation, .closePunctuation, .initialPunctuation,
    .finalPunctuation]).union (.ofListing ["22 27 275B-2760 2E00-2E0D 2E1C-2E1D 2E20-2E21",
      "1F676-1F678"])).diff (fullStop.union terminal)

end SentenceBoundary

open SentenceBoundary in
/-- The roles at the boundaries of sentences. -/
def sentenceRoles : List (List String × CodeSet) :=
  [(["at", "aterm"], fullStop),
   (["cl", "close"], close),
   (["cr"], carriageReturn),
   (["ex", "extend"], extend),
   (["fo", "format"], format),
   (["le", "oletter"],
    (alphabetic.union (.single 0x5F3)).diff ((lower.union upper).union extend)),
   (["lf"], lineFeed),
   (["lo", "lower"], lower),
   (["nu", "numeric"], numeric.union (.interval 0xFF10 0xFF19)),
   (["sc", "scontinue"],
    .ofListing
      ["2C-2D 3A-3B 37E 55D 60C-60D 7F8 1802 1808 2013-2014 3001 FE10-FE11 FE13-FE14 FE31-FE32",
       "FE50-FE51 FE54-FE55 FE58 FE63 FF0C-FF0D FF1A-FF1B FF64"]),
   (["se", "sep"], separator),
   (["sp"],
    whiteSpace.diff ((separator.union carriageReturn).union lineFeed)),
   (["st", "sterm"], terminal),
   (["up", "upper"], upper)]

end AnnotationQuery.Unicode
