import RuleBook.Text.Blank
import RuleBook.Unicode.GeneralCategory
import RuleBook.Unicode.Listed

/-!
# Binary properties

Properties derived from general categories and from listed ones, and all properties
by name.  Where the derivation has exceptions, these are toggled.
-/

namespace RuleBook.Unicode

def lowercase : CharSet := (category "Ll").union otherLowercase

def uppercase : CharSet := (category "Lu").union otherUppercase

def cased : CharSet := (lowercase.union uppercase).union (category "Lt")

def alphabetic : CharSet :=
  ((category "L").union (category "Nl")).union
    ((otherLowercase.union otherUppercase).union otherAlphabetic)

def math : CharSet := (category "Sm").union otherMath

def whiteSpace : CharSet := .ofRanges Text.blankRanges

/-- What programming notations keep for themselves, and so is never part of a name. -/
def patternReserved : CharSet := patternSyntax.union patternWhiteSpace

def idStart : CharSet :=
  (((category "L").union (category "Nl")).union otherIdStart).difference patternReserved

def idContinue : CharSet :=
  ((idStart.union ((category "Mn").union (category "Mc"))).union
    (((category "Nd").union (category "Pc")).union otherIdContinue)).difference patternReserved

def xidStart : CharSet := idStart.toggle (decodeRanges
  "890 1 2744 1 127 1 8679 2 52161 6 406 2 116 1 1 1 1 1 1 1 1 1 1 1 1 1 1 1 287 2")

def xidContinue : CharSet := idContinue.toggle (decodeRanges
  "890 1 11552 2 52161 6 406 2 116 1 1 1 1 1 1 1 1 1 1 1 1 1 1 1")

def graphemeExtend : CharSet :=
  ((category "Mn").union (category "Me")).union otherGraphemeExtend

def graphemeBase : CharSet :=
  (((category "C").union ((category "Zl").union (category "Zp"))).union graphemeExtend).complement

/-- Invisible where not supported; annotation marks, joints of hieroglyphs and marks
that enclose what follows are shown. -/
def defaultIgnorableCodePoint : CharSet :=
  (((category "Cf").union variationSelector).union otherDefaultIgnorableCodePoint).difference
    ((whiteSpace.union prependedConcatenationMark).union
      ⟨[(0xfff9, 0xfffb), (0x13430, 0x13440)]⟩)

def caseIgnorable : CharSet := ((((category "Mn").union (category "Me")).union
    ((category "Cf").union (category "Lm"))).union (category "Sk")).toggle (decodeRanges
  "39 1 6 1 11 1 124 1 719 1 471 1 148 1 6691 2 10 1 2 1 56811 1 62 1 2 1 177 1 6 1 11 1")

def changesWhenLowercased : CharSet := (uppercase.union (category "Lt")).toggle (decodeRanges
  "978 3 7469 1 4 1 3 3 2 3 2 1 3 5 6 1 3 1 3 2 2 2 1 1 10 2 5 1 111290 26 26 26 26 26 26 1 1 2 2
  1 2 2 2 4 1 8 26 26 26 2 1 4 2 8 1 7 27 2 1 4 1 5 1 1 3 7 27 26 26 26 26 26 26 26 26 26 26 26
  30 25 33 25 33 25 33 25 33 25 33 1 6501 26 6 26 6 26")

def changesWhenUppercased : CharSet := (lowercase.union (category "Lt")).toggle (decodeRanges
  "170 1 15 1 125 1 84 1 28 2 14 1 3 1 98 1 18 6 27 1 2 1 1 1 2 3 2 1 4 1 5 2 1 1 2 2 1 7 1 2 1 1
  2 3 6 5 1 1 1 8 2 26 7 2 30 5 149 1 129 1 355 1 39 1 2931 1 3075 121 1 3 1 16 1 49 220 2 1 1
  465 1 13 1 16 13 109 1 3 2 3 1 27 1 4 1 4 1 2 2 8 4 2855 1 2 1 2 7 102 1 31159 2 146 2 62 9 21
  1 6 1 25 1 35 1 1 1 28 3 3 3 821 35 1 7 1 14 23574 1 2 3 1 42 1 9 52319 26 26 7 1 18 26 26 26
  4 1 1 1 7 1 11 26 26 26 26 26 26 26 26 26 26 26 26 26 26 26 26 26 28 28 25 1 6 26 25 1 6 26 25
  1 6 26 25 1 6 26 25 1 6 1 1 1844 10 1 20 6 6 261 62")

def changesWhenTitlecased : CharSet := lowercase.toggle (decodeRanges
  "170 1 15 1 125 1 84 1 28 2 14 1 3 1 5 1 2 1 2 1 38 1 47 1 18 6 27 1 2 1 1 1 2 3 2 1 4 1 5 2 1
  1 2 2 1 7 1 2 1 1 2 3 6 5 1 1 1 8 2 26 7 2 30 5 149 1 129 1 355 1 39 1 2887 43 1 4 3072 121 1
  3 1 16 1 49 220 2 1 1 465 1 13 1 16 13 109 1 3 2 3 1 27 1 4 1 4 1 2 2 8 4 2855 1 2 1 2 7 102 1
  31159 2 146 2 62 9 21 1 6 1 25 1 35 1 1 1 28 3 3 3 821 35 1 7 1 14 23574 1 2 3 1 42 1 9 52319
  26 26 7 1 18 26 26 26 4 1 1 1 7 1 11 26 26 26 26 26 26 26 26 26 26 26 26 26 26 26 26 26 28 28
  25 1 6 26 25 1 6 26 25 1 6 26 25 1 6 26 25 1 6 1 1 1844 10 1 20 6 6 261 62")

def changesWhenCasemapped : CharSet :=
  (changesWhenLowercased.union changesWhenUppercased).union changesWhenTitlecased

def changesWhenCasefolded : CharSet := (uppercase.union (category "Lt")).toggle (decodeRanges
  "181 1 41 1 105 1 53 1 453 1 124 1 13 7 25 2 3 1 401 1 3608 86 2 6 2178 9 529 2 228 8 8 8 8 8
  10 3 2 1 10 3 2 1 42 3 2 1 266 1 4 1 3 3 2 3 2 1 3 5 6 1 3 1 3 2 2 2 1 1 10 2 5 1 35370 80
  20288 7 12 5 55528 26 26 26 26 26 26 1 1 2 2 1 2 2 2 4 1 8 26 26 26 2 1 4 2 8 1 7 27 2 1 4 1 5
  1 1 3 7 27 26 26 26 26 26 26 26 26 26 26 26 30 25 33 25 33 25 33 25 33 25 33 1 6501 26 6 26 6
  26")

def properties : List (List String × CharSet) :=
  [(["alpha", "alphabetic"], alphabetic),
    (["ahex", "asciihexdigit"], asciiHexDigit),
    (["bidic", "bidicontrol"], bidiControl),
    (["bidim", "bidimirrored"], bidiMirrored),
    (["ci", "caseignorable"], caseIgnorable),
    (["cased"], cased),
    (["cwcf", "changeswhencasefolded"], changesWhenCasefolded),
    (["cwcm", "changeswhencasemapped"], changesWhenCasemapped),
    (["cwl", "changeswhenlowercased"], changesWhenLowercased),
    (["cwt", "changeswhentitlecased"], changesWhenTitlecased),
    (["cwu", "changeswhenuppercased"], changesWhenUppercased),
    (["dash"], dash),
    (["di", "defaultignorablecodepoint"], defaultIgnorableCodePoint),
    (["dep", "deprecated"], deprecated),
    (["dia", "diacritic"], diacritic),
    (["emoji"], emoji),
    (["ecomp", "emojicomponent"], emojiComponent),
    (["emod", "emojimodifier"], emojiModifier),
    (["ebase", "emojimodifierbase"], emojiModifierBase),
    (["epres", "emojipresentation"], emojiPresentation),
    (["extpict", "extendedpictographic"], extendedPictographic),
    (["ext", "extender"], extender),
    (["grbase", "graphemebase"], graphemeBase),
    (["grext", "graphemeextend"], graphemeExtend),
    (["grlink", "graphemelink"], graphemeLink),
    (["hex", "hexdigit"], hexDigit),
    (["hyphen"], hyphen),
    (["idcompatmathcontinue"], idCompatMathContinue),
    (["idcompatmathstart"], idCompatMathStart),
    (["idc", "idcontinue"], idContinue),
    (["ids", "idstart"], idStart),
    (["ideo", "ideographic"], ideographic),
    (["idsb", "idsbinaryoperator"], idsBinaryOperator),
    (["idst", "idstrinaryoperator"], idsTrinaryOperator),
    (["idsu", "idsunaryoperator"], idsUnaryOperator),
    (["joinc", "joincontrol"], joinControl),
    (["loe", "logicalorderexception"], logicalOrderException),
    (["lower", "lowercase"], lowercase),
    (["math"], math),
    (["mcm", "modifiercombiningmark"], modifierCombiningMark),
    (["nchar", "noncharactercodepoint"], noncharacterCodePoint),
    (["oalpha", "otheralphabetic"], otherAlphabetic),
    (["odi", "otherdefaultignorablecodepoint"], otherDefaultIgnorableCodePoint),
    (["ogrext", "othergraphemeextend"], otherGraphemeExtend),
    (["oidc", "otheridcontinue"], otherIdContinue),
    (["oids", "otheridstart"], otherIdStart),
    (["olower", "otherlowercase"], otherLowercase),
    (["omath", "othermath"], otherMath),
    (["oupper", "otheruppercase"], otherUppercase),
    (["patsyn", "patternsyntax"], patternSyntax),
    (["patws", "patternwhitespace"], patternWhiteSpace),
    (["pcm", "prependedconcatenationmark"], prependedConcatenationMark),
    (["qmark", "quotationmark"], quotationMark),
    (["radical"], radical),
    (["ri", "regionalindicator"], regionalIndicator),
    (["sterm", "sentenceterminal"], sentenceTerminal),
    (["sd", "softdotted"], softDotted),
    (["term", "terminalpunctuation"], terminalPunctuation),
    (["uideo", "unifiedideograph"], unifiedIdeograph),
    (["upper", "uppercase"], uppercase),
    (["vs", "variationselector"], variationSelector),
    (["space", "wspace", "whitespace"], whiteSpace),
    (["xidc", "xidcontinue"], xidContinue),
    (["xids", "xidstart"], xidStart)]

def property? (name : List Char) : Option CharSet :=
  (properties.find? fun (names, _) => names.any (·.toList == name)).map (·.2)

def decimalDigits : CharSet := category "Nd"

def wordCharacters : CharSet :=
  (alphabetic.union (category "M")).union
    ((decimalDigits.union (category "Pc")).union joinControl)

/-! ## The next edition

Names are made up from letters and numbers of the edition that follows the one of the
tables. -/

def nextAlphabetic : CharSet := alphabetic.union (decodeRanges
  "2191 1 972 1 127 1 39665 2 2 1 1 1 28 1 24910 26 1387 3 50 2 3172 8 584 44 20676 25 2 25 286 5
  6145 8 1289 22 97 115 22733 31 1 22 8 2 53306 6 5986 12 21762 4298")

def nextNumeric : CharSet := (category "N").union (decodeRanges
  "73184 10 21002 3")

end RuleBook.Unicode
