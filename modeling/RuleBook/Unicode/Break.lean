import RuleBook.Unicode.Property
import RuleBook.Unicode.Script

/-!
# Break properties

For each of three ways to cut a text into pieces, the kinds of characters that the
rules for cutting tell apart.  Exceptions to a derivation are toggled.
-/

namespace RuleBook.Unicode

def carriageReturn : CharSet := .single 0x0d

def lineFeed : CharSet := .single 0x0a

def zeroWidthJoiner : CharSet := .single 0x200d

def clusterExtend : CharSet := graphemeExtend.union emojiModifier

def clusterControl : CharSet :=
  ((((category "Zl").union (category "Zp")).union ((category "Cc").union (category "Cf"))).union
    (unassigned.intersection defaultIgnorableCodePoint)).difference
    (((carriageReturn.union lineFeed).union (zeroWidthJoiner.union clusterExtend)).union
      prependedConcatenationMark)

def clusterPrepend : CharSet := prependedConcatenationMark.union (decodeRanges
  "3406 1 66675 2 525 1 1389 1 1 1 248 1 73 6 700 1 443 1")

def clusterSpacingMark : CharSet := ((category "Mc").difference graphemeExtend).toggle (decodeRanges
  "3635 1 127 1 375 2 11 1 41 3 2 7 21 1 3 6 2 1 10 3 2500 1 1 2 36886 1 1 1 27810 2")

def hangulLeading : CharSet :=
  ⟨[(0x1100, 0x115f), (0xa960, 0xa97c)]⟩

def hangulVowel : CharSet :=
  ⟨[(0x1160, 0x11a7), (0xd7b0, 0xd7c6), (0x16d63, 0x16d63), (0x16d67, 0x16d6a)]⟩

def hangulTrailing : CharSet :=
  ⟨[(0x11a8, 0x11ff), (0xd7cb, 0xd7fb)]⟩

/-- Syllables without a trailing consonant: every twenty-eighth one. -/
def hangulOpen : CharSet :=
  .ofRanges ((List.range 399).map fun i => (0xac00 + 28 * i, 0xac00 + 28 * i))

def hangulClosed : CharSet := (CharSet.range 0xac00 0xd7a3).difference hangulOpen

def wordExtend : CharSet := clusterExtend.union (category "Mc")

def wordFormat : CharSet :=
  (category "Cf").difference
    ((wordExtend.union prependedConcatenationMark).union ⟨[(0x200b, 0x200b), (0x200d, 0x200d)]⟩)

def wordKatakana : CharSet := (script "Kana".toList).toggle (decodeRanges
  "12337 5 101 2 3 1 91 1 52851 1")

def wordHebrew : CharSet := (script "Hebr".toList).intersection (category "Lo")

/-- The scripts whose words stand side by side without blanks. -/
def unspacedLetters : CharSet :=
  (ideographic.union wordKatakana).union
    ((script "Hira".toList).union ((script "Thai".toList).union (script "Laoo".toList)))

def wordLetter : CharSet := (alphabetic.difference
    (unspacedLetters.union (wordExtend.union wordHebrew))).toggle (decodeRanges
  "706 4 12 6 6 2 5 7 1 1 1 17 602 3 1 1 43 1 104 1 283 1 2288 43 20 1 16 6 4 4 3 1 3 2 7 3 4 13
  12 1 1777 52 35 1 4 1 371 30 2 5 11 44 4 26 86 53 82 1 35936 15 9 2 103 2 597 5 1 10 10 5 97
  23 3 1 3 50 1 1 3 2 2 5 2 1 1 1 24 3 125 1 27556 27 37 7")

def wordNumeric : CharSet := ((category "Nd").union prependedConcatenationMark).toggle (decodeRanges
  "1643 1 163 1 4810 1")

def wordJoiner : CharSet := (category "Pc").toggle (decodeRanges
  "8239 1")

def wordMidLetter : CharSet := decodeRanges
  "58 1 124 1 719 1 471 1 148 1 6706 1 56811 1 65 1 196 1"

def wordMidNumber : CharSet := decodeRanges
  "44 1 14 1 834 1 522 1 130 2 94 1 395 1 6219 1 56843 1 3 1 183 1 14 1"

def wordMidEither : CharSet := decodeRanges
  "46 1 8169 2 10 1 56877 1 180 1 6 1"

def wordNewline : CharSet :=
  ⟨[(0xb, 0xc), (0x85, 0x85), (0x2028, 0x2029)]⟩

def wordSpace : CharSet := (category "Zs").toggle (decodeRanges
  "160 1 8038 1 39 1")

def sentenceExtend : CharSet := graphemeExtend.union ((category "Mc").union zeroWidthJoiner)

def sentenceFormat : CharSet := ((category "Cf").difference
    (sentenceExtend.union prependedConcatenationMark)).toggle (decodeRanges
  "1807 1")

def sentenceSeparator : CharSet :=
  ⟨[(0x85, 0x85), (0x2028, 0x2029)]⟩

def sentenceSpace : CharSet :=
  whiteSpace.difference (sentenceSeparator.union (carriageReturn.union lineFeed))

def sentenceLower : CharSet := (lowercase.difference graphemeExtend).toggle (decodeRanges
  "4304 43 2 3")

def sentenceUpper : CharSet := (uppercase.union (category "Lt")).toggle (decodeRanges
  "7312 43 2 3")

def sentenceLetter : CharSet := (alphabetic.difference
    ((sentenceLower.union sentenceUpper).union sentenceExtend)).toggle (decodeRanges
  "1523 1")

def sentenceNumeric : CharSet := wordNumeric.toggle (decodeRanges
  "1644 1")

def sentencePoint : CharSet :=
  ⟨[(0x2e, 0x2e), (0x2024, 0x2024), (0xfe52, 0xfe52), (0xff0e, 0xff0e)]⟩

def sentenceEnd : CharSet := sentenceTerminal.difference sentencePoint

def sentenceClose : CharSet := ((((category "Ps").union (category "Pe")).union
    ((category "Pi").union (category "Pf"))).union quotationMark).toggle (decodeRanges
  "10075 6 1695 2 4 3 2 1 53494 1 4 1 63342 3")

def sentenceContinue : CharSet := decodeRanges
  "44 2 12 2 834 1 478 1 174 2 490 1 4105 1 5 1 2058 2 4076 1 52750 2 1 2 28 2 29 2 2 2 2 1 10 1
  168 2 12 2 72 1"

def graphemeBreakValues : List (List String × CharSet) :=
  [(["cr"], carriageReturn),
    (["cn", "control"], clusterControl),
    (["ex", "extend"], clusterExtend),
    (["l"], hangulLeading),
    (["lf"], lineFeed),
    (["lv"], hangulOpen),
    (["lvt"], hangulClosed),
    (["pp", "prepend"], clusterPrepend),
    (["ri", "regionalindicator"], regionalIndicator),
    (["sm", "spacingmark"], clusterSpacingMark),
    (["t"], hangulTrailing),
    (["v"], hangulVowel),
    (["zwj"], zeroWidthJoiner)]

def wordBreakValues : List (List String × CharSet) :=
  [(["le", "aletter"], wordLetter),
    (["cr"], carriageReturn),
    (["dq", "doublequote"], .single 0x22),
    (["extend"], wordExtend),
    (["ex", "extendnumlet"], wordJoiner),
    (["fo", "format"], wordFormat),
    (["hl", "hebrewletter"], wordHebrew),
    (["ka", "katakana"], wordKatakana),
    (["lf"], lineFeed),
    (["ml", "midletter"], wordMidLetter),
    (["mn", "midnum"], wordMidNumber),
    (["mb", "midnumlet"], wordMidEither),
    (["nl", "newline"], wordNewline),
    (["nu", "numeric"], wordNumeric),
    (["ri", "regionalindicator"], regionalIndicator),
    (["sq", "singlequote"], .single 0x27),
    (["wsegspace"], wordSpace),
    (["zwj"], zeroWidthJoiner)]

def sentenceBreakValues : List (List String × CharSet) :=
  [(["at", "aterm"], sentencePoint),
    (["cr"], carriageReturn),
    (["cl", "close"], sentenceClose),
    (["ex", "extend"], sentenceExtend),
    (["fo", "format"], sentenceFormat),
    (["lf"], lineFeed),
    (["lo", "lower"], sentenceLower),
    (["nu", "numeric"], sentenceNumeric),
    (["le", "oletter"], sentenceLetter),
    (["sc", "scontinue"], sentenceContinue),
    (["st", "sterm"], sentenceEnd),
    (["se", "sep"], sentenceSeparator),
    (["sp"], sentenceSpace),
    (["up", "upper"], sentenceUpper)]

def breakValue? (values : List (List String × CharSet)) (name : List Char) : Option CharSet :=
  (values.find? fun (names, _) => names.any (·.toList == name)).map (·.2)

end RuleBook.Unicode
