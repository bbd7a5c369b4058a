import RuleBook.Number.Exact

/-!
# Decimal texts of doubles

A decimal is a whole coefficient times a power of ten.  This file reads decimals
as the nearest double and finds, for a double, the decimal with the fewest digits
that reads back as it.  Printing chooses a layout for that decimal; which layout
is used for which range, and which way a tie between two shortest decimals goes,
is a `DecimalStyle`.
-/

namespace RuleBook

structure Decimal where
  coefficient : Nat
  exponent : Int
  deriving Repr, DecidableEq

namespace Decimal

def numerator (d : Decimal) : Nat := d.coefficient * Nat.pow 10 d.exponent.toNat

def denominator (d : Decimal) : Nat := Nat.pow 10 (-d.exponent).toNat

/-- The bits of the nearest double.  Beyond `10 ^ 400` every decimal is infinite and
below `2 ^ -1080` every decimal is zero, which keeps the powers small. -/
def nearestBits (d : Decimal) : Nat :=
  if d.coefficient = 0 then 0
  else if 400 < d.exponent then Number.infinityBits
  else if (d.coefficient.log2 : Int) + 1080 < -3 * d.exponent then 0
  else Number.nearestBits d.numerator d.denominator

def toFloat (negative : Bool) (d : Decimal) : Float :=
  Number.ofSignAndBits negative d.nearestBits

def takeSign : List Char → Bool × List Char
  | '-' :: rest => (true, rest)
  | '+' :: rest => (false, rest)
  | rest => (false, rest)

def readExponent? : List Char → Option Int
  | [] => some 0
  | mark :: text =>
      if mark = 'e' ∨ mark = 'E' then
        let (negative, digits) := takeSign text
        if digits ≠ [] ∧ digits.all Char.isDigit then
          let magnitude : Int := Nat.ofDigitChars 10 digits 0
          some (if negative then -magnitude else magnitude)
        else none
      else none

def ofText? (text : List Char) : Option Decimal :=
  let (whole, rest) := text.span Char.isDigit
  let (fraction, rest) :=
    match rest with
    | '.' :: rest => rest.span Char.isDigit
    | rest => ([], rest)
  if whole = [] ∧ fraction = [] then none
  else
    (readExponent? rest).map fun exponent =>
      ⟨Nat.ofDigitChars 10 (whole ++ fraction) 0, exponent - fraction.length⟩

def decimalExponent (numerator denominator : Nat) : Int :=
  let estimate := Number.binaryExponent numerator denominator * 30103 / 100000
  let reaches (k : Int) : Bool :=
    denominator * Nat.pow 10 k.toNat ≤ numerator * Nat.pow 10 (-k).toNat
  if reaches (estimate + 1) then estimate + 1
  else if reaches estimate then estimate
  else estimate - 1

inductive Tie where
  | up
  | even
  deriving Repr, DecidableEq

/-- `coefficient` tenths of the grid with `digits` digits, written without a
trailing zero when it has run over to the next power of ten. -/
def gridPoint (digits : Nat) (coefficient : Nat) (exponent : Int) : Decimal :=
  if coefficient = Nat.pow 10 digits then ⟨1, exponent + digits⟩ else ⟨coefficient, exponent⟩

def neighbours (tie : Tie) (numerator denominator digits : Nat) : List Decimal :=
  let exponent := decimalExponent numerator denominator + 1 - (digits : Int)
  let scaledNumerator := numerator * Nat.pow 10 (-exponent).toNat
  let scaledDenominator := denominator * Nat.pow 10 exponent.toNat
  let floor := scaledNumerator / scaledDenominator
  let twice := 2 * (scaledNumerator % scaledDenominator)
  let lower := gridPoint digits floor exponent
  let upper := gridPoint digits (floor + 1) exponent
  let upperFirst :=
    scaledDenominator < twice ∨
      (twice = scaledDenominator ∧ (tie = .up ∨ floor % 2 = 1))
  if upperFirst then [upper, lower] else [lower, upper]

def exact (m : Number.Magnitude) : Decimal :=
  if 0 ≤ m.exponent then ⟨m.numerator, 0⟩
  else ⟨m.coefficient * Nat.pow 5 (-m.exponent).toNat, m.exponent⟩

/-- The decimal with the fewest digits that reads back as the given bits, the
nearest one among those.  Seventeen digits always suffice. -/
def shortest (tie : Tie) (bits : Nat) : Decimal :=
  let m := Number.Magnitude.ofBits bits
  if bits = 0 then ⟨0, 0⟩
  else
    ((List.range 17).findSome? fun fewer =>
      (neighbours tie m.numerator m.denominator (fewer + 1)).find?
        (·.nearestBits == bits)).getD (exact m)

def plainText (d : Decimal) : List Char :=
  let digits := Nat.toDigits 10 d.coefficient
  if 0 ≤ d.exponent then digits ++ List.replicate d.exponent.toNat '0'
  else
    let places := (-d.exponent).toNat
    let padded := List.replicate (places + 1 - digits.length) '0' ++ digits
    padded.take (padded.length - places) ++ '.' :: padded.drop (padded.length - places)

def scientificText (d : Decimal) : List Char :=
  let digits := Nat.toDigits 10 d.coefficient
  let exponent := d.exponent + (digits.length : Int) - 1
  let mantissa :=
    match digits with
    | first :: second :: rest => first :: '.' :: second :: rest
    | short => short
  mantissa ++ 'e' :: (if exponent < 0 then '-' else '+') :: Nat.toDigits 10 exponent.natAbs

end Decimal

structure DecimalStyle where
  tie : Decimal.Tie
  /-- The exponents of the first digit that are written without an exponent; all when
  absent. -/
  plainRange : Option (Int × Int)
  /-- Whether a plain whole number ends in `.0`. -/
  keepsPoint : Bool
  deriving Repr, DecidableEq

namespace DecimalStyle

def isPlain (style : DecimalStyle) (d : Decimal) : Bool :=
  match style.plainRange with
  | none => true
  | some (least, greatest) =>
      let exponent := d.exponent + ((Nat.toDigits 10 d.coefficient).length : Int) - 1
      least ≤ exponent ∧ exponent ≤ greatest

def decimalText (style : DecimalStyle) (d : Decimal) : List Char :=
  if style.isPlain d then
    if style.keepsPoint ∧ 0 ≤ d.exponent then d.plainText ++ ['.', '0'] else d.plainText
  else d.scientificText

/-- The text of a finite double; negative zero keeps its sign. -/
def text (style : DecimalStyle) (x : Float) : List Char :=
  let digits := style.decimalText (.shortest style.tie (Number.magnitudeBits x))
  if Number.isNegative x then '-' :: digits else digits

end DecimalStyle

namespace Number

/-- Reads a decimal, or `inf`, `infinity` or `nan` in any case, after an optional
sign. -/
def ofText? (text : List Char) : Option Float :=
  let (negative, text) := Decimal.takeSign text
  let word := text.map Char.toLower
  if word = ['i', 'n', 'f'] ∨ word = ['i', 'n', 'f', 'i', 'n', 'i', 't', 'y'] then
    some (infinity negative)
  else if word = ['n', 'a', 'n'] then some nan
  else (Decimal.ofText? text).map (·.toFloat negative)

end Number

end RuleBook
