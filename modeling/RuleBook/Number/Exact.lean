/-!
# Doubles as exact numbers

A finite double is a whole coefficient times a power of two.  This file takes
doubles apart into that form, rounds exact quotients back to the nearest double,
and defines order, truncation and remainder on the exact values, so that none of
them depends on what the processor does.
-/

namespace RuleBook.Number

def infinityBits : Nat := 0x7ff0000000000000

def magnitudeBits (x : Float) : Nat := x.toBits.toNat % Nat.pow 2 63

def isNegative (x : Float) : Bool := Nat.pow 2 63 ≤ x.toBits.toNat

def isNaN (x : Float) : Bool := infinityBits < magnitudeBits x

def isFinite (x : Float) : Bool := magnitudeBits x < infinityBits

def ofSignAndBits (negative : Bool) (bits : Nat) : Float :=
  Float.ofBits (UInt64.ofNat (if negative then Nat.pow 2 63 + bits else bits))

def infinity (negative : Bool) : Float := ofSignAndBits negative infinityBits

def nan : Float := Float.ofBits 0x7ff8000000000000

/-- Doubles other than NaN are ordered as these integers, which give both zeros
the same place. -/
def orderKey (x : Float) : Int :=
  if isNegative x then -(magnitudeBits x : Int) else magnitudeBits x

def compare? (x y : Float) : Option Ordering :=
  if isNaN x || isNaN y then none else some (compare (orderKey x) (orderKey y))

/-- Equality of values: zeros of either sign are equal and NaN equals nothing. -/
def equal (x y : Float) : Bool :=
  !isNaN x && !isNaN y && orderKey x == orderKey y

def roundQuotient (numerator denominator : Nat) : Nat :=
  let floor := numerator / denominator
  let twice := 2 * (numerator % denominator)
  if twice < denominator then floor
  else if denominator < twice then floor + 1
  else floor + floor % 2

def binaryExponent (numerator denominator : Nat) : Int :=
  let estimate : Int := (numerator.log2 : Int) - (denominator.log2 : Int)
  if denominator * Nat.pow 2 estimate.toNat ≤ numerator * Nat.pow 2 (-estimate).toNat then estimate
  else estimate - 1

/-- The bits of the nonnegative double nearest to the quotient.  The coefficient has
53 bits unless the exponent is at its least, and a carry out of the coefficient
moves into the exponent field by itself. -/
def nearestBits (numerator denominator : Nat) : Nat :=
  if numerator = 0 then 0
  else
    let exponent := max (binaryExponent numerator denominator - 52) (-1074)
    let coefficient :=
      roundQuotient (numerator * Nat.pow 2 (-exponent).toNat)
        (denominator * Nat.pow 2 exponent.toNat)
    min (coefficient + (exponent + 1074).toNat * Nat.pow 2 52) infinityBits

def nearest (negative : Bool) (numerator denominator : Nat) : Float :=
  ofSignAndBits negative (nearestBits numerator denominator)

def ofInt (n : Int) : Float := nearest (n < 0) n.natAbs 1

structure Magnitude where
  coefficient : Nat
  exponent : Int
  deriving Repr, DecidableEq

namespace Magnitude

def ofBits (bits : Nat) : Magnitude :=
  if bits < Nat.pow 2 52 then ⟨bits, -1074⟩
  else ⟨Nat.pow 2 52 + bits % Nat.pow 2 52, (bits / Nat.pow 2 52 : Nat) - 1075⟩

def numerator (m : Magnitude) : Nat := m.coefficient * Nat.pow 2 m.exponent.toNat

def denominator (m : Magnitude) : Nat := Nat.pow 2 (-m.exponent).toNat

end Magnitude

def magnitude (x : Float) : Magnitude := .ofBits (magnitudeBits x)

def isWhole (x : Float) : Bool :=
  isFinite x && (magnitude x).numerator % (magnitude x).denominator == 0

def maxInt64 : Int := Nat.pow 2 63 - 1

def minInt64 : Int := -Nat.pow 2 63

def toInt64 (x : Float) : Int :=
  if isNaN x then 0
  else if isFinite x then
    let whole : Nat := (magnitude x).numerator / (magnitude x).denominator
    if isNegative x then max (-(whole : Int)) minInt64 else min (whole : Int) maxInt64
  else if isNegative x then minInt64 else maxInt64

def toUInt64 (x : Float) : Nat :=
  if isNaN x || isNegative x then 0
  else if isFinite x then
    min ((magnitude x).numerator / (magnitude x).denominator) (Nat.pow 2 64 - 1)
  else Nat.pow 2 64 - 1

/-- The remainder of the quotient cut toward zero.  It is exact and takes the sign of
the dividend. -/
def remainder (x y : Float) : Float :=
  if isNaN x || isNaN y || !isFinite x || magnitudeBits y = 0 then nan
  else if !isFinite y then x
  else
    let a := magnitude x
    let b := magnitude y
    let exponent := min a.exponent b.exponent
    let coefficient :=
      (a.coefficient * Nat.pow 2 (a.exponent - exponent).toNat) %
        (b.coefficient * Nat.pow 2 (b.exponent - exponent).toNat)
    let rest : Magnitude := ⟨coefficient, exponent⟩
    nearest (isNegative x) rest.numerator rest.denominator

end RuleBook.Number
