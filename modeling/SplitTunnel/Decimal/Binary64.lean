namespace SplitTunnel

/-!
# Decimal fractions and doubles

A number with a fraction, with an exponent, or beyond 64 bits is kept as a double,
a number `mantissa * 2 ^ exponent` with a mantissa of at most 53 bits.  There are
two ways to it: the nearest double, and the faster one by which a rounded
significand is multiplied with a rounded power of ten or divided by it.  Each
rounding is that of an exact quotient of natural numbers.  Signs are kept apart,
so the numbers here are not negative.
-/

/-- The number `significand * 10 ^ exponent`. -/
structure Decimal where
  significand : Nat
  exponent : Int
  deriving Repr, DecidableEq

namespace Decimal

/-- The double `mantissa * 2 ^ exponent`. -/
structure Binary64 where
  mantissa : Nat
  exponent : Int
  deriving Repr, DecidableEq

/-- A quotient of natural numbers. -/
structure Quotient where
  numerator : Nat
  denominator : Nat
  deriving Repr, DecidableEq

namespace Quotient

/-- Multiply a quotient by a power of a base. -/
def scale (quotient : Quotient) (base : Nat) (power : Int) : Quotient :=
  if 0 ≤ power then
    { numerator := quotient.numerator * Nat.pow base power.natAbs
      denominator := quotient.denominator }
  else
    { numerator := quotient.numerator
      denominator := quotient.denominator * Nat.pow base power.natAbs }

/-- The largest whole number that is not above a quotient. -/
def floor (quotient : Quotient) : Nat :=
  quotient.numerator / quotient.denominator

/-- The whole number nearest to a quotient; a half goes to the even neighbour. -/
def roundHalfEven (quotient : Quotient) : Nat :=
  let twiceRest := 2 * (quotient.numerator % quotient.denominator)
  if twiceRest < quotient.denominator then
    quotient.floor
  else if quotient.denominator < twiceRest then
    quotient.floor + 1
  else
    quotient.floor + quotient.floor % 2

/-- The power of two below a quotient that is not zero. -/
def binaryOrder (quotient : Quotient) : Int :=
  let estimate : Int := quotient.numerator.log2 - quotient.denominator.log2
  let scaled := quotient.scale 2 (-estimate)
  if scaled.numerator < scaled.denominator then
    estimate - 1
  else
    estimate

/-- The number of decimal digits before the point of a quotient that is not zero. -/
def decimalOrder (quotient : Quotient) : Int :=
  let estimate : Int :=
    (Nat.toDigits 10 quotient.numerator).length -
      (Nat.toDigits 10 quotient.denominator).length
  let scaled := quotient.scale 10 (-estimate)
  if scaled.numerator < scaled.denominator then
    estimate
  else
    estimate + 1

end Quotient

namespace Binary64

/-- The smallest exponent of a double. -/
def smallestExponent : Int :=
  -1074

/-- The largest exponent of a double. -/
def largestExponent : Int :=
  971

/-- The mantissas from which on a further bit is needed. -/
def mantissaLimit : Nat :=
  Nat.pow 2 53

/-- The double zero. -/
def zero : Binary64 where
  mantissa := 0
  exponent := smallestExponent

/-- The double nearest to a quotient that is not zero, unless it is beyond all doubles. -/
def nearest? (quotient : Quotient) : Option Binary64 :=
  let exponent := max smallestExponent (quotient.binaryOrder - 52)
  let mantissa := (quotient.scale 2 (-exponent)).roundHalfEven
  let double : Binary64 :=
    if mantissa = mantissaLimit then
      { mantissa := mantissaLimit / 2, exponent := exponent + 1 }
    else
      { mantissa := mantissa, exponent := exponent }
  if double.exponent ≤ largestExponent then
    some double
  else
    none

/-- The double nearest to a quotient, unless it is beyond all doubles. -/
def round? (quotient : Quotient) : Option Binary64 :=
  if quotient.numerator = 0 then
    some .zero
  else
    nearest? quotient

/-- The rounded product of doubles, unless it is beyond all doubles. -/
def times? (first second : Binary64) : Option Binary64 :=
  round? ((Quotient.mk (first.mantissa * second.mantissa) 1).scale 2
    (first.exponent + second.exponent))

/-- The rounded quotient of doubles, unless it is beyond all doubles. -/
def over? (dividend divisor : Binary64) : Option Binary64 :=
  round? ((Quotient.mk dividend.mantissa divisor.mantissa).scale 2
    (dividend.exponent - divisor.exponent))

/-- The largest power of ten that is rounded to a double. -/
def largestPower : Nat :=
  308

/-- A power of ten as a double. -/
def powerOfTen? (power : Nat) : Option Binary64 :=
  round? { numerator := Nat.pow 10 power, denominator := 1 }

/-- Divide by the largest power of ten so many times, or until nothing is left. -/
def shrink? (double : Binary64) : Nat → Option Binary64
  | 0 =>
      some double
  | rounds + 1 =>
      if double.mantissa = 0 then
        some double
      else
        ((powerOfTen? largestPower).bind double.over?).bind fun next => next.shrink? rounds

/-- The double for `significand * 10 ^ exponent` by way of a rounded power of ten. -/
def ofParts? (significand : Nat) (exponent : Int) : Option Binary64 :=
  (round? { numerator := significand, denominator := 1 }).bind fun double =>
    if 0 ≤ exponent then
      if significand = 0 then
        some double
      else if largestPower < exponent then
        none
      else
        (powerOfTen? exponent.natAbs).bind double.times?
    else
      -- What is left for the last division is a power that is a double, and not the first.
      let rounds := (exponent.natAbs - 1) / largestPower
      (double.shrink? rounds).bind fun left =>
        (powerOfTen? (exponent.natAbs - rounds * largestPower)).bind left.over?

end Binary64

/--
The double nearest to a decimal, unless it is beyond all doubles.

Decimals far outside the doubles are recognized by their order of magnitude, so
that no power with a huge exponent is computed.
-/
def toBinary64? (decimal : Decimal) : Option Binary64 :=
  let order := decimal.exponent + (Nat.toDigits 10 decimal.significand).length
  if decimal.significand = 0 ∨ order < -400 then
    some .zero
  else if 400 < order then
    none
  else
    Binary64.nearest? ((Quotient.mk decimal.significand 1).scale 10 decimal.exponent)

end Decimal

end SplitTunnel
