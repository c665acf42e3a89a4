import SplitTunnel.Decimal.Binary64

namespace SplitTunnel.Decimal

/-!
# The fewest digits that read back

A double is written with the fewest significant digits that are read as the same
double, and among those texts with the one nearest to it.  For one digit, two
digits and so on, the two multiples of a power of ten around the double are
tried: if any multiple lies among the numbers that are rounded to the double,
one of these two does.
-/

/-- Which neighbour a double in the middle between two goes to. -/
inductive Tie where
  | up
  | even
  deriving Repr, DecidableEq

/-- A double in units of a power of ten, as `size * unit` with four units to a mantissa step. -/
structure Grid where
  mantissa : Nat
  quarter : Quotient
  isNarrowBelow : Bool
  deriving Repr, DecidableEq

namespace Grid

/-- The grid of the multiples of `10 ^ power` around a double. -/
def ofBinary64 (double : Binary64) (power : Int) : Grid where
  mantissa := double.mantissa
  quarter := ((Quotient.mk 1 1).scale 2 (double.exponent - 2)).scale 10 (-power)
  isNarrowBelow :=
    double.mantissa = Binary64.mantissaLimit / 2 &&
      Binary64.smallestExponent < double.exponent

/-- Whether a multiple is rounded to the double; the ends belong to even mantissas. -/
def readsBack (grid : Grid) (multiple : Nat) : Bool :=
  let value := multiple * grid.quarter.denominator
  let lowest :=
    (4 * grid.mantissa - if grid.isNarrowBelow then 1 else 2) * grid.quarter.numerator
  let highest := (4 * grid.mantissa + 2) * grid.quarter.numerator
  if grid.mantissa % 2 = 0 then
    lowest ≤ value && value ≤ highest
  else
    lowest < value && value < highest

/-- The multiple that writes the double, if one of its two neighbours does. -/
def multiple? (grid : Grid) (tie : Tie) : Option Nat :=
  let value := 4 * grid.mantissa * grid.quarter.numerator
  let below := value / grid.quarter.denominator
  let nearer :=
    match compare (2 * value) ((2 * below + 1) * grid.quarter.denominator) with
    | .lt => below
    | .gt => below + 1
    | .eq =>
        match tie with
        | .up => below + 1
        | .even => below + below % 2
  let farther := if nearer = below then below + 1 else below
  if nearer ≠ 0 ∧ grid.readsBack nearer then
    some nearer
  else if farther ≠ 0 ∧ grid.readsBack farther then
    some farther
  else
    none

end Grid

/-- Significant digits with the place of the point: `0.digits * 10 ^ point`. -/
structure Digits where
  digits : List Char
  point : Int
  deriving Repr, DecidableEq

namespace Digits

/-- The digits of a decimal that is not zero, without zeros at their end. -/
def ofDecimal (decimal : Decimal) : Digits :=
  let digits := Nat.toDigits 10 decimal.significand
  { digits := (digits.reverse.dropWhile fun digit => digit == '0').reverse
    point := decimal.exponent + digits.length }

/-- The shortest digits of a double; zero has none. -/
def shortest (tie : Tie) (double : Binary64) : Digits :=
  let order := ((Quotient.mk double.mantissa 1).scale 2 double.exponent).decimalOrder
  let decimal? :=
    if double.mantissa = 0 then
      none
    else
      (List.range 17).findSome? fun further =>
        let power := order - 1 - Int.ofNat further
        ((Grid.ofBinary64 double power).multiple? tie).map fun multiple =>
          Decimal.mk multiple power
  match decimal? with
  | some decimal =>
      ofDecimal decimal
  | none =>
      { digits := [], point := 0 }

end Digits

end SplitTunnel.Decimal
