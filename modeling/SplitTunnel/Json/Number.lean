import SplitTunnel.Decimal.Layout
import SplitTunnel.Text.Numeral

namespace SplitTunnel.Json

/-!
# Numbers in JSON texts

A number is kept as it is spelled.  Its value is an integer if it is spelled
without a fraction and an exponent and fits 64 bits, signed or unsigned; any
other number, and minus zero, is a double.  That is not always the nearest one:
digits that no longer fit 64 bits are dropped, and what is left is scaled by a
rounded power of ten.
-/

/-- The spelling of a number; an absent fraction has no digits. -/
structure NumberText where
  negative : Bool
  whole : List Char
  fraction : List Char
  exponent? : Option (Bool × List Char)
  deriving Repr, DecidableEq

/-- The value of a number, with the sign of a double apart. -/
inductive Number where
  | integer (value : Int)
  | double (negative : Bool) (magnitude : Decimal.Binary64)
  deriving Repr, DecidableEq

namespace NumberText

/-- The spelling of a natural number. -/
def ofNat (value : Nat) : NumberText where
  negative := false
  whole := Text.numeral value
  fraction := []
  exponent? := none

/-- The spelling of an integer. -/
def ofInt (value : Int) : NumberText where
  negative := value < 0
  whole := Text.numeral value.natAbs
  fraction := []
  exponent? := none

/-- The characters of an exponent. -/
def exponentChars : Option (Bool × List Char) → List Char
  | none => []
  | some (negative, digits) => 'e' :: Decimal.signed negative digits

/-- The characters of a number. -/
def toChars (number : NumberText) : List Char :=
  let fraction :=
    match number.fraction with
    | [] => []
    | digits => '.' :: digits
  Decimal.signed number.negative (number.whole ++ fraction ++ exponentChars number.exponent?)

/-- Whether a number is spelled without a fraction and an exponent. -/
def isWhole (number : NumberText) : Bool :=
  number.fraction.isEmpty && number.exponent?.isNone

/-- The integer of a number spelled as one, if it fits 64 bits. -/
def integer? (number : NumberText) : Option Int :=
  let magnitude := Text.numeralValue number.whole
  if number.isWhole then
    if number.negative then
      if 0 < magnitude ∧ magnitude ≤ Nat.pow 2 63 then
        some (-Int.ofNat magnitude)
      else
        none
    else if magnitude < Nat.pow 2 64 then
      some (Int.ofNat magnitude)
    else
      none
  else
    none

/-- Take digits to a significand as long as it fits 64 bits, and count them. -/
def gather (significand : Nat) : List Char → Nat × Nat
  | [] => (significand, 0)
  | digit :: rest =>
      let more := significand * 10 + (digit.toNat - '0'.toNat)
      if more < Nat.pow 2 64 then
        let (final, taken) := gather more rest
        (final, taken + 1)
      else
        (significand, 0)

/-- The largest exponent that is computed with. -/
def exponentLimit : Nat :=
  Nat.pow 2 31 - 1

/--
The double of a number, without its sign, unless it is beyond all doubles.

Digits of the whole part that were dropped count as zeros, and those of the
fraction do not count.
-/
def double? (number : NumberText) : Option Decimal.Binary64 :=
  let (whole, wholeTaken) := gather 0 number.whole
  let (significand, fractionTaken) := gather whole number.fraction
  let shift : Int := Int.ofNat (number.whole.length - wholeTaken) - Int.ofNat fractionTaken
  match number.exponent? with
  | none =>
      Decimal.Binary64.ofParts? significand shift
  | some (negative, digits) =>
      let exponent := Text.numeralValue digits
      if exponentLimit < exponent then
        if negative ∨ significand = 0 then some .zero else none
      else if negative then
        Decimal.Binary64.ofParts? significand (shift - exponent)
      else
        Decimal.Binary64.ofParts? significand (shift + exponent)

/-- The value of a number, unless it is beyond all doubles. -/
def value? (number : NumberText) : Option Number :=
  match number.integer? with
  | some value =>
      some (.integer value)
  | none =>
      number.double?.map (Number.double number.negative)

end NumberText

/-- The text in full of a number, without an exponent. -/
def Number.fullText : Number → List Char
  | .integer value => (toString value).toList
  | .double negative magnitude => magnitude.fullText negative

end SplitTunnel.Json
