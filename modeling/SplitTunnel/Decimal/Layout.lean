import SplitTunnel.Decimal.Shortest

namespace SplitTunnel.Decimal

/-!
# Layouts of a double

A double that stands for a rule text is written in full, without an exponent
and without a fraction that is zero.  A double that is shown in a fault always
has a point or an exponent.
-/

namespace Digits

/-- A run of zeros. -/
def zeros (count : Int) : List Char :=
  List.replicate count.toNat '0'

/-- Digits in full, with a point only before a fraction. -/
def positional (written : Digits) : List Char :=
  let size : Int := written.digits.length
  if written.digits = [] then
    ['0']
  else if written.point ≤ 0 then
    '0' :: '.' :: (zeros (-written.point) ++ written.digits)
  else if size ≤ written.point then
    written.digits ++ zeros (written.point - size)
  else
    written.digits.take written.point.toNat ++
      '.' :: written.digits.drop written.point.toNat

/-- The text of an exponent, which always has a sign. -/
def exponentText (exponent : Int) : List Char :=
  if exponent < 0 then
    '-' :: Nat.toDigits 10 exponent.natAbs
  else
    '+' :: Nat.toDigits 10 exponent.natAbs

/-- Digits with one digit before the point and an exponent. -/
def scientific (written : Digits) : List Char :=
  let exponent := 'e' :: exponentText (written.point - 1)
  match written.digits with
  | [] =>
      '0' :: exponent
  | [digit] =>
      digit :: exponent
  | digit :: fraction =>
      digit :: '.' :: (fraction ++ exponent)

/--
Digits with a point or an exponent: in full from five places after the point to
sixteen before it, with `.0` after a whole number, else with an exponent.
-/
def pointed (written : Digits) : List Char :=
  let size : Int := written.digits.length
  if written.digits = [] then
    ['0', '.', '0']
  else if -5 < written.point ∧ written.point ≤ 16 then
    if size ≤ written.point then
      written.positional ++ ['.', '0']
    else
      written.positional
  else
    written.scientific

end Digits

/-- Put the sign before the text of a number. -/
def signed (negative : Bool) (text : List Char) : List Char :=
  if negative then
    '-' :: text
  else
    text

/-- The text in full of a double. -/
def Binary64.fullText (negative : Bool) (double : Binary64) : List Char :=
  signed negative (Digits.shortest .up double).positional

/-- The text of a double in a fault. -/
def Binary64.faultText (negative : Bool) (double : Binary64) : List Char :=
  signed negative (Digits.shortest .even double).pointed

end SplitTunnel.Decimal
