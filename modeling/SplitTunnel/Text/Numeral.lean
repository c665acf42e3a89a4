namespace SplitTunnel.Text

/-!
# Decimal numerals

A numeral is a non-empty run of ASCII digits.  It may start with zeros and its
value is a natural number without limit.
-/

/-- Whether a text is a non-empty run of ASCII digits. -/
def isNumeral (text : List Char) : Bool :=
  !text.isEmpty && text.all Char.isDigit

/-- The number that a run of digits writes. -/
def numeralValue (digits : List Char) : Nat :=
  Nat.ofDigitChars 10 digits 0

/-- The shortest numeral of a number. -/
def numeral (value : Nat) : List Char :=
  Nat.toDigits 10 value

/-- The value of a hexadecimal digit in either case. -/
def hexDigit? (c : Char) : Option Nat :=
  if '0' ≤ c ∧ c ≤ '9' then
    some (c.toNat - '0'.toNat)
  else if 'a' ≤ c ∧ c ≤ 'f' then
    some (c.toNat - 'a'.toNat + 10)
  else if 'A' ≤ c ∧ c ≤ 'F' then
    some (c.toNat - 'A'.toNat + 10)
  else
    none

/-- The digits of a number are a numeral. -/
theorem isNumeral_numeral (value : Nat) : isNumeral (numeral value) = true := by
  have notEmpty : numeral value ≠ [] := Nat.toDigits_ne_nil
  have allDigits : ∀ digit ∈ numeral value, digit.isDigit = true :=
    fun _ member => Nat.isDigit_of_mem_toDigits (by decide) (by decide) member
  simpa [isNumeral, List.all_eq_true, notEmpty] using allDigits

/-- Reading the digits of a number gives the number back. -/
theorem numeralValue_numeral (value : Nat) : numeralValue (numeral value) = value :=
  Nat.ofDigitChars_ten_toDigits

end SplitTunnel.Text
