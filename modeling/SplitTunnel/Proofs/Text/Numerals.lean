import Mathlib
import SplitTunnel.Text.Blank
import SplitTunnel.Text.Numeral

namespace SplitTunnel.Text

/-!
# Runs of digits

A numeral is a run of digits that is not empty.  It is cut off as a whole from
what follows it, as far as that begins with no digit.  The shortest numeral of its
value is what remains of it without the zeros in front.
-/

theorem isNumeral_iff
    {text : List Char} :
    isNumeral text = true ↔ text ≠ [] ∧ ∀ c ∈ text, c.isDigit = true := by
  cases text <;> simp [isNumeral]

/-- The digits before a character that is no digit are cut off as a whole. -/
theorem takeWhile_numeral
    {digits : List Char}
    (areDigits : ∀ c ∈ digits, c.isDigit = true)
    {c : Char}
    (notDigit : c.isDigit = false)
    (rest : List Char) :
    (digits ++ c :: rest).takeWhile Char.isDigit = digits := by
  rw [List.takeWhile_append_of_pos areDigits, List.takeWhile_cons, notDigit]
  exact List.append_nil _

theorem dropWhile_numeral
    {digits : List Char}
    (areDigits : ∀ c ∈ digits, c.isDigit = true)
    {c : Char}
    (notDigit : c.isDigit = false)
    (rest : List Char) :
    (digits ++ c :: rest).dropWhile Char.isDigit = c :: rest := by
  rw [List.dropWhile_append_of_pos areDigits, List.dropWhile_cons, notDigit]
  rfl

/-- A numeral begins with a digit. -/
theorem exists_numeral
    {digits : List Char}
    (isNumber : isNumeral digits = true) :
    ∃ first rest, digits = first :: rest ∧ first.isDigit = true := by
  obtain ⟨notEmpty, areDigits⟩ := isNumeral_iff.mp isNumber
  obtain ⟨first, rest, rfl⟩ := List.exists_cons_of_ne_nil notEmpty
  exact ⟨first, rest, rfl, areDigits first (List.mem_cons_self ..)⟩

/-- A digit is the character of a number below ten. -/
theorem exists_digitChar
    {c : Char}
    (isDigit : c.isDigit = true) :
    ∃ digit < 10, Nat.digitChar digit = c := by
  simp only [Char.isDigit, Bool.and_eq_true, decide_eq_true_iff] at isDigit
  have atLeast : 48 ≤ c.toNat := isDigit.1
  have atMost : c.toNat ≤ 57 := isDigit.2
  refine ⟨c.toNat - 48, by omega, Char.toNat_inj.mp ?_⟩
  rw [Nat.toNat_digitChar_of_lt_ten (by omega)]
  omega

/-- No digit is blank. -/
theorem isBlank_of_isDigit
    {c : Char}
    (isDigit : c.isDigit = true) :
    isBlank c = false := by
  have everyDigit : ∀ n < 10, isBlank (Nat.digitChar n) = false := by decide
  obtain ⟨digit, isSmall, rfl⟩ := exists_digitChar isDigit
  exact everyDigit digit isSmall

/-- A run of digits without the zeros in front, or a zero if there is nothing else. -/
def withoutLeadingZeros (digits : List Char) : List Char :=
  match digits.dropWhile (fun digit => digit == '0') with
  | [] => ['0']
  | shortened => shortened

/-- Digits that follow a number other than zero are the end of its numeral. -/
theorem numeral_ofDigitChars
    {digits : List Char}
    (areDigits : ∀ c ∈ digits, c.isDigit = true)
    {value : Nat}
    (isPositive : 0 < value) :
    numeral (Nat.ofDigitChars 10 digits value) = numeral value ++ digits := by
  induction digits generalizing value with
  | nil => rw [Nat.ofDigitChars_nil, List.append_nil]
  | cons c digits inductionHypothesis =>
      obtain ⟨digit, isSmall, rfl⟩ := exists_digitChar (areDigits c (List.mem_cons_self ..))
      have further :
          numeral (Nat.ofDigitChars 10 digits (10 * value + digit)) =
            numeral (10 * value + digit) ++ digits :=
        inductionHypothesis (fun other member => areDigits other (List.mem_cons_of_mem _ member))
          (by omega)
      have joined := Nat.toDigits_append_toDigits (by decide : 1 < 10) isPositive isSmall
      rw [Nat.toDigits_of_lt_base isSmall] at joined
      rw [Nat.ofDigitChars_cons_digitChar_of_lt_ten isSmall, further, numeral, numeral, ← joined,
        List.append_assoc]
      rfl

/-- The shortest numeral of a value is any of its numerals without the zeros in front. -/
theorem numeral_numeralValue
    {digits : List Char}
    (areDigits : ∀ c ∈ digits, c.isDigit = true) :
    numeral (numeralValue digits) = withoutLeadingZeros digits := by
  induction digits with
  | nil => rfl
  | cons c digits inductionHypothesis =>
      obtain ⟨digit, isSmall, rfl⟩ := exists_digitChar (areDigits c (List.mem_cons_self ..))
      have restAreDigits : ∀ c ∈ digits, c.isDigit = true :=
        fun other member => areDigits other (List.mem_cons_of_mem _ member)
      have isValue :
          numeralValue (Nat.digitChar digit :: digits) = Nat.ofDigitChars 10 digits digit := by
        rw [numeralValue, Nat.ofDigitChars_cons_digitChar_of_lt_ten isSmall, Nat.mul_zero,
          Nat.zero_add]
      rw [isValue]
      by_cases isZero : digit = 0
      · subst isZero
        exact inductionHypothesis restAreDigits
      · have notZero : (Nat.digitChar digit == '0') = false := by
          have everyDigit : ∀ n < 10, n ≠ 0 → (Nat.digitChar n == '0') = false := by decide
          exact everyDigit digit isSmall isZero
        rw [numeral_ofDigitChars restAreDigits (Nat.pos_of_ne_zero isZero), numeral,
          Nat.toDigits_of_lt_base isSmall, withoutLeadingZeros, List.dropWhile_cons, notZero]
        rfl

/-- Zeros in front do not change the value of a run of digits. -/
theorem numeralValue_withoutLeadingZeros
    {digits : List Char}
    (areDigits : ∀ c ∈ digits, c.isDigit = true) :
    numeralValue (withoutLeadingZeros digits) = numeralValue digits := by
  rw [← numeral_numeralValue areDigits, numeralValue_numeral]

end SplitTunnel.Text
