import Mathlib
import SplitTunnel.Json.Number

namespace SplitTunnel

/-!
# Rounded numbers

Each single rounding gives a double that is at most half a unit of its last place
away from the quotient, and within the bounds of the format.  A number of a text
is rounded more than once, so it need not be the nearest double, but it is always
a double or an integer of 64 bits.
-/

namespace Decimal

namespace Quotient

variable {quotient : Quotient} {base : Nat}

/-- The rational number that a quotient stands for. -/
def value (quotient : Quotient) : ℚ :=
  quotient.numerator / quotient.denominator

theorem value_scale
    (quotient : Quotient)
    (base : Nat)
    (power : Int) :
    (quotient.scale base power).value = quotient.value * (base : ℚ) ^ power := by
  rw [scale]
  split
  · rename_i isNatural
    lift power to Nat using isNatural
    simp [value, mul_div_right_comm]
  · rename_i isNegative
    obtain ⟨size, rfl⟩ : ∃ size : Nat, power = -size := ⟨power.natAbs, by omega⟩
    simp [value, div_eq_mul_inv, mul_comm, mul_left_comm]

theorem scale_isProper
    (isBase : 0 < base)
    (isProper : 0 < quotient.denominator)
    (power : Int) :
    0 < (quotient.scale base power).denominator := by
  rw [scale]
  split
  · exact isProper
  · exact Nat.mul_pos isProper (Nat.pow_pos isBase)

/-- Rounding to a whole number goes at most half a unit up or down. -/
theorem roundHalfEven_bounds
    (isProper : 0 < quotient.denominator) :
    2 * quotient.numerator ≤ (2 * quotient.roundHalfEven + 1) * quotient.denominator ∧
      2 * quotient.roundHalfEven * quotient.denominator ≤
        2 * quotient.numerator + quotient.denominator := by
  have whole := Nat.div_add_mod quotient.numerator quotient.denominator
  have restLt := Nat.mod_lt quotient.numerator isProper
  rw [roundHalfEven, floor]
  generalize quotient.numerator / quotient.denominator = floor at whole ⊢
  generalize quotient.numerator % quotient.denominator = rest at whole restLt ⊢
  split
  · constructor <;> nlinarith
  · split
    · constructor <;> nlinarith
    · rcases Nat.mod_two_eq_zero_or_one floor with isEven | isOdd
      · rw [isEven]
        constructor <;> nlinarith
      · rw [isOdd]
        constructor <;> nlinarith

/-- Rounding to a whole number goes at most half a unit away. -/
theorem abs_value_sub_roundHalfEven
    (isProper : 0 < quotient.denominator) :
    |quotient.value - quotient.roundHalfEven| ≤ 1 / 2 := by
  have positive : (0 : ℚ) < quotient.denominator := by exact_mod_cast isProper
  obtain ⟨above, below⟩ := roundHalfEven_bounds isProper
  have above' :
      (2 * quotient.numerator : ℚ) ≤ (2 * quotient.roundHalfEven + 1) * quotient.denominator := by
    exact_mod_cast above
  have below' :
      (2 * quotient.roundHalfEven * quotient.denominator : ℚ) ≤
        2 * quotient.numerator + quotient.denominator := by
    exact_mod_cast below
  have scaled : quotient.value * quotient.denominator = quotient.numerator :=
    div_mul_cancel₀ _ positive.ne'
  rw [abs_le]
  constructor <;> nlinarith

theorem roundHalfEven_le
    {limit : Nat}
    (isProper : 0 < quotient.denominator)
    (isBelow : quotient.value < limit) :
    quotient.roundHalfEven ≤ limit := by
  obtain ⟨notFarAbove, _⟩ := abs_le.mp (abs_value_sub_roundHalfEven isProper)
  have isLess : (quotient.roundHalfEven : ℚ) < limit + 1 := by linarith
  exact Nat.lt_succ_iff.mp (by exact_mod_cast isLess)

theorem le_roundHalfEven
    {limit : Nat}
    (isProper : 0 < quotient.denominator)
    (notBelow : limit ≤ quotient.value) :
    limit ≤ quotient.roundHalfEven := by
  obtain ⟨_, notFarBelow⟩ := abs_le.mp (abs_value_sub_roundHalfEven isProper)
  have isLess : (limit : ℚ) < quotient.roundHalfEven + 1 := by linarith
  exact Nat.lt_succ_iff.mp (by exact_mod_cast isLess)

/-- A quotient is below a power of a base if that shows once it is scaled down by it. -/
theorem scale_lt_iff
    (isBase : 0 < base)
    (isProper : 0 < quotient.denominator)
    (power : Int) :
    (quotient.scale base (-power)).numerator < (quotient.scale base (-power)).denominator ↔
      quotient.value < (base : ℚ) ^ power := by
  have positive : (0 : ℚ) < (quotient.scale base (-power)).denominator := by
    exact_mod_cast scale_isProper isBase isProper (-power)
  have powerPos : (0 : ℚ) < (base : ℚ) ^ power := zpow_pos (by exact_mod_cast isBase) power
  have asRational :
      (quotient.scale base (-power)).numerator < (quotient.scale base (-power)).denominator ↔
        ((quotient.scale base (-power)).numerator : ℚ) <
          (quotient.scale base (-power)).denominator :=
    Nat.cast_lt.symm
  rw [asRational, ← div_lt_one positive]
  change (quotient.scale base (-power)).value < 1 ↔ _
  rw [value_scale, zpow_neg, ← div_eq_mul_inv, div_lt_one powerPos]

/-- A quotient lies between two powers of two that the lengths of its two numbers give. -/
theorem estimate_bounds
    (isProper : 0 < quotient.denominator)
    (notZero : quotient.numerator ≠ 0) :
    (2 : ℚ) ^ ((quotient.numerator.log2 : Int) - quotient.denominator.log2 - 1) ≤
        quotient.value ∧
      quotient.value <
        (2 : ℚ) ^ ((quotient.numerator.log2 : Int) - quotient.denominator.log2 + 1) := by
  have positive : (0 : ℚ) < quotient.denominator := by exact_mod_cast isProper
  have numeratorLower : (2 : ℚ) ^ quotient.numerator.log2 ≤ quotient.numerator := by
    exact_mod_cast Nat.log2_self_le notZero
  have numeratorUpper : (quotient.numerator : ℚ) < 2 ^ (quotient.numerator.log2 + 1) := by
    exact_mod_cast Nat.lt_log2_self
  have denominatorLower : (2 : ℚ) ^ quotient.denominator.log2 ≤ quotient.denominator := by
    exact_mod_cast Nat.log2_self_le isProper.ne'
  have denominatorUpper : (quotient.denominator : ℚ) < 2 ^ (quotient.denominator.log2 + 1) := by
    exact_mod_cast Nat.lt_log2_self
  generalize quotient.numerator.log2 = above at *
  generalize quotient.denominator.log2 = below at *
  have combine (power : Int) (more total : Nat) (isSum : power + more = total) :
      (2 : ℚ) ^ power * 2 ^ more = 2 ^ total := by
    rw [← zpow_natCast, ← zpow_natCast, ← zpow_add₀ two_ne_zero, isSum]
  rw [value, le_div_iff₀ positive, div_lt_iff₀ positive]
  constructor
  · calc
      (2 : ℚ) ^ ((above : Int) - below - 1) * quotient.denominator
        ≤ 2 ^ ((above : Int) - below - 1) * 2 ^ (below + 1) := by gcongr
      _ = 2 ^ above := combine _ _ _ (by push_cast; ring)
      _ ≤ quotient.numerator := numeratorLower
  · calc
      (quotient.numerator : ℚ) < 2 ^ (above + 1) := numeratorUpper
      _ = 2 ^ ((above : Int) - below + 1) * 2 ^ below := (combine _ _ _ (by push_cast; ring)).symm
      _ ≤ 2 ^ ((above : Int) - below + 1) * quotient.denominator := by gcongr

/-- The power of two below a quotient, and the one above it. -/
theorem binaryOrder_bounds
    (isProper : 0 < quotient.denominator)
    (notZero : quotient.numerator ≠ 0) :
    (2 : ℚ) ^ quotient.binaryOrder ≤ quotient.value ∧
      quotient.value < (2 : ℚ) ^ (quotient.binaryOrder + 1) := by
  obtain ⟨lower, upper⟩ := estimate_bounds isProper notZero
  rw [binaryOrder]
  split
  · rename_i isBelow
    rw [sub_add_cancel]
    exact ⟨lower, by exact_mod_cast (scale_lt_iff two_pos isProper _).mp isBelow⟩
  · rename_i notBelow
    rw [scale_lt_iff two_pos isProper, not_lt] at notBelow
    exact ⟨by exact_mod_cast notBelow, upper⟩

end Quotient

namespace Binary64

variable {quotient : Quotient} {double : Binary64}

/-- The rational number that a double is. -/
def value (double : Binary64) : ℚ :=
  double.mantissa * (2 : ℚ) ^ double.exponent

/--
The bounds of the format.

A mantissa that could be longer with a smaller exponent only stands with the smallest.
-/
structure InFormat (double : Binary64) : Prop where
  mantissa_lt : double.mantissa < mantissaLimit
  smallest_le : smallestExponent ≤ double.exponent
  le_largest : double.exponent ≤ largestExponent
  isNormal : smallestExponent < double.exponent → mantissaLimit / 2 ≤ double.mantissa

theorem inFormat_zero : zero.InFormat := by
  constructor <;> decide

/-- A quotient that is rounded in units of a power of two goes at most half a unit away. -/
theorem abs_value_sub_scaled
    (isProper : 0 < quotient.denominator)
    (exponent : Int) :
    |quotient.value - (quotient.scale 2 (-exponent)).roundHalfEven * (2 : ℚ) ^ exponent| ≤
      (2 : ℚ) ^ exponent / 2 := by
  have unitPos : (0 : ℚ) < (2 : ℚ) ^ exponent := zpow_pos two_pos exponent
  have near :=
    Quotient.abs_value_sub_roundHalfEven
      (Quotient.scale_isProper two_pos isProper (-exponent))
  rw [Quotient.value_scale, Nat.cast_two] at near
  have unscaled : quotient.value = quotient.value * (2 : ℚ) ^ (-exponent) * (2 : ℚ) ^ exponent := by
    rw [mul_assoc, ← zpow_add₀ two_ne_zero, neg_add_cancel, zpow_zero, mul_one]
  rw [unscaled, ← sub_mul, abs_mul, abs_of_pos unitPos]
  calc
    _ ≤ 1 / 2 * (2 : ℚ) ^ exponent := by gcongr
    _ = (2 : ℚ) ^ exponent / 2 := by ring

/-- The mantissa of a quotient fits, up to a carry, and is full unless the exponent is smallest. -/
theorem mantissa_bounds
    (isProper : 0 < quotient.denominator)
    (notZero : quotient.numerator ≠ 0) :
    let exponent := max smallestExponent (quotient.binaryOrder - 52)
    (quotient.scale 2 (-exponent)).roundHalfEven ≤ mantissaLimit ∧
      (smallestExponent < exponent →
        mantissaLimit / 2 ≤ (quotient.scale 2 (-exponent)).roundHalfEven) := by
  intro exponent
  obtain ⟨lower, upper⟩ := quotient.binaryOrder_bounds isProper notZero
  have scaledProper := Quotient.scale_isProper two_pos isProper (-exponent)
  have unitPos : (0 : ℚ) < (2 : ℚ) ^ (-exponent) := zpow_pos two_pos (-exponent)
  constructor
  · have isBelow : quotient.binaryOrder + 1 + -exponent ≤ 53 := by omega
    refine Quotient.roundHalfEven_le scaledProper ?_
    rw [Quotient.value_scale]
    calc
      quotient.value * (2 : ℚ) ^ (-exponent)
        < 2 ^ (quotient.binaryOrder + 1) * 2 ^ (-exponent) := by gcongr
      _ = 2 ^ (quotient.binaryOrder + 1 + -exponent) := (zpow_add₀ two_ne_zero _ _).symm
      _ ≤ 2 ^ (53 : Int) := zpow_le_zpow_right₀ one_le_two isBelow
      _ = mantissaLimit := by norm_num [mantissaLimit]
  · intro isLarger
    have isOrder : quotient.binaryOrder + -exponent = 52 := by omega
    refine Quotient.le_roundHalfEven scaledProper ?_
    rw [Quotient.value_scale]
    calc
      ((mantissaLimit / 2 : Nat) : ℚ) = 2 ^ (52 : Int) := by norm_num [mantissaLimit]
      _ = 2 ^ (quotient.binaryOrder + -exponent) := by rw [isOrder]
      _ = 2 ^ quotient.binaryOrder * 2 ^ (-exponent) := zpow_add₀ two_ne_zero _ _
      _ ≤ quotient.value * (2 : ℚ) ^ (-exponent) := by gcongr

/-- A quotient is rounded to a double of the format, at most half a unit of it away. -/
theorem nearest?_spec
    (isProper : 0 < quotient.denominator)
    (notZero : quotient.numerator ≠ 0)
    (isRounded : nearest? quotient = some double) :
    double.InFormat ∧ |quotient.value - double.value| ≤ (2 : ℚ) ^ double.exponent / 2 := by
  have near := abs_value_sub_scaled isProper (max smallestExponent (quotient.binaryOrder - 52))
  obtain ⟨isShort, isFull⟩ := mantissa_bounds isProper notZero
  have notSmaller := le_max_left smallestExponent (quotient.binaryOrder - 52)
  rw [nearest?] at isRounded
  generalize max smallestExponent (quotient.binaryOrder - 52) = exponent at *
  generalize (quotient.scale 2 (-exponent)).roundHalfEven = mantissa at *
  by_cases isCarried : mantissa = mantissaLimit
  · -- A mantissa of one bit too many is a power of two, which stands with the next exponent.
    rw [if_pos isCarried, Option.ite_none_right_eq_some] at isRounded
    obtain ⟨inBounds, isDouble⟩ := isRounded
    cases isDouble
    have sameValue :
        ((mantissaLimit / 2 : Nat) : ℚ) * 2 ^ (exponent + 1) = mantissa * (2 : ℚ) ^ exponent := by
      rw [isCarried, zpow_add_one₀ two_ne_zero]
      norm_num [mantissaLimit]
      ring
    have unitPos : (0 : ℚ) < (2 : ℚ) ^ exponent := zpow_pos two_pos exponent
    have halfLt : mantissaLimit / 2 < mantissaLimit := by decide
    refine ⟨⟨halfLt, Int.le_add_one notSmaller, inBounds, fun _ => le_rfl⟩, ?_⟩
    rw [value, sameValue, zpow_add_one₀ two_ne_zero]
    linarith
  · rw [if_neg isCarried, Option.ite_none_right_eq_some] at isRounded
    obtain ⟨inBounds, isDouble⟩ := isRounded
    cases isDouble
    exact ⟨⟨Nat.lt_of_le_of_ne isShort isCarried, notSmaller, inBounds, isFull⟩, near⟩

/-- What is rounded to a double is in the format, and at most half a unit of it away. -/
theorem round?_spec
    (isProper : 0 < quotient.denominator)
    (isRounded : round? quotient = some double) :
    double.InFormat ∧ |quotient.value - double.value| ≤ (2 : ℚ) ^ double.exponent / 2 := by
  rw [round?] at isRounded
  split at isRounded
  · rename_i isZero
    cases isRounded
    refine ⟨inFormat_zero, ?_⟩
    simp [Quotient.value, value, zero, isZero]
    positivity
  · rename_i notZero
    exact nearest?_spec isProper notZero isRounded

/-- A rounded power of ten can be divided by. -/
theorem powerOfTen?_pos
    {power : Nat}
    (isRounded : powerOfTen? power = some double) :
    0 < double.mantissa := by
  obtain ⟨inFormat, near⟩ := round?_spec Nat.one_pos isRounded
  by_contra notPos
  have isZero : double.mantissa = 0 := Nat.eq_zero_of_not_pos notPos
  have isSmallest : double.exponent ≤ 0 := by
    by_contra isLarger
    have isFull := inFormat.isNormal (by rw [smallestExponent]; omega)
    rw [isZero] at isFull
    revert isFull
    decide
  have unitLe : (2 : ℚ) ^ double.exponent ≤ 1 := zpow_le_one_of_nonpos₀ one_le_two isSmallest
  have powerGe : (1 : ℚ) ≤ 10 ^ power := one_le_pow₀ (by norm_num)
  rw [value, isZero, Quotient.value] at near
  simp at near
  linarith

theorem times?_inFormat
    {first second : Binary64}
    (isProduct : first.times? second = some double) :
    double.InFormat :=
  (round?_spec (Quotient.scale_isProper two_pos Nat.one_pos _) isProduct).1

theorem over?_inFormat
    {dividend divisor : Binary64}
    (isDivisor : 0 < divisor.mantissa)
    (isQuotient : dividend.over? divisor = some double) :
    double.InFormat :=
  (round?_spec (Quotient.scale_isProper two_pos isDivisor _) isQuotient).1

theorem shrink?_inFormat
    {start : Binary64}
    {rounds : Nat}
    (inFormat : start.InFormat)
    (isShrunk : start.shrink? rounds = some double) :
    double.InFormat := by
  induction rounds generalizing start with
  | zero =>
      cases isShrunk
      exact inFormat
  | succ rounds inductionHypothesis =>
      rw [shrink?] at isShrunk
      split at isShrunk
      · cases isShrunk
        exact inFormat
      · obtain ⟨next, isNext, isShrunk⟩ := Option.bind_eq_some_iff.mp isShrunk
        obtain ⟨power, isPower, isNext⟩ := Option.bind_eq_some_iff.mp isNext
        exact inductionHypothesis (over?_inFormat (powerOfTen?_pos isPower) isNext) isShrunk

/-- Digits with an exponent are read as a double of the format, if they are read. -/
theorem ofParts?_inFormat
    {significand : Nat}
    {exponent : Int}
    (isRead : ofParts? significand exponent = some double) :
    double.InFormat := by
  rw [ofParts?] at isRead
  obtain ⟨start, isStart, isRead⟩ := Option.bind_eq_some_iff.mp isRead
  have startInFormat := (round?_spec Nat.one_pos isStart).1
  split at isRead
  · split at isRead
    · cases isRead
      exact startInFormat
    · split at isRead
      · cases isRead
      · obtain ⟨power, isPower, isRead⟩ := Option.bind_eq_some_iff.mp isRead
        exact times?_inFormat isRead
  · obtain ⟨left, isLeft, isRead⟩ := Option.bind_eq_some_iff.mp isRead
    obtain ⟨power, isPower, isRead⟩ := Option.bind_eq_some_iff.mp isRead
    exact over?_inFormat (powerOfTen?_pos isPower) isRead

end Binary64

end Decimal

namespace Json

open Decimal.Binary64 (ofParts?_inFormat)

/-- The values that fit 64 bits: integers with or without a sign, and doubles. -/
inductive Number.Fits : Number → Prop where
  | integer
      {value : Int}
      (lower : -Int.ofNat (Nat.pow 2 63) ≤ value)
      (upper : value < Int.ofNat (Nat.pow 2 64)) :
      Fits (.integer value)
  | double
      (negative : Bool)
      {magnitude : Decimal.Binary64}
      (inFormat : magnitude.InFormat) :
      Fits (.double negative magnitude)

namespace NumberText

variable {number : NumberText}

theorem integer?_fits
    {value : Int}
    (isInteger : number.integer? = some value) :
    Number.Fits (.integer value) := by
  rw [integer?] at isInteger
  split at isInteger
  · split at isInteger
    · rw [Option.ite_none_right_eq_some] at isInteger
      obtain ⟨⟨isPos, isSmall⟩, isValue⟩ := isInteger
      cases isValue
      exact .integer (by simp; omega) (by simp; omega)
    · rw [Option.ite_none_right_eq_some] at isInteger
      obtain ⟨isSmall, isValue⟩ := isInteger
      cases isValue
      exact .integer (by simp) (by simpa using isSmall)
  · cases isInteger

theorem double?_inFormat
    {double : Decimal.Binary64}
    (isDouble : number.double? = some double) :
    double.InFormat := by
  -- The two rounds of digits are taken apart before the exponent is looked at.
  rw [double?] at isDouble
  split at isDouble
  split at isDouble
  dsimp only at isDouble
  split at isDouble
  · exact ofParts?_inFormat isDouble
  · split at isDouble
    · rw [Option.ite_none_right_eq_some] at isDouble
      cases isDouble.2
      exact Decimal.Binary64.inFormat_zero
    · split at isDouble
      · exact ofParts?_inFormat isDouble
      · exact ofParts?_inFormat isDouble

/-- Whatever is spelled, the value of a number fits 64 bits. -/
theorem value?_fits
    {value : Number}
    (isValue : number.value? = some value) :
    value.Fits := by
  rw [value?] at isValue
  split at isValue
  · rename_i isInteger
    cases isValue
    exact integer?_fits isInteger
  · obtain ⟨double, isDouble, rfl⟩ := Option.map_eq_some_iff.mp isValue
    exact .double number.negative (double?_inFormat isDouble)

end NumberText

end Json

end SplitTunnel
