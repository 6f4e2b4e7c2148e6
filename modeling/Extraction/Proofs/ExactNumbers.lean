import Mathlib.Algebra.Order.Field.Power
import Mathlib.Algebra.Order.Field.Rat
import Mathlib.Algebra.Ring.Int.Parity
import Mathlib.Data.Rat.Cast.Defs
import Mathlib.Tactic.Positivity
import Extraction.Value.Json

/-!
# Exact numbers

A finite number is a rational: its mantissa, with its sign, times a power of two.  Numbers are
equal exactly if they are the same rational, and the integer of a number is the one that it is as a
rational.  What a document writes of a number is compared with the number by way of rationals.  It
is exact but for a single number, the bound of the range of integers, which is no integer of 64
bits.
-/

namespace Extraction

open Binary64

namespace FiniteNumber

variable {number other : FiniteNumber} {integer : Int}

/-- The mantissa with the sign of the number. -/
def significand (number : FiniteNumber) : Int :=
  if number.negative then -number.mantissa else number.mantissa

/-- The rational that the number is. -/
def toRat (number : FiniteNumber) : ℚ :=
  number.significand * 2 ^ number.exponent

@[simp]
theorem natAbs_significand (number : FiniteNumber) :
    number.significand.natAbs = number.mantissa := by
  unfold significand
  split <;> simp

/-! ## Integers among the numbers -/

/-- Where the exponent is not negative, the number is an integer. -/
theorem toRat_of_nonneg (isNonneg : 0 ≤ number.exponent) :
    number.toRat = ((number.significand * 2 ^ number.exponent.natAbs : Int) : ℚ) := by
  obtain ⟨power, exponentIs⟩ := Int.eq_ofNat_of_zero_le isNonneg
  rw [toRat, exponentIs, Int.natAbs_natCast, zpow_natCast]
  norm_cast

/-- Where the exponent is negative, the number is the integer whose multiple by a power of two is
the mantissa with its sign. -/
theorem toRat_eq_iff_of_neg (isNegative : number.exponent < 0) :
    number.toRat = integer ↔
      number.significand = integer * (2 ^ number.exponent.natAbs : Nat) := by
  obtain ⟨power, exponentIs⟩ := Int.eq_ofNat_of_zero_le (Int.neg_nonneg.mpr isNegative.le)
  rw [Int.neg_eq_comm] at exponentIs
  rw [toRat, ← exponentIs, Int.natAbs_neg, Int.natAbs_natCast, zpow_neg, zpow_natCast,
    ← div_eq_mul_inv, div_eq_iff (by positivity)]
  norm_cast

/-- The integer of a number is the one that it is as a rational. -/
theorem toInteger?_eq_some_iff : number.toInteger? = some integer ↔ number.toRat = integer := by
  by_cases isNonneg : 0 ≤ number.exponent
  · have isInteger : number.toInteger? =
        some (number.significand * 2 ^ number.exponent.natAbs) := by
      simp only [toInteger?, if_pos isNonneg, significand]
      split <;> simp
    rw [isInteger, toRat_of_nonneg isNonneg, Option.some.injEq, Int.cast_inj]
  · have scalePositive : 0 < 2 ^ number.exponent.natAbs := Nat.two_pow_pos _
    rw [toRat_eq_iff_of_neg (Int.not_le.mp isNonneg)]
    simp only [toInteger?, if_neg isNonneg, Nat.pow_eq]
    generalize 2 ^ number.exponent.natAbs = scale at scalePositive ⊢
    have scaleNonzero : (scale : Int) ≠ 0 := by omega
    by_cases divides : number.mantissa % scale = 0
    · obtain ⟨quotient, isMultiple⟩ := Nat.dvd_of_mod_eq_zero divides
      rw [if_pos divides, isMultiple, Nat.mul_div_cancel_left quotient scalePositive, significand,
        isMultiple, Option.some.injEq]
      split
      · rw [Nat.cast_mul, mul_comm, ← neg_mul, mul_left_inj' scaleNonzero]
      · rw [Nat.cast_mul, mul_comm, mul_left_inj' scaleNonzero]
    · rw [if_neg divides]
      constructor
      · nofun
      · -- If the number were the integer, the scale would divide the mantissa.
        intro same
        have absolute := number.natAbs_significand
        rw [same, Int.natAbs_mul, Int.natAbs_natCast] at absolute
        rw [← absolute, Nat.mul_mod_left] at divides
        contradiction

/-- An odd integer among the numbers has no more bits than a mantissa. -/
theorem natAbs_lt_of_odd (isOdd : Odd integer) (isInteger : number.toRat = integer) :
    integer.natAbs < 2 * leastFull := by
  have bounded : number.mantissa < 2 * leastFull := number.canonical.1
  rcases le_or_gt 0 number.exponent with isNonneg | isNegative
  · rw [toRat_of_nonneg isNonneg, Int.cast_inj] at isInteger
    cases exponentIs : number.exponent.natAbs with
    | zero =>
        rw [exponentIs, pow_zero, mul_one] at isInteger
        rwa [← isInteger, natAbs_significand]
    | succ power =>
        rw [exponentIs, pow_succ, ← mul_assoc] at isInteger
        rw [← isInteger] at isOdd
        exact absurd isOdd (Int.not_odd_iff_even.mpr (even_two.mul_left _))
  · have scaled := congrArg Int.natAbs ((toRat_eq_iff_of_neg isNegative).mp isInteger)
    rw [natAbs_significand, Int.natAbs_mul, Int.natAbs_natCast] at scaled
    have grown : integer.natAbs ≤ integer.natAbs * 2 ^ number.exponent.natAbs :=
      Nat.le_mul_of_pos_right _ (Nat.two_pow_pos _)
    omega

/-! ## Equal numbers -/

private theorem exponent_le_of_toRat_eq (same : number.toRat = other.toRat) :
    other.exponent ≤ number.exponent := by
  by_contra isSmaller
  rw [Int.not_le] at isSmaller
  obtain ⟨power, exponentIs⟩ := Int.eq_ofNat_of_zero_le (Int.sub_nonneg_of_le isSmaller)
  have scaled : number.significand = other.significand * 2 ^ (power + 1) := by
    have apart : other.exponent = number.exponent + (power + 1 : Nat) := by
      omega
    rw [toRat, toRat, apart, zpow_add₀ two_ne_zero, zpow_natCast,
      mul_comm (2 ^ number.exponent : ℚ), ← mul_assoc, mul_left_inj' (by positivity)] at same
    exact_mod_cast same
  have mantissaScaled : number.mantissa = other.mantissa * 2 ^ (power + 1) := by
    rw [← natAbs_significand, scaled, Int.natAbs_mul, natAbs_significand, Int.natAbs_pow]
    rfl
  -- The larger exponent is not the least one, so its mantissa is full and cannot be doubled.
  obtain ⟨bounded, isLeast, _, _⟩ := number.canonical
  obtain ⟨_, _, _, isFull | otherIsLeast⟩ := other.canonical
  · have positive : 0 < 2 ^ power := Nat.two_pow_pos power
    rw [Nat.pow_succ, ← Nat.mul_assoc] at mantissaScaled
    have grown : other.mantissa ≤ other.mantissa * 2 ^ power := Nat.le_mul_of_pos_right _ positive
    omega
  · omega

/-- Numbers that are the same rational have the same exponent and the same signed mantissa. -/
theorem significand_eq_of_toRat_eq (same : number.toRat = other.toRat) :
    number.exponent = other.exponent ∧ number.significand = other.significand := by
  have sameExponent : number.exponent = other.exponent :=
    le_antisymm (exponent_le_of_toRat_eq same.symm) (exponent_le_of_toRat_eq same)
  rw [toRat, toRat, sameExponent, mul_left_inj' (by positivity)] at same
  exact ⟨sameExponent, Int.cast_inj.mp same⟩

/-- Numbers are equal exactly if they are the same rational. -/
theorem equals_iff_toRat_eq : number.equals other = true ↔ number.toRat = other.toRat := by
  rw [equals, Bool.or_eq_true, beq_iff_eq, Bool.and_eq_true, isZero, isZero, beq_iff_eq,
    beq_iff_eq]
  constructor
  · rintro (rfl | ⟨isZero, otherIsZero⟩)
    · rfl
    · simp [toRat, significand, isZero, otherIsZero]
  · intro same
    obtain ⟨sameExponent, sameSignificand⟩ := significand_eq_of_toRat_eq same
    have sameMantissa : number.mantissa = other.mantissa := by
      rw [← natAbs_significand, sameSignificand, natAbs_significand]
    by_cases isZero : number.mantissa = 0
    · exact .inr ⟨isZero, sameMantissa ▸ isZero⟩
    · left
      -- Apart from zero, the sign of a number is that of its mantissa.
      have sameSign : number.negative = other.negative := by
        rw [significand, significand, sameMantissa] at sameSignificand
        rw [sameMantissa] at isZero
        cases sign : number.negative <;> cases otherSign : other.negative <;>
          simp [sign, otherSign] at sameSignificand ⊢ <;> contradiction
      cases number
      cases other
      congr

end FiniteNumber

/-! ## What is written of a number -/

namespace Numeral

/-- The rational that is written. -/
def toRat : Numeral → ℚ
  | integer value => value
  | float value => value.toRat

end Numeral

namespace Number

variable {number : FiniteNumber} {integer : Int}

/-- An integer in the range is written as such, or as the largest one of 64 bits. -/
theorem toJson_of_toRat_eq (isInteger : number.toRat = integer) (lower : -2 ^ 63 ≤ integer)
    (upper : integer ≤ 2 ^ 63) :
    (finite number).toJson = .number (.integer (min integer (2 ^ 63 - 1))) := by
  have found : (finite number).toInteger? = some integer :=
    FiniteNumber.toInteger?_eq_some_iff.mpr isInteger
  have inRange : -(greatestInteger + 1) ≤ integer ∧ integer ≤ greatestInteger + 1 := ⟨lower, upper⟩
  rw [toJson, found]
  exact if_pos inRange

/-- A number that is no integer in the range is handed on. -/
theorem toJson_of_outside
    (outside : ∀ integer : Int, number.toRat = integer → integer < -2 ^ 63 ∨ 2 ^ 63 < integer) :
    (finite number).toJson = .number (.float number) := by
  rw [toJson]
  cases found : (finite number).toInteger? with
  | none => rfl
  | some integer =>
      have notInRange : ¬(-(greatestInteger + 1) ≤ integer ∧ integer ≤ greatestInteger + 1) := by
        rcases outside integer (FiniteNumber.toInteger?_eq_some_iff.mp found) with below | above
        · exact fun inRange => absurd inRange.1 (not_le.mpr below)
        · exact fun inRange => absurd inRange.2 (not_le.mpr above)
      exact if_neg notInRange

/-- How a finite number is written. -/
inductive Written (number : FiniteNumber) : Numeral → Prop where
  | integer {integer : Int} (isInteger : number.toRat = integer) (lower : -2 ^ 63 ≤ integer)
      (upper : integer ≤ 2 ^ 63) : Written number (.integer (min integer (2 ^ 63 - 1)))
  | float (outside : ∀ integer : Int, number.toRat = integer →
      integer < -2 ^ 63 ∨ 2 ^ 63 < integer) : Written number (.float number)

/-- Every finite number is written in one of the two ways. -/
theorem exists_written (number : FiniteNumber) :
    ∃ numeral, (finite number).toJson = .number numeral ∧ Written number numeral := by
  by_cases isInRange : ∃ integer : Int,
      number.toRat = integer ∧ -2 ^ 63 ≤ integer ∧ integer ≤ 2 ^ 63
  · obtain ⟨integer, isInteger, lower, upper⟩ := isInRange
    exact ⟨_, toJson_of_toRat_eq isInteger lower upper, .integer isInteger lower upper⟩
  · have outside (integer : Int) (isInteger : number.toRat = integer) :
        integer < -2 ^ 63 ∨ 2 ^ 63 < integer := by
      by_contra inside
      rw [not_or, not_lt, not_lt] at inside
      exact isInRange ⟨integer, isInteger, inside⟩
    exact ⟨_, toJson_of_outside outside, .float outside⟩

/-- What is written of a number is the number, unless it is the bound of the range. -/
theorem Written.toRat_eq_iff {numeral : Numeral} (written : Written number numeral) :
    numeral.toRat = number.toRat ↔ number.toRat ≠ 2 ^ 63 := by
  cases written with
  | @integer integer isInteger lower upper =>
      have bound : (2 ^ 63 : ℚ) = (2 ^ 63 : Int) := by norm_cast
      rw [isInteger, Numeral.toRat, bound, ne_eq, Int.cast_inj, Int.cast_inj]
      omega
  | float outside =>
      refine iff_of_true rfl fun isBound => ?_
      rcases outside (2 ^ 63) (by rw [isBound]; norm_cast) with below | above
      · contradiction
      · exact absurd above (lt_irrefl _)

/-- A finite number is written as a numeral that is exactly the number, unless the number is the
bound of the range of integers. -/
theorem toJson_exact (number : FiniteNumber) :
    ∃ numeral, (finite number).toJson = .number numeral ∧
      (numeral.toRat = number.toRat ↔ number.toRat ≠ 2 ^ 63) ∧
      ((∃ integer : Int, number.toRat = integer ∧ -2 ^ 63 ≤ integer ∧ integer ≤ 2 ^ 63 ∧
          numeral = .integer (min integer (2 ^ 63 - 1))) ∨
        (numeral = .float number ∧ ∀ integer : Int, number.toRat = integer →
          integer < -2 ^ 63 ∨ 2 ^ 63 < integer)) := by
  obtain ⟨numeral, isWritten, written⟩ := exists_written number
  refine ⟨numeral, isWritten, written.toRat_eq_iff, ?_⟩
  cases written with
  | integer isInteger lower upper => exact .inl ⟨_, isInteger, lower, upper, rfl⟩
  | float outside => exact .inr ⟨rfl, outside⟩

/-- The bound of the range of integers, which is a number. -/
def rangeBound : FiniteNumber :=
  ⟨false, leastFull, 11, by decide⟩

/-- The bound of the range is not written exactly: the integer that is written is one less. -/
theorem toJson_rangeBound :
    rangeBound.toRat = 2 ^ 63 ∧
      (finite rangeBound).toJson = .number (.integer (2 ^ 63 - 1)) ∧
      ¬∃ numeral, (finite rangeBound).toJson = .number numeral ∧
        numeral.toRat = rangeBound.toRat := by
  have isBound : rangeBound.toRat = (2 ^ 63 : Int) :=
    FiniteNumber.toInteger?_eq_some_iff.mp (by decide)
  have isWritten : (finite rangeBound).toJson = .number (.integer (2 ^ 63 - 1)) :=
    toJson_of_toRat_eq isBound (by decide) le_rfl
  refine ⟨by rw [isBound]; norm_cast, isWritten, ?_⟩
  rintro ⟨numeral, same, isExact⟩
  rw [isWritten, Json.number.injEq] at same
  rw [isBound, ← same, Numeral.toRat, Int.cast_inj] at isExact
  contradiction

end Number

end Extraction
