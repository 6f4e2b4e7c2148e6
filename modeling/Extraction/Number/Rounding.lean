import Extraction.Number.Basic

/-!
# Rounding to the nearest number

A quotient of natural numbers is rounded to the nearest number of the format, a tie to the even
mantissa, and to an infinity above the range.  Decimal fractions and integers are read this way.
-/

namespace Extraction

/-- `numerator / denominator` rounded to the nearest integer, a tie to the even one. -/
def roundHalfEven (numerator denominator : Nat) : Nat :=
  let quotient := numerator / denominator
  let twice := 2 * (numerator % denominator)
  if twice < denominator ∨ (twice = denominator ∧ quotient % 2 = 0) then quotient else quotient + 1

namespace Binary64

/-- The largest `exponent` with `2 ^ (precision - 1 + exponent)` at most
`numerator / denominator`, for positive arguments. -/
def scale (numerator denominator : Nat) : Int :=
  let guess : Int := numerator.log2 - denominator.log2 - (precision - 1 : Nat)
  let shift := guess + (precision - 1 : Nat)
  let tooLarge : Bool :=
    if 0 ≤ shift then numerator < denominator * Nat.pow 2 shift.toNat
    else numerator * Nat.pow 2 shift.natAbs < denominator
  if tooLarge then guess - 1 else guess

end Binary64

namespace Number

open Binary64

/-- The number of the format nearest to `numerator / denominator`, with the given sign. -/
def ofRatio (negative : Bool) (numerator denominator : Nat) : Number :=
  if numerator = 0 then
    finite (.zero negative)
  else
    let exponent := max leastExponent (scale numerator denominator)
    let mantissa :=
      if 0 ≤ exponent then roundHalfEven numerator (denominator * Nat.pow 2 exponent.toNat)
      else roundHalfEven (numerator * Nat.pow 2 exponent.natAbs) denominator
    if full : Canonical mantissa exponent then
      finite ⟨negative, mantissa, exponent, full⟩
    else if carried : Canonical (mantissa / 2) (exponent + 1) then
      finite ⟨negative, mantissa / 2, exponent + 1, carried⟩
    else
      infinite negative

/-- The number nearest to `digits * 10 ^ exponent`, with the given sign. -/
def ofDecimal (negative : Bool) (digits : Nat) (exponent : Int) : Number :=
  if 0 ≤ exponent then ofRatio negative (digits * Nat.pow 10 exponent.toNat) 1
  else ofRatio negative digits (Nat.pow 10 exponent.natAbs)

/-- The number nearest to an integer. -/
def ofInt (integer : Int) : Number :=
  ofRatio (integer < 0) integer.natAbs 1

instance (literal : Nat) : OfNat Number literal :=
  ⟨ofInt literal⟩

end Number

end Extraction
