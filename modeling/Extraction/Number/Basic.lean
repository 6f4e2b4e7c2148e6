/-!
# Numbers

Numbers are the values of the 64-bit binary floating-point format.  A finite number is kept as a
signed multiple of a power of two in its canonical form, so that two finite numbers are the same
number of the format exactly when they are equal as data.  The two zeros differ as data and are
equal as numbers; the undefined number is not equal to itself.
-/

namespace Extraction

namespace Binary64

/-- Mantissas have at most this many bits. -/
def precision : Nat := 53

/-- The least mantissa with all bits in use. -/
def leastFull : Nat := Nat.pow 2 (precision - 1)

/-- The exponent of the smallest positive number. -/
def leastExponent : Int := -1074

/-- The exponent of the largest finite number. -/
def greatestExponent : Int := 971

/-- Every finite magnitude has one canonical pair: the mantissa is full unless the exponent is the
least one. -/
def Canonical (mantissa : Nat) (exponent : Int) : Prop :=
  mantissa < 2 * leastFull ∧ leastExponent ≤ exponent ∧ exponent ≤ greatestExponent ∧
    (leastFull ≤ mantissa ∨ exponent = leastExponent)

instance (mantissa : Nat) (exponent : Int) : Decidable (Canonical mantissa exponent) :=
  inferInstanceAs (Decidable (_ ∧ _ ∧ _ ∧ _))

theorem canonical_zero : Canonical 0 leastExponent := by
  decide

end Binary64

open Binary64 in
/-- The number `mantissa * 2 ^ exponent`, negated if `negative`. -/
structure FiniteNumber where
  negative : Bool
  mantissa : Nat
  exponent : Int
  canonical : Canonical mantissa exponent
deriving DecidableEq

namespace FiniteNumber

/-- Zero of either sign. -/
def zero (negative : Bool) : FiniteNumber :=
  ⟨negative, 0, Binary64.leastExponent, Binary64.canonical_zero⟩

/-- Whether the number is one of the two zeros. -/
def isZero (number : FiniteNumber) : Bool :=
  number.mantissa == 0

/-- The integer that the number is, if it is one. -/
def toInteger? (number : FiniteNumber) : Option Int :=
  let signed (magnitude : Nat) : Int := if number.negative then -magnitude else magnitude
  let scale := Nat.pow 2 number.exponent.natAbs
  if 0 ≤ number.exponent then
    some (signed (number.mantissa * scale))
  else if number.mantissa % scale = 0 then
    some (signed (number.mantissa / scale))
  else
    none

/-- Numeric equality: the two zeros are equal. -/
def equals (left right : FiniteNumber) : Bool :=
  left == right || (left.isZero && right.isZero)

end FiniteNumber

/-- A number of the format. -/
inductive Number where
  | undefined
  | infinite (negative : Bool)
  | finite (number : FiniteNumber)
deriving DecidableEq

namespace Number

instance : Inhabited Number :=
  ⟨finite (.zero false)⟩

/-- Numeric equality: the undefined number equals nothing, and the two zeros are equal. -/
def equals : Number → Number → Bool
  | finite left, finite right => left.equals right
  | infinite left, infinite right => left == right
  | _, _ => false

/-- Whether the number is greater than zero. -/
def isPositive : Number → Bool
  | undefined => false
  | infinite negative => !negative
  | finite number => !number.negative && !number.isZero

/-- The integer that the number is, if it is one. -/
def toInteger? : Number → Option Int
  | finite number => number.toInteger?
  | _ => none

end Number

end Extraction
