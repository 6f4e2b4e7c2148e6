import Extraction.Number.Basic

/-!
# Shortest digits

A finite number is written with the fewest decimal digits that round back to it.  All decimals
that round to the number form an interval around it; the first decimal grid with a point in the
interval gives the digits, and of two points the nearer one is taken.
-/

namespace Extraction

/-- Which of two equally near decimals is taken. -/
inductive TieRule where
  | toEven
  | up
deriving DecidableEq, Repr

/-- The decimal `0.d₁d₂… * 10 ^ point`, without trailing zeros. -/
structure Decimal where
  digits : List Char
  point : Int
deriving DecidableEq, Repr

namespace FiniteNumber

/-- The interval of the reals that round to a positive number, on a common scale: the number is
`4 * mantissa` units, and a unit is `numerator / denominator`. -/
structure Interval where
  lower : Nat
  value : Nat
  upper : Nat
  closed : Bool
  numerator : Nat
  denominator : Nat

/-- The lower gap is half as wide below a power of two, except at the least exponent. -/
def interval (number : FiniteNumber) : Interval :=
  let mantissa := number.mantissa
  let narrow : Bool :=
    mantissa == Binary64.leastFull && number.exponent != Binary64.leastExponent
  let exponent := number.exponent - 2
  { lower := 4 * mantissa - (if narrow then 1 else 2)
    value := 4 * mantissa
    upper := 4 * mantissa + 2
    closed := mantissa % 2 == 0
    numerator := if 0 ≤ exponent then Nat.pow 2 exponent.toNat else 1
    denominator := if 0 ≤ exponent then 1 else Nat.pow 2 exponent.natAbs }

namespace Interval

/-- The quantity `units` measured in steps of `10 ^ grid`, as a numerator over `gridStep`. -/
def onGrid (interval : Interval) (grid : Int) (units : Nat) : Nat :=
  units * interval.numerator * (if grid < 0 then Nat.pow 10 grid.natAbs else 1)

/-- One step of `10 ^ grid` on the scale of `onGrid`. -/
def gridStep (interval : Interval) (grid : Int) : Nat :=
  interval.denominator * (if 0 ≤ grid then Nat.pow 10 grid.toNat else 1)

/-- Whether `point * 10 ^ grid` lies in the interval. -/
def contains (interval : Interval) (grid : Int) (point : Nat) : Bool :=
  let place := point * interval.gridStep grid
  let lower := interval.onGrid grid interval.lower
  let upper := interval.onGrid grid interval.upper
  if interval.closed then lower ≤ place && place ≤ upper
  else lower < place && place < upper

/-- The point of the grid that is nearest to the number among those in the interval. -/
def nearest? (interval : Interval) (tie : TieRule) (grid : Int) : Option Nat :=
  let value := interval.onGrid grid interval.value
  let step := interval.gridStep grid
  let below := value / step
  let above := below + 1
  let twice := 2 * (value % step)
  let preferAbove : Bool :=
    step < twice || (twice == step && (tie == .up || below % 2 == 1))
  match interval.contains grid below, interval.contains grid above with
  | true, true => some (if preferAbove then above else below)
  | true, false => some below
  | false, true => some above
  | false, false => none

/-- The exponent of the leading decimal digit of the number. -/
def magnitude (interval : Interval) : Int :=
  let numerator := interval.value * interval.numerator
  let denominator := interval.denominator
  let length (natural : Nat) : Int := (Nat.toDigits 10 natural).length
  let guess := length numerator - length denominator
  let reached : Bool :=
    if 0 ≤ guess then denominator * Nat.pow 10 guess.toNat ≤ numerator
    else denominator ≤ numerator * Nat.pow 10 guess.natAbs
  if reached then guess else guess - 1

end Interval

/-- More digits than this are never needed. -/
def digitLimit : Nat := 17

/-- The shortest decimal that rounds to the magnitude of a nonzero number. -/
def shortest (number : FiniteNumber) (tie : TieRule) : Decimal :=
  let interval := number.interval
  let magnitude := interval.magnitude
  let candidate (extra : Nat) : Option (Nat × Int) :=
    let grid := magnitude - extra
    (interval.nearest? tie grid).map fun point => (point, grid)
  let (point, grid) := ((List.range digitLimit).findSome? candidate).getD (0, 0)
  let digits := Nat.toDigits 10 point
  { digits := (digits.reverse.dropWhile (· == '0')).reverse
    point := digits.length + grid }

end FiniteNumber

end Extraction
