import Extraction.Number.Shortest

/-!
# Layouts of decimal text

A layout decides where positional writing ends, how an exponent is signed, and which of two equally
near shortest decimals is written.
-/

namespace Extraction

/-- A number is written positionally when the exponent of its leading digit is at least
`positionalFrom` and below `positionalBelow`. -/
structure Layout where
  positionalFrom : Int
  positionalBelow : Int
  exponentPlus : Bool
  tie : TieRule
deriving DecidableEq, Repr

namespace Decimal

/-- The exponent of the leading digit. -/
def leadingExponent (decimal : Decimal) : Int :=
  decimal.point - 1

/-- Digits around a decimal point, with at least one digit on either side of it. -/
def positional (decimal : Decimal) : String :=
  let digits := decimal.digits
  if decimal.point ≤ 0 then
    "0." ++ String.ofList (List.replicate decimal.point.natAbs '0' ++ digits)
  else
    let whole := decimal.point.toNat
    let fraction := digits.drop whole
    let padding := List.replicate (whole - digits.length) '0'
    String.ofList (digits.take whole ++ padding) ++ "." ++
      (if fraction.isEmpty then "0" else String.ofList fraction)

/-- One digit, the others after a point if there are any, and the exponent of the leading digit. -/
def scientific (decimal : Decimal) (plus : Bool) : String :=
  let exponent := decimal.leadingExponent
  let sign := if exponent < 0 then "-" else if plus then "+" else ""
  let fraction := decimal.digits.drop 1
  String.ofList (decimal.digits.take 1) ++
    (if fraction.isEmpty then "" else "." ++ String.ofList fraction) ++
    "e" ++ sign ++ Nat.repr exponent.natAbs

end Decimal

namespace Layout

/-- The text of a finite number. -/
def render (layout : Layout) (number : FiniteNumber) : String :=
  let sign := if number.negative then "-" else ""
  if number.isZero then
    sign ++ "0.0"
  else
    let decimal := number.shortest layout.tie
    let exponent := decimal.leadingExponent
    sign ++
      if layout.positionalFrom ≤ exponent ∧ exponent < layout.positionalBelow then
        decimal.positional
      else
        decimal.scientific layout.exponentPlus

end Layout

end Extraction
