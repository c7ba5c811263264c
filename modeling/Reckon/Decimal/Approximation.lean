import Reckon.Decimal.Numeral

/-!
# Reading numbers approximately

A numeral of any length is read in two steps. *Shortening* keeps as many digits as fit a coefficient
below `2 ^ 64` and lets the others only move the point; then the coefficient is scaled by a power of ten
in floating point. The result is the nearest double when no digit is left over, the coefficient is below
`2 ^ 53` and the power at most `10 ^ 22`, for then nothing is rounded but the product or quotient. Else
it may be another double close by.
-/

namespace Reckon.Decimal

/-! ## Shortening -/

/-- Appends digits to a coefficient until one does not fit below `2 ^ 64`, and gives the digits left
over, that one first. -/
def appendDigits (c : Nat) : List Char → Nat × List Char
  | [] => (c, [])
  | d :: ds =>
    let next := 10 * c + (d.toNat - '0'.toNat)
    if next < 0x10000000000000000 then appendDigits next ds else (c, d :: ds)

/-- The number `coefficient · 10 ^ exponent`. -/
structure Shortened where
  coefficient : Nat
  exponent : Int
deriving DecidableEq, Repr

/-- What is left of a numeral. Digits before the point that do not fit count as zeros, digits after it
that do not fit are dropped; the two sides are cut independently, so a digit after the point may still
fit where one before it did not. -/
def Numeral.shortened (n : Numeral) : Shortened :=
  let fraction := n.fraction.getD []
  let (c, wholeLeft) := appendDigits 0 n.whole
  let (c, fractionLeft) := appendDigits c fraction
  { coefficient := c
    exponent := n.exponent.getD 0 + wholeLeft.length - (fraction.length - fractionLeft.length : Nat) }

/-! ## Scaling -/

/-- The double nearest to `10 ^ n`: the infinity from `10 ^ 309` on. -/
def powerOfTen (n : Nat) : Float :=
  ofDecimal false 1 n

/-- The nearest double to the coefficient, multiplied or divided by a power of ten. A power beyond the
doubles divides in two steps, so that the quotient can still be a subnormal number. -/
def Shortened.toFloat (s : Shortened) : Float :=
  let f := ofDecimal false s.coefficient 0
  if s.coefficient = 0 then f
  else if 0 ≤ s.exponent then f * powerOfTen s.exponent.toNat
  else
    let n := (-s.exponent).toNat
    f / powerOfTen (min n 308) / powerOfTen (n - 308)

/-- The double read for the number with the given sign. -/
def Numeral.approximation (n : Numeral) (negative : Bool) : Float :=
  if negative then -n.shortened.toFloat else n.shortened.toFloat

end Reckon.Decimal
