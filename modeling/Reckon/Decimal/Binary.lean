/-!
# Doubles as dyadic numbers

A finite double is `± m · 2 ^ q`. Its bits below the sign, read as a natural number, are its
*magnitude*: magnitudes are ordered as the numbers they stand for, the neighbour of a double has the
neighbouring magnitude, and the infinity follows the largest finite double. So rounding a positive
fraction to the nearest double is one integer division, and a mantissa that rounds up to the next power
of two carries into the exponent by itself.
-/

namespace Reckon.Decimal

/-! ## Taking a double apart -/

/-- The bits below the sign. -/
def magnitude (x : Float) : Nat :=
  x.toBits.toNat % 0x8000000000000000

/-- Whether the sign bit is set, also on a zero. -/
def isNegative (x : Float) : Bool :=
  0x8000000000000000 ≤ x.toBits.toNat

/-- The double with the given sign and magnitude. -/
def ofMagnitude (negative : Bool) (b : Nat) : Float :=
  Float.ofBits (UInt64.ofNat ((if negative then 0x8000000000000000 else 0) + b))

/-- The magnitude of the infinities: the first that is not a finite number. -/
def infinityMagnitude : Nat :=
  0x7FF * 0x10000000000000

def infinity (negative : Bool) : Float :=
  ofMagnitude negative infinityMagnitude

def nan : Float :=
  Float.ofBits 0x7FF8000000000000

/-- The mantissa `m` of a magnitude that stands for `m · 2 ^ q`. Below `2 ^ 52` lie the zero and the
subnormal numbers, which have no implicit leading bit. -/
def mantissa (b : Nat) : Nat :=
  if b < 0x10000000000000 then b else 0x10000000000000 + b % 0x10000000000000

/-- The exponent `q` of a magnitude that stands for `m · 2 ^ q`. -/
def exponent (b : Nat) : Int :=
  if b < 0x10000000000000 then -1074 else (b / 0x10000000000000 : Nat) - 1075

/-! ## Fractions -/

/-- A positive fraction, or zero, as numerator and denominator. -/
structure Fraction where
  num : Nat
  den : Nat

/-- The fraction times `base ^ e`. -/
def Fraction.scaleBy (f : Fraction) (base : Nat) (e : Int) : Fraction :=
  ⟨f.num * base.pow e.toNat, f.den * base.pow (-e).toNat⟩

/-- The fraction `c · base ^ e`. -/
def Fraction.scaled (base c : Nat) (e : Int) : Fraction :=
  Fraction.scaleBy ⟨c, 1⟩ base e

/-- The number that a finite magnitude stands for. -/
def Fraction.ofMagnitude (b : Nat) : Fraction :=
  .scaled 2 (mantissa b) (exponent b)

/-- The nearest integer; a half goes to the even neighbour. -/
def Fraction.round (f : Fraction) : Nat :=
  let q := f.num / f.den
  let r := f.num % f.den
  if 2 * r < f.den then q
  else if f.den < 2 * r then q + 1
  else q + q % 2

/-- The largest `e` with `2 ^ e` at most the fraction, which is positive. The lengths of numerator and
denominator leave two candidates. -/
def Fraction.log2 (f : Fraction) : Int :=
  let e : Int := (f.num.log2 : Int) - f.den.log2
  if f.num * Nat.pow 2 (-e).toNat < f.den * Nat.pow 2 e.toNat then e - 1 else e

/-! ## Rounding to a double -/

/-- The magnitude of the double nearest to the fraction; a half goes to the even mantissa, and what
lies beyond the largest double by half a step or more goes to infinity. -/
def Fraction.toMagnitude (f : Fraction) : Nat :=
  if f.num = 0 then 0
  else
    let q := max (f.log2 - 52) (-1074)
    min ((q + 1074).toNat * 0x10000000000000 + (f.scaleBy 2 (-q)).round) infinityMagnitude

/-- The magnitude of the double nearest to `c · 10 ^ e`. Exponents far outside the range of the doubles
are answered without forming the power: from `10 ^ 400` on everything is infinite, and a fraction below
`10 ^ -400` is zero. -/
def decimalMagnitude (c : Nat) (e : Int) : Nat :=
  if c = 0 then 0
  else if 400 < e then infinityMagnitude
  else if e < -(400 + c.log2 : Int) then 0
  else (Fraction.scaled 10 c e).toMagnitude

/-- The double nearest to `± c · 10 ^ e`. -/
def ofDecimal (negative : Bool) (c : Nat) (e : Int) : Float :=
  ofMagnitude negative (decimalMagnitude c e)

end Reckon.Decimal
