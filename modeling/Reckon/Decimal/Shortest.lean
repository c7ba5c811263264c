import Reckon.Decimal.Binary

/-!
# Shortest decimal digits

The fewest decimal digits that read back as the same double, and of these the closest to it. For one
digit, two digits and so on the double has two neighbours on the grid of the numbers with that many
digits; the first grid with a neighbour that reads back wins. The whole binary value of a double has a
finite decimal expansion, which reads back in any case.
-/

namespace Reckon.Decimal

/-- A positive number in digits: `d₁.d₂d₃… · 10 ^ exponent`. -/
structure Digits where
  digits : List Char
  exponent : Int
deriving DecidableEq, Repr

/-- The digits of `c · 10 ^ e`, without the zeros at the end. -/
def Digits.ofScaled (c : Nat) (e : Int) : Digits :=
  let ds := Nat.toDigits 10 c
  ⟨(ds.reverse.dropWhile (· == '0')).reverse, e + ds.length - 1⟩

/-- The largest `e` with `10 ^ e` at most the fraction, which is positive. -/
def Fraction.log10 (f : Fraction) : Int :=
  if f.den ≤ f.num then
    (Nat.toDigits 10 (f.num / f.den)).length - 1
  else
    -(Nat.toDigits 10 ((f.den - 1) / f.num)).length

/-- Which of two neighbours is taken when both are equally close. -/
inductive Tie where
  | toEven
  | up
deriving DecidableEq, Repr

/-- The two neighbours of the fraction among the multiples of `10 ^ e`, in units of it, the one to be
preferred first. -/
def Fraction.neighbours (f : Fraction) (tie : Tie) (e : Int) : List Nat :=
  let g := f.scaleBy 10 (-e)
  let below := g.num / g.den
  let twice := 2 * (g.num % g.den)
  if twice < g.den || (twice == g.den && tie == .toEven && below % 2 == 0) then
    [below, below + 1]
  else
    [below + 1, below]

/-- The neighbour among the multiples of `10 ^ e` that reads back as the magnitude `b`, if there is
one. -/
def onGrid? (tie : Tie) (b : Nat) (e : Int) : Option Digits :=
  ((Fraction.ofMagnitude b).neighbours tie e).find? (fun c => decimalMagnitude c e == b)
    |>.map fun c => .ofScaled c e

/-- The whole decimal expansion: `m · 2 ^ q` is `m · 5 ^ -q · 10 ^ q` when `q` is negative. -/
def exactDigits (b : Nat) : Digits :=
  let q := exponent b
  .ofScaled (mantissa b * Nat.pow 2 q.toNat * Nat.pow 5 (-q).toNat) (min q 0)

/-- The shortest digits of a positive finite magnitude. Seventeen digits tell any two doubles apart. -/
def shortest (tie : Tie) (b : Nat) : Digits :=
  let first := (Fraction.ofMagnitude b).log10
  let found := (List.range 17).findSome? fun (n : Nat) => onGrid? tie b (first - n)
  found.getD (exactDigits b)

end Reckon.Decimal
