import Reckon.Decimal.Shortest

/-!
# Layouts of numbers

How the digits of a double become text. What differs from one form of output to another is collected in a
`Layout`; the digits are the shortest that read back in all of them.
-/

namespace Reckon.Decimal

/-- The choices of one form of output. -/
structure Layout where
  /-- Which of two equally close texts is taken. -/
  tie : Tie
  /-- Whether a number whose first digit stands for `10 ^ e` is written without an exponent. -/
  isPositional : Int → Bool
  /-- What follows the digits of a whole number that is written without an exponent. -/
  wholeEnd : List Char

/-- Digits around a point, with zeros on either side where the number needs them. -/
def Layout.positional (l : Layout) (d : Digits) : List Char :=
  if d.exponent < 0 then
    ['0', '.'] ++ List.replicate (-d.exponent - 1).toNat '0' ++ d.digits
  else
    let n := d.exponent.toNat + 1
    if d.digits.length ≤ n then
      d.digits ++ List.replicate (n - d.digits.length) '0' ++ l.wholeEnd
    else
      d.digits.take n ++ '.' :: d.digits.drop n

/-- The first digit, a point if more digits follow, and the exponent with its sign. -/
def scientific (d : Digits) : List Char :=
  let point := if 1 < d.digits.length then ['.'] else []
  let sign := if d.exponent < 0 then '-' else '+'
  d.digits.take 1 ++ point ++ d.digits.drop 1 ++ ['e', sign] ++ Nat.toDigits 10 d.exponent.natAbs

/-- The text of a finite magnitude. -/
def Layout.ofMagnitude (l : Layout) (b : Nat) : List Char :=
  if b = 0 then '0' :: l.wholeEnd
  else
    let d := shortest l.tie b
    if l.isPositional d.exponent then l.positional d else scientific d

/-- The text of a finite double; a zero keeps its sign. -/
def Layout.ofFinite (l : Layout) (x : Float) : List Char :=
  (if isNegative x then ['-'] else []) ++ l.ofMagnitude (magnitude x)

/-- The plain layout: never an exponent, and nothing after a whole number. -/
def Layout.plain : Layout :=
  ⟨.up, fun _ => true, []⟩

/-- The plain text of any double. -/
def plain (x : Float) : String :=
  if x.isNaN then "NaN"
  else if x.isInf then (if isNegative x then "-inf" else "inf")
  else String.ofList (Layout.plain.ofFinite x)

end Reckon.Decimal
