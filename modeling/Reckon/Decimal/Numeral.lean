import Reckon.Decimal.Binary

/-!
# Reading numbers

A *numeral* is what is written of an unsigned number: digits, a point with digits after it, and an
exponent, of which only one digit on either side of the point is required. It stands for the double
nearest to the number it spells. `ofText?` reads the numbers that a caller hands over as text, where
a sign and the names of the infinities and of not-a-number are allowed as well.
-/

namespace Reckon.Decimal

/-- The parts of an unsigned numeral as they are written. -/
structure Numeral where
  whole : List Char
  /-- The digits after the point; `none` when there is no point. -/
  fraction : Option (List Char)
  /-- The exponent; `none` when there is no exponent mark. -/
  exponent : Option Int
deriving DecidableEq, Repr

namespace Numeral

/-- The digits on both sides of the point. -/
def digits (n : Numeral) : List Char :=
  n.whole ++ n.fraction.getD []

/-- The number without its point: it spells `coefficient · 10 ^ scale`. -/
def coefficient (n : Numeral) : Nat :=
  Nat.ofDigitChars 10 n.digits 0

def scale (n : Numeral) : Int :=
  n.exponent.getD 0 - (n.fraction.getD []).length

/-- The double nearest to the number with the given sign. -/
def toFloat (n : Numeral) (negative : Bool) : Float :=
  ofDecimal negative n.coefficient n.scale

end Numeral

/-- Takes a sign off the front; it is `true` for a minus. -/
def splitSign : List Char → Bool × List Char
  | '-' :: cs => (true, cs)
  | '+' :: cs => (false, cs)
  | cs => (false, cs)

/-- What follows an exponent mark: a sign and one or more digits, up to the end. -/
def readExponent? (cs : List Char) : Option Int :=
  let (negative, ds) := splitSign cs
  if ds.isEmpty || !ds.all Char.isDigit then none
  else
    let n : Int := Nat.ofDigitChars 10 ds 0
    some (if negative then -n else n)

/-- The end of a numeral whose digits are already read. -/
def Numeral.finish? (whole : List Char) (fraction : Option (List Char)) :
    List Char → Option Numeral
  | [] => some ⟨whole, fraction, none⟩
  | c :: cs =>
    if c == 'e' || c == 'E' then (readExponent? cs).map fun e => ⟨whole, fraction, some e⟩
    else none

/-- Reads a whole text as a numeral. -/
def Numeral.read? (cs : List Char) : Option Numeral :=
  let whole := cs.takeWhile Char.isDigit
  let parsed :=
    match cs.dropWhile Char.isDigit with
    | '.' :: rest => finish? whole (some (rest.takeWhile Char.isDigit)) (rest.dropWhile Char.isDigit)
    | rest => finish? whole none rest
  parsed.filter fun n => !n.digits.isEmpty

/-- The numbers that have names, in any mixture of cases. -/
def named? (negative : Bool) (cs : List Char) : Option Float :=
  let name := String.ofList (cs.map Char.toLower)
  if name == "inf" || name == "infinity" then some (infinity negative)
  else if name == "nan" then some nan
  else none

/-- Reads a whole text as a number: a sign or none, then a numeral or a name. -/
def ofChars? (cs : List Char) : Option Float :=
  let (negative, rest) := splitSign cs
  match Numeral.read? rest with
  | some n => some (n.toFloat negative)
  | none => named? negative rest

/-- Reads a whole text as a number. -/
def ofText? (s : String) : Option Float :=
  ofChars? s.toList

end Reckon.Decimal
