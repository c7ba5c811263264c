import Reckon.Decimal.Layout

/-!
# JSON values

A number is kept as the integer that is written, if it is one of 64 bits with or without a sign, and as a
finite double otherwise; the two are told apart by all that follows. The members of an object are kept in
the order of their keys, by code point, and of several members with one key only the last is kept.
-/

namespace Reckon

/-- A JSON number. -/
inductive Number where
  | integer (n : Int) (fits : -0x8000000000000000 ≤ n ∧ n < 0x10000000000000000)
  | double (x : Float) (finite : x.isFinite = true)
deriving DecidableEq

namespace Number

/-- The double nearest to the number. -/
def toFloat : Number → Float
  | integer n _ => Decimal.ofDecimal (n < 0) n.natAbs 0
  | double x _ => x

/-- Doubles are written without an exponent from `10 ^ -5` up to below `10 ^ 16`, and always with a point
or an exponent, which tells them from the integers. -/
def layout : Decimal.Layout :=
  ⟨.toEven, fun e => -5 ≤ e && e ≤ 15, ['.', '0']⟩

def text : Number → List Char
  | integer n _ => (if n < 0 then ['-'] else []) ++ Nat.toDigits 10 n.natAbs
  | double x _ => layout.ofFinite x

end Number

/-- A JSON value without parts. -/
inductive Scalar where
  | null
  | bool (b : Bool)
  | number (n : Number)
  | string (s : String)
deriving DecidableEq

/-- A JSON value. -/
inductive Json where
  | scalar (v : Scalar)
  | array (elements : List Json)
  | object (members : List (String × Json))

namespace Json

@[match_pattern] abbrev null : Json := scalar .null

@[match_pattern] abbrev bool (b : Bool) : Json := scalar (.bool b)

@[match_pattern] abbrev number (n : Number) : Json := scalar (.number n)

@[match_pattern] abbrev string (s : String) : Json := scalar (.string s)

/-- Puts a member into a list that is in the order of its keys, in place of one with the same key. -/
def insertMember (key : String) (v : Json) : List (String × Json) → List (String × Json)
  | [] => [(key, v)]
  | (k, w) :: rest =>
    if key < k then (key, v) :: (k, w) :: rest
    else if key = k then (key, v) :: rest
    else (k, w) :: insertMember key v rest

/-- The object with the members of a list; the last one of a key counts. -/
def ofMembers (members : List (String × Json)) : Json :=
  object (members.foldl (fun ms m => insertMember m.1 m.2 ms) [])

/-- The value of a key of an object; a value that is no object has no keys. -/
def get? (v : Json) (key : String) : Option Json :=
  match v with
  | object members => members.lookup key
  | _ => none

/-- The value of a key that is *set*: present and not null. -/
def getSet? (v : Json) (key : String) : Option Json :=
  (v.get? key).filter fun
    | null => false
    | _ => true

/-- A number as a JSON value. The infinities and not-a-number have no JSON number and are given by
name. -/
def ofFloat (x : Float) : Json :=
  if h : x.isFinite = true then number (.double x h)
  else if x.isNaN then string "NaN"
  else if x > 0 then string "Infinity"
  else string "-Infinity"

end Json

end Reckon
