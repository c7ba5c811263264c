/-!
# Binary operators

The five operators on doubles. All of them group to the left, the power included; they differ in how
strongly they bind.
-/

namespace Reckon

inductive BinOp where
  | add | subtract | multiply | divide | power
deriving DecidableEq, Repr

namespace BinOp

def all : List BinOp :=
  [add, subtract, multiply, divide, power]

def symbol : BinOp → Char
  | add => '+'
  | subtract => '-'
  | multiply => '*'
  | divide => '/'
  | power => '^'

def ofSymbol? (c : Char) : Option BinOp :=
  all.find? fun o => o.symbol == c

/-- How strongly an operator binds: the power before product and quotient, these before sum and
difference. -/
def precedence : BinOp → Nat
  | add | subtract => 1
  | multiply | divide => 2
  | power => 3

/-- The operation on doubles. Division by zero and powers outside the real numbers have the infinities
and not-a-number as their results. -/
def apply : BinOp → Float → Float → Float
  | add, a, b => a + b
  | subtract, a, b => a - b
  | multiply, a, b => a * b
  | divide, a, b => a / b
  | power, a, b => Float.pow a b

end BinOp

end Reckon
