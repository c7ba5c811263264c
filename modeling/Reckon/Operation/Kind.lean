/-!
# Kinds of operations

The named operations of a descriptor: arithmetic with the operand, two functions that ignore the
operand, and the comparisons. Each goes by a tag. Kinds that change a value hold of none;
comparison kinds hold of some values and leave every value as it is.
-/

namespace Reckon

/-- Arithmetic of a value and an operand. -/
inductive Arithmetic where
  | add | subtract | multiply | divide | power
deriving DecidableEq, Repr

namespace Arithmetic

def all : List Arithmetic :=
  [add, subtract, multiply, divide, power]

def tag : Arithmetic → String
  | add => "+"
  | subtract => "-"
  | multiply => "*"
  | divide => "/"
  | power => "^"

/-- What becomes of a value with the operand. -/
def apply : Arithmetic → Float → Float → Float
  | add, v, b => v + b
  | subtract, v, b => v - b
  | multiply, v, b => v * b
  | divide, v, b => v / b
  | power, v, b => v.pow b

end Arithmetic

inductive Comparison where
  | greater | less | greaterEqual | lessEqual | equal | notEqual
deriving DecidableEq, Repr

namespace Comparison

def all : List Comparison :=
  [greater, less, greaterEqual, lessEqual, equal, notEqual]

def tag : Comparison → String
  | greater => ">"
  | less => "<"
  | greaterEqual => ">="
  | lessEqual => "<="
  | equal => "=="
  | notEqual => "!="

/-- Two values are taken as equal when they are less than this apart. -/
def tolerance : Float := 1e-10

/-- Whether a value stands in the relation to the operand. Only equality and inequality allow for the
tolerance, and where the difference is no number neither of the two holds. -/
def holds : Comparison → Float → Float → Bool
  | greater, v, b => v > b
  | less, v, b => v < b
  | greaterEqual, v, b => v ≥ b
  | lessEqual, v, b => v ≤ b
  | equal, v, b => (v - b).abs < tolerance
  | notEqual, v, b => (v - b).abs ≥ tolerance

end Comparison

inductive Kind where
  | arithmetic (a : Arithmetic)
  | sqrt
  | abs
  | comparison (c : Comparison)
deriving DecidableEq, Repr

namespace Kind

def all : List Kind :=
  Arithmetic.all.map arithmetic ++ [sqrt, abs] ++ Comparison.all.map comparison

def tag : Kind → String
  | arithmetic a => a.tag
  | sqrt => "sqrt"
  | abs => "abs"
  | comparison c => c.tag

/-- The kind with exactly this tag. -/
def ofTag? (tag : String) : Option Kind :=
  all.find? fun k => k.tag == tag

theorem ofTag?_tag (k : Kind) : ofTag? k.tag = some k := by
  rcases k with a | _ | _ | c
  · cases a <;> decide
  · decide
  · decide
  · cases c <;> decide

/-- The value that a kind with an operand makes of a value. -/
def apply (operand : Float) (value : Float) : Kind → Float
  | arithmetic a => a.apply value operand
  | sqrt => value.sqrt
  | abs => value.abs
  | comparison _ => value

/-- Whether a kind with an operand holds of a value. -/
def holds (operand : Float) (value : Float) : Kind → Bool
  | comparison c => c.holds value operand
  | _ => false

end Kind

end Reckon
