import Reckon.Expr.Evaluate
import Reckon.Operation.Basic

/-!
# Carrying out operations

An operation turns a value into another, or holds of it or not. Only an expression can fail, by being
malformed.
-/

namespace Reckon.Operation

/-- The value that an operation makes of a value. -/
def apply (o : Operation) (v : Float) : Attempt Malformed Float :=
  match o.action with
  | .expression text => Expr.evaluate text v
  | .structured kind operand => return kind.elim v (·.apply operand v)

/-- Whether an operation holds of a value. An expression holds when its value is not zero, which
not-a-number is not. -/
def test (o : Operation) (v : Float) : Attempt Malformed Bool :=
  match o.action with
  | .expression text => return (← Expr.evaluate text v) != 0
  | .structured kind operand => return kind.elim false (·.holds operand v)

end Reckon.Operation
