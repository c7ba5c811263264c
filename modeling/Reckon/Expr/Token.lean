import Reckon.Decimal.Layout
import Reckon.Expr.BinOp

/-!
# Tokens

The words of an expression, and the text that each is shown as.
-/

namespace Reckon

inductive Token where
  | number (value : Float)
  /-- The free variable `x`. -/
  | var
  | op (o : BinOp)
  | opening
  | closing
deriving DecidableEq

namespace Token

/-- The token that a single character is, if it is one by itself. -/
def ofChar? (c : Char) : Option Token :=
  match c with
  | 'x' => some var
  | '(' => some opening
  | ')' => some closing
  | c => (BinOp.ofSymbol? c).map op

/-- A number is shown in plain digits, any other token as it is written. -/
def text : Token → String
  | number v => Decimal.plain v
  | var => "x"
  | op o => o.symbol.toString
  | opening => "("
  | closing => ")"

end Token

end Reckon
