import Reckon.Expr.Machine
import Reckon.Log
import Reckon.Text.Quoted

/-!
# The value of an expression

An expression is read into tokens first and evaluated then, so that a text with an unreadable token is
refused for this token, whatever is wrong before it.

An evaluator takes the steps of the machine and refuses the expression where one of them cannot be taken.
Each refusal is recorded on the spot, with the expression and the reason that the error carries.
`Expr.value` is the same without the records.
-/

namespace Reckon

namespace Expr

/-- The tokens of a whole expression evaluated with the variable standing for `x`. -/
def evaluateTokens (x : Float) (ts : List Token) : Except Fault Float := do
  (← Machine.start.steps x ts).finish

/-- The value of an expression, or what is wrong with it. -/
def value (expression : String) (x : Float) : Except Fault Float := do
  evaluateTokens x (← (tokenize expression).mapError .lexical)

end Expr

/-- An expression that was refused. -/
structure Malformed where
  expression : String
  fault : Fault
deriving DecidableEq

namespace Malformed

def reason (e : Malformed) : String :=
  e.fault.message

def message (e : Malformed) : String :=
  "malformed expression '" ++ e.expression ++ "': " ++ e.reason

/-- The record of a refusal. -/
def record (e : Malformed) : Record :=
  ⟨.debug, "turbo_expr::evaluator",
    "rejecting expression " ++ Text.quoted e.expression ++ ": " ++ e.reason⟩

end Malformed

/-! ## Evaluators -/

/-- What stays the same while an expression is evaluated: its text, and what the variable stands for. -/
structure Evaluator where
  expression : String
  x : Float

namespace Evaluator

/-- Refuses the expression and records that. -/
def refuse (ev : Evaluator) (fault : Fault) : Attempt Malformed α := do
  let e : Malformed := ⟨ev.expression, fault⟩
  Attempt.write e.record
  throw e

/-- Carries out the operator on top, after which fewer of them wait. -/
def reduce (ev : Evaluator) (s : Stacks) :
    Attempt Malformed { s' : Stacks // s'.ops.length < s.ops.length } :=
  match s with
  | ⟨b :: a :: values, .op o :: ops⟩ => return ⟨⟨o.apply a b :: values, ops⟩, Nat.lt_succ_self ops.length⟩
  | ⟨_, .op o :: _⟩ => ev.refuse (.operandUnderflow o)
  | _ => ev.refuse .operatorUnderflow

/-- Carries out the operators on top as long as what waits passes the test. -/
def reduceWhile (ev : Evaluator) (test : Pending → Bool) (s : Stacks) : Attempt Malformed Stacks :=
  match s.ops with
  | [] => return s
  | top :: _ =>
    if test top then do
      let ⟨s', _⟩ ← ev.reduce s
      ev.reduceWhile test s'
    else return s
termination_by s.ops.length

def pushOp (ev : Evaluator) (s : Stacks) (o : BinOp) : Attempt Malformed Stacks := do
  let s ← ev.reduceWhile (fun p => o.precedence ≤ p.precedence) s
  return s.pushPending (.op o)

def close (ev : Evaluator) (s : Stacks) : Attempt Malformed Stacks := do
  let s ← ev.reduceWhile (· != .opened) s
  match s.ops with
  | [] => ev.refuse .unmatchedClosing
  | _ :: ops => return ⟨s.values, ops⟩

/-- The one value that is left when everything is carried out. -/
def result (ev : Evaluator) (s : Stacks) : Attempt Malformed Float := do
  let s ← ev.reduceWhile (· != .opened) s
  match s.ops, s.values with
  | _ :: _, _ => ev.refuse .unmatchedOpening
  | [], [v] => return v
  | [], vs => ev.refuse (.valuesLeft vs.length)

/-- Takes one token. -/
def step (ev : Evaluator) (m : Machine) (t : Token) : Attempt Malformed Machine :=
  match t, m.expectsOperand with
  | .number v, true => return ⟨m.toStacks.pushValue v, false⟩
  | .var, true => return ⟨m.toStacks.pushValue ev.x, false⟩
  | .opening, true => return ⟨m.toStacks.pushPending .opened, true⟩
  | .closing, false => return ⟨← ev.close m.toStacks, false⟩
  | .op o, false => return ⟨← ev.pushOp m.toStacks o, true⟩
  | t, true => ev.refuse (.operandExpected t)
  | t, false => ev.refuse (.operatorExpected t)

/-- Takes tokens one after the other, up to the first refusal. -/
def steps (ev : Evaluator) (m : Machine) (ts : List Token) : Attempt Malformed Machine :=
  ts.foldlM ev.step m

/-- The value at the end of the tokens. -/
def finish (ev : Evaluator) (m : Machine) : Attempt Malformed Float :=
  if m.expectsOperand then
    match m.ops with
    | .op o :: _ => ev.refuse (.missingOperand o)
    | .opened :: _ => ev.refuse .unmatchedOpening
    | [] => ev.refuse .noValue
  else ev.result m.toStacks

/-- The tokens of the expression. -/
def tokens (ev : Evaluator) : Attempt Malformed (List Token) :=
  match tokenize ev.expression with
  | .ok ts => return ts
  | .error e => ev.refuse (.lexical e)

/-- The value of the expression. -/
def eval (ev : Evaluator) : Attempt Malformed Float := do
  let ts ← ev.tokens
  let m ← ev.steps Machine.start ts
  ev.finish m

end Evaluator

namespace Expr

/-- The record of a request to evaluate an expression. -/
def evaluating (expression : String) (x : Float) : Record :=
  ⟨.trace, "turbo_expr::evaluator",
    "evaluating " ++ Text.quoted expression ++ " with x = " ++ Decimal.plain x⟩

/-- Evaluates an expression and records a refusal. -/
def run (expression : String) (x : Float) : Attempt Malformed Float :=
  Evaluator.eval ⟨expression, x⟩

/-- Evaluates an expression; the request is recorded as well. -/
def evaluate (expression : String) (x : Float) : Attempt Malformed Float := do
  Attempt.write (evaluating expression x)
  run expression x

end Expr

end Reckon
