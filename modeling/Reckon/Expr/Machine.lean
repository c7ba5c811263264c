import Reckon.Expr.Lexer

/-!
# The evaluation of tokens

Tokens are evaluated as they come, on two stacks: values, and the operators and open parentheses that wait
for what follows. A waiting operator is carried out as soon as an operator arrives that does not bind more
strongly, or a closing parenthesis, or the end. An open parenthesis binds less than any operator, so that
nothing is carried out across it.

Whether an operand or an operator has to come next is part of the state, and a token of the wrong sort is
refused where it stands.
-/

namespace Reckon

/-- Why a text is not an expression. -/
inductive Fault where
  | lexical (e : LexError)
  | operandExpected (found : Token)
  | operatorExpected (found : Token)
  | unmatchedClosing
  | unmatchedOpening
  | missingOperand (o : BinOp)
  | noValue
  /-- An operator was to be carried out and none was waiting. -/
  | operatorUnderflow
  /-- An operator was to be carried out on fewer than two values. -/
  | operandUnderflow (o : BinOp)
  /-- Other than one value was left at the end. -/
  | valuesLeft (count : Nat)
deriving DecidableEq

namespace Fault

def message : Fault → String
  | lexical e => e.message
  | operandExpected t => "expected an operand, found '" ++ t.text ++ "'"
  | operatorExpected t => "expected an operator, found '" ++ t.text ++ "'"
  | unmatchedClosing => "unmatched ')'"
  | unmatchedOpening => "unmatched '('"
  | missingOperand o | operandUnderflow o => "missing operand for '" ++ o.symbol.toString ++ "'"
  | noValue => "no value"
  | operatorUnderflow => "operator stack underflow"
  | valuesLeft n => "expected one value, found " ++ toString n

end Fault

/-- What waits on the operator stack. -/
inductive Pending where
  | opened
  | op (o : BinOp)
deriving DecidableEq, Repr

def Pending.precedence : Pending → Nat
  | opened => 0
  | op o => o.precedence

/-! ## The two stacks -/

/-- The two stacks, their tops first. -/
structure Stacks where
  values : List Float
  ops : List Pending
deriving DecidableEq

namespace Stacks

/-- Carries out the operator on top: the upper value is its right operand. -/
def reduce : Stacks → Except Fault Stacks
  | ⟨b :: a :: values, .op o :: ops⟩ => .ok ⟨o.apply a b :: values, ops⟩
  | ⟨_, .op o :: _⟩ => .error (.operandUnderflow o)
  | _ => .error .operatorUnderflow

theorem length_ops_reduce {s s' : Stacks} (h : s.reduce = .ok s') :
    s.ops.length = s'.ops.length + 1 := by
  unfold reduce at h
  split at h <;> simp at h
  rw [← h]
  rfl

/-- Carries out the operators on top as long as what waits passes the test. -/
def reduceWhile (test : Pending → Bool) (s : Stacks) : Except Fault Stacks :=
  match s.ops with
  | [] => .ok s
  | top :: _ =>
    if test top then
      match h : s.reduce with
      | .error e => .error e
      | .ok s' =>
        have := length_ops_reduce h
        s'.reduceWhile test
    else .ok s
termination_by s.ops.length

def pushValue (s : Stacks) (v : Float) : Stacks :=
  ⟨v :: s.values, s.ops⟩

def pushPending (s : Stacks) (p : Pending) : Stacks :=
  ⟨s.values, p :: s.ops⟩

/-- An operator first has everything carried out that binds at least as strongly. -/
def pushOp (s : Stacks) (o : BinOp) : Except Fault Stacks := do
  let s ← s.reduceWhile fun p => o.precedence ≤ p.precedence
  return s.pushPending (.op o)

/-- A closing parenthesis carries out everything down to its opening one. -/
def close (s : Stacks) : Except Fault Stacks := do
  let s ← s.reduceWhile (· != .opened)
  match s.ops with
  | [] => throw .unmatchedClosing
  | _ :: ops => return ⟨s.values, ops⟩

/-- The one value that is left when everything is carried out. -/
def result (s : Stacks) : Except Fault Float := do
  let s ← s.reduceWhile (· != .opened)
  match s.ops, s.values with
  | _ :: _, _ => throw .unmatchedOpening
  | [], [v] => return v
  | [], vs => throw (.valuesLeft vs.length)

end Stacks

/-! ## Steps -/

/-- The stacks, and whether an operand has to come next. -/
structure Machine extends Stacks where
  expectsOperand : Bool
deriving DecidableEq

namespace Machine

/-- The state before the first token. -/
def start : Machine :=
  ⟨⟨[], []⟩, true⟩

/-- Takes one token, with the variable standing for `x`. -/
def step (x : Float) (m : Machine) (t : Token) : Except Fault Machine :=
  match t, m.expectsOperand with
  | .number v, true => return ⟨m.toStacks.pushValue v, false⟩
  | .var, true => return ⟨m.toStacks.pushValue x, false⟩
  | .opening, true => return ⟨m.toStacks.pushPending .opened, true⟩
  | .closing, false => return ⟨← m.toStacks.close, false⟩
  | .op o, false => return ⟨← m.toStacks.pushOp o, true⟩
  | t, true => throw (.operandExpected t)
  | t, false => throw (.operatorExpected t)

/-- Takes tokens one after the other, up to the first fault. -/
def steps (x : Float) (m : Machine) (ts : List Token) : Except Fault Machine :=
  ts.foldlM (step x) m

/-- The value at the end of the tokens. -/
def finish (m : Machine) : Except Fault Float :=
  if m.expectsOperand then
    match m.ops with
    | .op o :: _ => throw (.missingOperand o)
    | .opened :: _ => throw .unmatchedOpening
    | [] => throw .noValue
  else m.toStacks.result

end Machine

end Reckon
