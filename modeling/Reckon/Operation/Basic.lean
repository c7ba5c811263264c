import Reckon.Operation.Kind

/-!
# Operations

An operation does something to one value: either a named kind with an operand, or an expression in
which the value is the variable. It may carry a label, which no evaluation looks at.
-/

namespace Reckon

/-- What an operation does. -/
inductive Action where
  /-- A named kind; without one, the identity, which holds of no value. -/
  | structured (kind : Option Kind) (operand : Float)
  | expression (text : String)
deriving BEq

structure Operation where
  action : Action
  /-- A label for whoever uses the operation. -/
  field : Option String
deriving BEq

namespace Operation

/-- Leaves every value as it is and holds of none. -/
def identity : Operation :=
  ⟨.structured none 0, none⟩

instance : Inhabited Operation :=
  ⟨identity⟩

def structured (kind : Kind) (operand : Float) : Operation :=
  ⟨.structured (some kind) operand, none⟩

/-- An expression without any text is the identity. -/
def expression (text : String) : Operation :=
  if text.isEmpty then identity else ⟨.expression text, none⟩

def withField (o : Operation) (label : String) : Operation :=
  { o with field := some label }

/-- One step of putting an operation together. All but the labelling start anew. -/
inductive Construction where
  | identity
  | default
  | structured (kind : Kind) (operand : Float)
  | expression (text : String)
  | withField (label : String)

def construct (o : Operation) : Construction → Operation
  | .identity => identity
  | .default => default
  | .structured kind operand => structured kind operand
  | .expression text => expression text
  | .withField label => o.withField label

end Operation

end Reckon
