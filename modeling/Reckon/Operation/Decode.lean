import Reckon.Json.Printer
import Reckon.Json.Reader
import Reckon.Log
import Reckon.Operation.Basic
import Reckon.Text.Quoted

/-!
# Descriptors

An operation is described by a JSON object with the optional keys `op`, `value`, `field` and `expr`; a null
counts as absent, and other keys are not looked at. Each of the four has to have its type whether it is needed
or not. An expression that is not empty wins over kind and operand. A tag that no kind has describes the
identity, which is recorded.
-/

namespace Reckon

/-- The type that a key asks for. -/
inductive Expected where
  | string | number
deriving DecidableEq, Repr

def Expected.text : Expected → String
  | string => "a string"
  | number => "f64"

/-- Why a descriptor describes no operation. -/
inductive DecodeError where
  | notJson (text : String)
  | notAnObject (found : Json)
  | wrongType (found : Json) (expected : Expected)

/-- How a value of the wrong type is named: small values with their text, large ones by their type. -/
def Json.description : Json → String
  | null => "null"
  | bool b => "boolean `" ++ (if b then "true" else "false") ++ "`"
  | number (.integer n h) => "integer `" ++ String.ofList (Number.integer n h).text ++ "`"
  | number (.double x h) => "floating point `" ++ String.ofList (Number.double x h).text ++ "`"
  | string s => "string " ++ Text.quoted s
  | array _ => "sequence"
  | object _ => "map"

namespace DecodeError

/-- What is wrong. In which way a text fails to be JSON is not settled here, and its wording is asked
for. -/
def reason (syntaxError : String → String) : DecodeError → String
  | notJson text => syntaxError text
  | notAnObject v => "expected an object, found " ++ v.compact
  | wrongType v e => "invalid type: " ++ v.description ++ ", expected " ++ e.text

def message (syntaxError : String → String) (e : DecodeError) : String :=
  "invalid operation descriptor: " ++ e.reason syntaxError

end DecodeError

/-! ## The four keys -/

/-- A key that is absent, or set to a string. -/
def Json.stringKey (v : Json) (key : String) : Except DecodeError (Option String) :=
  match v.getSet? key with
  | none => .ok none
  | some (.string s) => .ok (some s)
  | some found => .error (.wrongType found .string)

/-- A key that is absent, or set to a number. -/
def Json.numberKey (v : Json) (key : String) : Except DecodeError (Option Float) :=
  match v.getSet? key with
  | none => .ok none
  | some (.number n) => .ok (some n.toFloat)
  | some found => .error (.wrongType found .number)

/-- A descriptor with its types checked. -/
structure Descriptor where
  expr : Option String
  field : Option String
  op : Option String
  value : Option Float

/-- Of several keys with wrong types the first in the order of this function is reported. -/
def Descriptor.ofJson (v : Json) : Except DecodeError Descriptor :=
  match v with
  | .object _ => do
    let expr ← v.stringKey "expr"
    let field ← v.stringKey "field"
    let op ← v.stringKey "op"
    let value ← v.numberKey "value"
    return ⟨expr, field, op, value⟩
  | v => .error (.notAnObject v)

/-! ## From keys to operations -/

/-- The record of a tag that no kind has. -/
def unrecognized (tag : String) : Record :=
  ⟨.debug, "turbo_expr::ast::operation",
    "unrecognized operation kind " ++ Text.quoted tag ++ ", falling back to identity"⟩

/-- The kind that a tag names; a tag that is absent or empty names none and is not worth a record. -/
def Descriptor.kind (d : Descriptor) : Logged (Option Kind) :=
  match d.op.filter (!·.isEmpty) with
  | none => return none
  | some tag =>
    match Kind.ofTag? tag with
    | some k => return some k
    | none => do
      Logged.write (unrecognized tag)
      return none

def Descriptor.operation (d : Descriptor) : Logged Operation :=
  match d.expr.filter (!·.isEmpty) with
  | some text => return ⟨.expression text, d.field⟩
  | none => return ⟨.structured (← d.kind) (d.value.getD 0), d.field⟩

namespace Operation

/-- The operation that a JSON value describes. -/
def ofJson (v : Json) : Attempt DecodeError Operation := do
  let d ← Descriptor.ofJson v
  ExceptT.lift d.operation

/-- The operation that a JSON text describes. -/
def parse (s : String) : Attempt DecodeError Operation :=
  match Json.parse? s with
  | none => throw (.notJson s)
  | some v => ofJson v

end Operation

end Reckon
