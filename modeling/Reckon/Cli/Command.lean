import Reckon.Operation.Decode
import Reckon.Operation.Perform

/-!
# Commands

What the program can be asked to evaluate, and how it can fail.
-/

namespace Reckon.Cli

inductive Error where
  | evaluation (e : Malformed)
  | descriptor (e : DecodeError)
  /-- The input is not UTF-8. -/
  | notUtf8
  /-- There is no text where a descriptor is asked for. -/
  | noInput

def Error.message (syntaxError : String → String) : Error → String
  | evaluation e => "Evaluation error: " ++ e.message
  | descriptor e => "Descriptor error: " ++ e.message syntaxError
  | notUtf8 => "IO error: stream did not contain valid UTF-8"
  | noInput => "No operation provided. Use --op or pipe a JSON descriptor to stdin."

/-- Reads a descriptor from a text, which may have blanks of any sort around it. -/
def parseDescriptor (text : String) : Attempt Error Operation :=
  let text := Text.trimmed text
  if text.isEmpty then throw .noInput
  else (Operation.parse text).mapError .descriptor

/-- An evaluation on behalf of a user. -/
inductive Command where
  | eval (expression : String) (x : Float)
  | apply (o : Operation) (v : Float)
  | test (o : Operation) (v : Float)

/-- The result of a command. -/
def Command.execute : Command → Attempt Error Json
  | eval expression x => Json.ofFloat <$> (Expr.evaluate expression x).mapError .evaluation
  | apply o v => Json.ofFloat <$> (o.apply v).mapError .evaluation
  | test o v => Json.bool <$> (o.test v).mapError .evaluation

/-- Fails for an expression that is malformed. No value is asked for: what is well formed does not hang
on the value of the variable. -/
def check (expression : String) : Attempt Error Unit :=
  (fun _ => ()) <$> (Expr.evaluate expression 0).mapError .evaluation

end Reckon.Cli
