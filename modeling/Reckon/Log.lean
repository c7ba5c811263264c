/-!
# Log records

What a computation reports beside its result. A `Logged` computation carries its records, in the order in
which they were written, so that a caller may show them, filter them or drop them without touching the
result.
-/

namespace Reckon

/-- How important a record is, the most important first. -/
inductive Level where
  | error | warn | info | debug | trace
deriving DecidableEq, Repr

namespace Level

/-- The levels from the most important on. -/
def all : List Level :=
  [error, warn, info, debug, trace]

/-- Larger for what is shown only when more is asked for. -/
def verbosity : Level → Nat
  | error => 1
  | warn => 2
  | info => 3
  | debug => 4
  | trace => 5

def name : Level → String
  | error => "ERROR"
  | warn => "WARN"
  | info => "INFO"
  | debug => "DEBUG"
  | trace => "TRACE"

end Level

/-- One record: how important it is, which part of the program reports it, and what it reports. -/
structure Record where
  level : Level
  target : String
  text : String
deriving DecidableEq, Repr

/-- A result with the records written on the way to it. -/
structure Logged (α : Type) where
  value : α
  log : List Record

namespace Logged

instance : Monad Logged where
  pure a := ⟨a, []⟩
  bind m f := ⟨(f m.value).value, m.log ++ (f m.value).log⟩

/-- Writes one record. -/
def write (r : Record) : Logged Unit :=
  ⟨(), [r]⟩

end Logged

/-- A logged computation that may fail; what it wrote before failing is kept. -/
abbrev Attempt (ε α : Type) :=
  ExceptT ε Logged α

/-- Writes one record in the course of an attempt. -/
def Attempt.write (r : Record) : Attempt ε Unit :=
  ExceptT.lift (Logged.write r)

/-- What became of an attempt. -/
def Attempt.outcome (a : Attempt ε α) : Except ε α :=
  a.run.value

/-- What an attempt wrote. -/
def Attempt.log (a : Attempt ε α) : List Record :=
  a.run.log

/-- The same attempt with its error seen from outside. -/
def Attempt.mapError (f : ε → ε') (a : Attempt ε α) : Attempt ε' α :=
  ExceptT.mk ⟨a.outcome.mapError f, a.log⟩

end Reckon
