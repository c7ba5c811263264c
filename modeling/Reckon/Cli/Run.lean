import Reckon.Cli.Arguments
import Reckon.Cli.Command
import Reckon.Cli.Filter
import Reckon.Cli.Overview

/-!
# Runs of the program

A run is a function of the command line, what stands on the input, and the filter that the environment asks
for. A command line that is not understood gives code 2; a failure gives code 1 and its message after the
records that are shown; success gives code 0 and the result.

Some words are not the program's own, and neither is the meaning of a pattern; a run takes them from outside.
-/

namespace Reckon.Cli

/-- What a run takes from outside. -/
structure Externals where
  /-- How a text fails to be JSON. -/
  syntaxError : String → String
  /-- What is said of a command line that is not understood. -/
  usageError : List String → UsageError → String
  /-- How the program is used, when a command line asks for that. -/
  help : List String → String
  /-- The texts in which a word is found as a pattern, if it is one. -/
  pattern : String → Option (String → Bool)

/-- Without words, and without patterns. -/
def Externals.silent : Externals :=
  ⟨fun _ => "", fun _ _ => "", fun _ => "", fun _ => none⟩

/-- What a run leaves behind. -/
structure Outcome where
  code : Nat
  stdout : String
  stderr : String
deriving DecidableEq, Repr

/-! ## Carrying out requests -/

/-- The text of a descriptor: that of the option, or else all of the input. The input is a pipe or a file;
a terminal, which is not read and counts as no input, is left out. -/
def descriptorText (option : Option String) (stdin : ByteArray) : Attempt Error String :=
  match option with
  | some text => return text
  | none =>
    match String.fromUTF8? stdin with
    | some text => return text
    | none => throw .notUtf8

/-- Reads the descriptor that a command works with, which is recorded as it is found. -/
def readDescriptor (option : Option String) (stdin : ByteArray) : Attempt Error Operation := do
  let text ← descriptorText option stdin
  Attempt.write ⟨.debug, "turbo_expr", "descriptor: " ++ Text.trimmed text⟩
  parseDescriptor text

/-- The result of a command as a line of output. -/
def print (pretty : Bool) (c : Command) : Attempt Error String := do
  let v ← c.execute
  return (if pretty then v.pretty else v.compact) ++ "\n"

/-- What a request writes to the output. -/
def Invocation.perform (i : Invocation) (stdin : ByteArray) : Attempt Error String :=
  match i.request with
  | .eval expression x => print i.pretty (.eval expression x)
  | .apply v descriptor => do print i.pretty (.apply (← readDescriptor descriptor stdin) v)
  | .test v descriptor => do print i.pretty (.test (← readDescriptor descriptor stdin) v)
  | .check expression => do
    check expression
    return "Syntax is valid\n"
  | .ops => return overview

/-- Whether a request reads the input. -/
def Request.readsInput : Request → Bool
  | .apply _ descriptor | .test _ descriptor => descriptor.isNone
  | _ => false

/-! ## Whole runs -/

/-- How a failure is reported, on a line. -/
def Error.report (e : Error) (outside : Externals) : String :=
  e.message outside.syntaxError ++ "\n"

/-- The filter that the environment asks for, or else a default that the flag lowers. -/
def filter (outside : Externals) (verbose : Bool) (environment : Option String) : Filter :=
  Filter.ofText outside.pattern (environment.getD (if verbose then "debug" else "warn"))

/-- The outcome of a command line that is understood. -/
def Invocation.outcome (i : Invocation) (outside : Externals) (stdin : ByteArray)
    (environment : Option String) : Outcome :=
  let attempt := i.perform stdin
  let shown := lines (filter outside i.verbose environment) attempt.log
  match attempt.outcome with
  | .ok out => ⟨0, out, shown⟩
  | .error e => ⟨1, "", shown ++ e.report outside⟩

/-- The name and version of the program. -/
def versionText : String :=
  "turbo-expr 0.1.0\n"

/-- The outcome of a command line that asks for no evaluation. -/
def Stop.outcome (outside : Externals) (args : List String) : Stop → Outcome
  | .usage e => ⟨2, "", outside.usageError args e⟩
  | .version => ⟨0, versionText, ""⟩
  | .help => ⟨0, outside.help args, ""⟩

/-- A whole run. -/
def run (outside : Externals) (args : List String) (stdin : ByteArray) (environment : Option String) : Outcome :=
  match Invocation.parse args with
  | .ok i => i.outcome outside stdin environment
  | .error stop => stop.outcome outside args

/-- Whether a run with these arguments reads the input. -/
def readsInput (args : List String) : Bool :=
  match Invocation.parse args with
  | .ok i => i.request.readsInput
  | .error _ => false

end Reckon.Cli
