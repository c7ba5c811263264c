import Reckon.Decimal.Numeral

/-!
# Command lines

A command line is a list of flags, the name of a command, and what the command takes: at most one positional
argument and at most one option with a value, together with the flags again, in any order. A value may follow
its option, or be attached to it with or without an equality sign; short flags may be joined; a double hyphen ends
flags and options. Where a number is asked for it may begin with a hyphen, and then what begins with a hyphen and
names no flag is taken as the number.
-/

namespace Reckon.Cli

/-- Why a command line is not understood. -/
inductive UsageError where
  | unknownArgument (text : String)
  | repeatedArgument (name : String)
  | unexpectedArgument (text : String)
  | unexpectedValue (name : String)
  | missingValue (name : String)
  | missingArgument
  | notANumber (text : String)
  | missingCommand
deriving DecidableEq, Repr

/-- What ends the reading of a command line early. -/
inductive Stop where
  | usage (e : UsageError)
  | version
  | help
deriving DecidableEq, Repr

/-! ## What can be asked for -/

/-- A command with its arguments. -/
inductive Request where
  | eval (expression : String) (x : Float)
  | apply (v : Float) (descriptor : Option String)
  | test (v : Float) (descriptor : Option String)
  | check (expression : String)
  | ops

/-- A whole command line. -/
structure Invocation where
  request : Request
  pretty : Bool
  verbose : Bool

/-! ## The shape of a command line -/

/-- An option with a value. -/
structure ValueOption where
  short : Char
  long : String
  /-- Whether anything is taken as its value, even what begins with a hyphen. -/
  takesHyphens : Bool

/-- What may stand in a part of a command line, besides the flags. -/
structure Shape where
  /-- Whether there is a positional argument, and then whether it may begin with a hyphen. -/
  positional : Option Bool
  option : Option ValueOption
  /-- Whether the version can be asked for. -/
  version : Bool

/-- What has been read. -/
structure Given where
  pretty : Bool
  verbose : Bool
  positional : Option String
  option : Option String

def Given.nothing : Given :=
  ⟨false, false, none, none⟩

/-- What comes next: anything, the value of the option, or only positional arguments. -/
inductive Mode where
  | any
  | value
  | positionals
deriving DecidableEq, Repr

/-- How an argument is written. -/
inductive Spelling where
  /-- A double hyphen alone. -/
  | separator
  /-- A double hyphen, a name, and a value after an equality sign. -/
  | long (name : String) (value : Option String)
  /-- A hyphen and one or more letters. -/
  | letters (cs : List Char)
  | plain

def Spelling.of (arg : String) : Spelling :=
  match arg.toList with
  | ['-', '-'] => separator
  | '-' :: '-' :: cs =>
    long (String.ofList (cs.takeWhile (· != '=')))
      (match cs.dropWhile (· != '=') with
        | [] => none
        | _ :: value => some (String.ofList value))
  | '-' :: c :: cs => letters (c :: cs)
  | _ => plain

namespace Shape

def isKnownLetter (s : Shape) (c : Char) : Bool :=
  c == 'p' || c == 'v' || c == 'h' || (s.version && c == 'V') || s.option.any (·.short == c)

def isKnownName (s : Shape) (name : String) : Bool :=
  name == "pretty" || name == "verbose" || name == "help" || (s.version && name == "version")
    || s.option.any (·.long == name)

/-- Whether an argument is a value rather than a flag or an option: it does not begin with a hyphen, or
it names no flag and a positional argument that may begin with a hyphen is still to come. -/
def isValue (s : Shape) (g : Given) : Spelling → Bool
  | .plain => true
  | .separator => false
  | .long name _ => s.positional == some true && g.positional.isNone && !s.isKnownName name
  | .letters cs => s.positional == some true && g.positional.isNone && !cs.all s.isKnownLetter

end Shape

/-! ## Taking arguments -/

namespace Given

/-- Switches a flag on, which may be done once. -/
def setPretty (g : Given) : Except Stop Given :=
  if g.pretty then throw (.usage (.repeatedArgument "--pretty")) else return { g with pretty := true }

def setVerbose (g : Given) : Except Stop Given :=
  if g.verbose then throw (.usage (.repeatedArgument "--verbose"))
  else return { g with verbose := true }

/-- Takes the value of the option, which may be given once. -/
def setOption (g : Given) (o : ValueOption) (value : String) : Except Stop Given :=
  match g.option with
  | some _ => throw (.usage (.repeatedArgument ("--" ++ o.long)))
  | none => return { g with option := some value }

/-- Takes the positional argument, if there is one and it is still to come. -/
def setPositional (s : Shape) (g : Given) (arg : String) : Except Stop Given :=
  match s.positional, g.positional with
  | some _, none => return { g with positional := some arg }
  | _, _ => throw (.usage (.unexpectedArgument arg))

/-- Takes the letters behind one hyphen. Behind the letter of the option stands its value, if
anything. -/
def takeLetters (s : Shape) (g : Given) : List Char → Except Stop (Given × Mode)
  | [] => return (g, .any)
  | c :: cs =>
    if c == 'p' then do (← g.setPretty).takeLetters s cs
    else if c == 'v' then do (← g.setVerbose).takeLetters s cs
    else if c == 'h' then throw .help
    else if s.version && c == 'V' then throw .version
    else
      match s.option with
      | some o =>
        if o.short == c then
          match cs with
          | [] => return (g, .value)
          | '=' :: value => return (← g.setOption o (String.ofList value), .any)
          | value => return (← g.setOption o (String.ofList value), .any)
        else throw (.usage (.unknownArgument ("-" ++ c.toString)))
      | none => throw (.usage (.unknownArgument ("-" ++ c.toString)))

/-- Takes an argument with a name. -/
def takeLong (s : Shape) (g : Given) (name : String) (value : Option String) :
    Except Stop (Given × Mode) :=
  if !s.isKnownName name then throw (.usage (.unknownArgument ("--" ++ name)))
  else
    match s.option.filter (·.long == name), value with
    | some o, some v => return (← g.setOption o v, .any)
    | some _, none => return (g, .value)
    | none, some _ => throw (.usage (.unexpectedValue ("--" ++ name)))
    | none, none =>
      if name == "pretty" then return (← g.setPretty, .any)
      else if name == "verbose" then return (← g.setVerbose, .any)
      else if name == "version" then throw .version
      else throw .help

/-- Takes one argument. -/
def take (g : Given) (s : Shape) (mode : Mode) (arg : String) : Except Stop (Given × Mode) :=
  match mode with
  | .positionals => return (← g.setPositional s arg, .positionals)
  | .value =>
    match s.option with
    | some o =>
      if o.takesHyphens || s.isValue g (.of arg) then return (← g.setOption o arg, .any)
      else throw (.usage (.missingValue ("--" ++ o.long)))
    | none => throw (.usage (.unexpectedArgument arg))
  | .any =>
    if s.isValue g (.of arg) then return (← g.setPositional s arg, .any)
    else
      match Spelling.of arg with
      | .separator => return (g, .positionals)
      | .long name value => g.takeLong s name value
      | .letters cs => g.takeLetters s cs
      | .plain => throw (.usage (.unexpectedArgument arg))

/-- Takes all arguments of a command. -/
def takeAll (s : Shape) (args : List String) : Except Stop Given := do
  let (g, mode) ← args.foldlM (fun st arg => st.1.take s st.2 arg) (nothing, .any)
  if mode == .value then
    throw (.usage (.missingValue ("--" ++ s.option.elim "" (·.long))))
  return g

/-- The positional argument, which has to be there. -/
def argument (g : Given) : Except Stop String :=
  match g.positional with
  | some arg => return arg
  | none => throw (.usage .missingArgument)

end Given

/-- A number on a command line. -/
def readNumber (s : String) : Except Stop Float :=
  match Decimal.ofText? s with
  | some x => return x
  | none => throw (.usage (.notANumber s))

/-! ## Commands by name -/

/-- The commands. -/
inductive Subcommand where
  | eval | apply | test | check | ops
deriving DecidableEq, Repr

namespace Subcommand

def all : List Subcommand :=
  [eval, apply, test, check, ops]

def name : Subcommand → String
  | eval => "eval"
  | apply => "apply"
  | test => "test"
  | check => "check"
  | ops => "ops"

def ofName? (name : String) : Option Subcommand :=
  all.find? fun c => c.name == name

def shape : Subcommand → Shape
  | eval => ⟨some false, some ⟨'x', "value", true⟩, false⟩
  | apply | test => ⟨some true, some ⟨'o', "op", false⟩, false⟩
  | check => ⟨some false, none, false⟩
  | ops => ⟨none, none, false⟩

/-- What a command is asked to do by its arguments. Without the option an expression is evaluated at
zero. -/
def request (c : Subcommand) (g : Given) : Except Stop Request := do
  match c with
  | eval => return .eval (← g.argument) (← readNumber (g.option.getD "0"))
  | apply => return .apply (← readNumber (← g.argument)) g.option
  | test => return .test (← readNumber (← g.argument)) g.option
  | check => return .check (← g.argument)
  | ops => return .ops

end Subcommand

/-! ## Whole command lines -/

namespace Invocation

/-- The part of a command line before the command. -/
def leadingShape : Shape :=
  ⟨none, none, true⟩

/-- A command and its arguments, after the flags before it. A flag may be given on both sides of the name
of the command. -/
def ofCommand (leading : Given) (c : Subcommand) (args : List String) : Except Stop Invocation := do
  let g ← Given.takeAll c.shape args
  return ⟨← c.request g, leading.pretty || g.pretty, leading.verbose || g.verbose⟩

/-- Reads flags up to the name of a command, which nothing but flags may precede. -/
def parseFrom (st : Given × Mode) : List String → Except Stop Invocation
  | [] => throw (.usage .missingCommand)
  | arg :: args =>
    if st.2 == .any && arg == "help" then throw .help
    else
      match (Subcommand.ofName? arg).filter fun _ => st.2 == .any with
      | some c => ofCommand st.1 c args
      | none => do parseFrom (← st.1.take leadingShape st.2 arg) args

/-- Reads a command line. -/
def parse (args : List String) : Except Stop Invocation :=
  parseFrom (.nothing, .any) args

end Invocation

end Reckon.Cli
