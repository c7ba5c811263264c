import Reckon.Log
import Reckon.Text.Blank
import Reckon.Text.Fields
import Reckon.Text.Visible

/-!
# Which records are shown

A filter is a list of directives, separated by commas. Each is a level, a target, or a target and a level
with an equality sign between them. The directive with the longest target that a record's target begins with
decides whether the record is important enough. Behind the directives and a slash there may be a pattern, which
then has to be found in the text of a record.
-/

namespace Reckon.Cli

structure Directive where
  /-- How the targets begin that it is about; without one, it is about all. -/
  target : Option String
  /-- The highest verbosity that is shown. -/
  verbosity : Nat
deriving DecidableEq, Repr

/-- The verbosity that a word asks for, in any mixture of cases. -/
def verbosity? (word : List Char) : Option Nat :=
  let name := String.ofList (word.map Char.toUpper)
  if name == "OFF" then some 0
  else (Level.all.find? fun l => l.name == name).map Level.verbosity

namespace Directive

/-- Reads one directive; what is none is left out. -/
def ofChars? (cs : List Char) : Option Directive :=
  match Text.fields '=' (Text.trim cs) with
  | [[]] => none
  | [word] =>
    match verbosity? word with
    | some n => some ⟨none, n⟩
    | none => some ⟨some (String.ofList word), Level.trace.verbosity⟩
  | [target, word] =>
    match Text.trim word with
    | [] => some ⟨some (String.ofList target), Level.trace.verbosity⟩
    | word => (verbosity? word).map fun n => ⟨some (String.ofList target), n⟩
  | _ => none

/-- Puts a directive behind the others, or in place of one for the same target. -/
def insert (ds : List Directive) (d : Directive) : List Directive :=
  if ds.any (·.target == d.target) then ds.map fun e => if e.target == d.target then d else e
  else ds ++ [d]

/-- Reads a list of directives. One without any shows errors alone. -/
def listOfChars (cs : List Char) : List Directive :=
  match (Text.fields ',' cs).filterMap ofChars? with
  | [] => [⟨none, Level.error.verbosity⟩]
  | ds => ds.foldl insert []

/-- Whether a directive is about a target. -/
def concerns (d : Directive) (target : String) : Bool :=
  d.target.all fun t => t.toList.isPrefixOf target.toList

/-- How closely it is about what it is about: one without a target less than all others, and these the more
the longer their targets are. -/
def rank (d : Directive) : Nat :=
  d.target.elim 0 fun t => t.length + 1

end Directive

structure Filter where
  directives : List Directive
  /-- Whether the pattern is found in a text, if there is one. -/
  pattern : Option (String → Bool)

namespace Filter

/-- Reads a filter. What a pattern means is not settled here: the argument gives the texts in which it is
found, if it is a pattern at all. With a second slash nothing of the filter counts. That it is complained
about what does not count is left out. -/
def ofText (pattern : String → Option (String → Bool)) (s : String) : Filter :=
  match Text.fields '/' s.toList with
  | [directives] => ⟨Directive.listOfChars directives, none⟩
  | [directives, word] => ⟨Directive.listOfChars directives, pattern (String.ofList word)⟩
  | _ => ⟨Directive.listOfChars [], none⟩

/-- The verbosity that a filter shows of a target: that of the longest directive about it, and of several
with the same length that of the last. -/
def shown (f : Filter) (target : String) : Nat :=
  let best := (f.directives.filter (·.concerns target)).foldl
    (fun (b : Option Directive) d =>
      match b with
      | some b => if b.rank ≤ d.rank then some d else some b
      | none => some d)
    none
  best.elim 0 (·.verbosity)

def shows (f : Filter) (r : Record) : Bool :=
  r.level.verbosity ≤ f.shown r.target && f.pattern.all (· r.text)

end Filter

/-- How a record is shown: level, target and text on one line, further lines of the text indented, and
only what is visible of all that. The time of the record, which comes before the level, is left out. -/
def line (r : Record) : String :=
  let level := r.level.name.toList ++ List.replicate (5 - r.level.name.length) ' '
  let text := r.text.toList.flatMap fun c => if c == '\n' then ['\n', ' ', ' ', ' ', ' '] else [c]
  String.ofList (Text.visible
    (['['] ++ level ++ [' '] ++ r.target.toList ++ [']', ' '] ++ text ++ ['\n']))

/-- The records that a filter shows, each on a line. -/
def lines (f : Filter) (log : List Record) : String :=
  String.join ((log.filter f.shows).map line)

end Reckon.Cli
