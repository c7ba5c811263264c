/-!
# Visible text

A text may hold control characters, and control sequences: an escape character together with what a
terminal takes as belonging to it. `visible` leaves both out. Line breaks, form feeds and tabs
stay, for they lay the text out.

A sequence begins with the escape character and ends at its final character, or at a character that
cancels it. One of layout inside a sequence is shown and *suspends* the sequence: the text that follows is
shown as well, until the next control character takes the sequence up again or a character outside ASCII
ends it.
-/

namespace Reckon.Text

/-! ## Characters -/

def isControl (c : Char) : Bool :=
  c.toNat < 0x20 || c == '\x7f'

/-- The controls that lay a text out: tab, line feed, form feed and carriage return. -/
def isLayout (c : Char) : Bool :=
  c == '\t' || c == '\n' || c == '\x0c' || c == '\r'

def isShown (c : Char) : Bool :=
  !isControl c || isLayout c

/-- The escape character begins a sequence, wherever it stands. -/
def isEscape (c : Char) : Bool :=
  c == '\x1b'

/-- The controls that cancel a sequence: cancel and substitute. -/
def isCancel (c : Char) : Bool :=
  c == '\x18' || c == '\x1a'

/-- Whether the encoding of a character contains the byte that ends a control string. -/
def holdsTerminator (c : Char) : Bool :=
  (String.utf8EncodeChar c).contains 0x9C

/-! ## Sequences -/

/-- Where in a control sequence a text stands. -/
inductive Sequence where
  /-- After the escape character. -/
  | escape
  /-- After the escape character and one or more of space to slash. -/
  | escapeIntermediate
  /-- In the parameters of a control function. -/
  | control
  /-- At the parameters of a device control string, among them, and behind them. -/
  | deviceEntry | deviceParameter | deviceIntermediate
  /-- In a command to the operating system. -/
  | command
  /-- In the body of any other control string. -/
  | string
deriving DecidableEq, Repr

/-- How the next character of a text is to be taken. -/
inductive Passage where
  | text
  | inside (s : Sequence)
  | suspended (s : Sequence)
deriving DecidableEq, Repr

namespace Sequence

/-- Whether characters of layout are shown inside the sequence; a string swallows them. -/
def showsLayout : Sequence → Bool
  | escape | escapeIntermediate | control => true
  | _ => false

/-- How a sequence goes on after a character that is no control. -/
def after (s : Sequence) (c : Char) : Passage :=
  match s with
  | escape =>
    if c < '0' then .inside escapeIntermediate
    else if c == '[' then .inside control
    else if c == ']' then .inside command
    else if c == 'P' then .inside deviceEntry
    else if c == 'X' || c == '^' || c == '_' then .inside string
    else if c ≤ '~' then .text
    else .inside escape
  | escapeIntermediate => if '0' ≤ c ∧ c ≤ '~' then .text else .inside escapeIntermediate
  | control => if '@' ≤ c ∧ c ≤ '~' then .text else .inside control
  | deviceEntry =>
    if c < '0' then .inside deviceIntermediate
    else if c < '@' then .inside deviceParameter
    else if c ≤ '~' then .inside string
    else .inside deviceEntry
  | deviceParameter =>
    if c < '0' then .inside deviceIntermediate
    else if c < '<' then .inside deviceParameter
    else if c ≤ '~' then .inside string
    else .inside deviceParameter
  | deviceIntermediate =>
    if '0' ≤ c ∧ c ≤ '~' then .inside string else .inside deviceIntermediate
  | command => .inside command
  | string => if holdsTerminator c then .text else .inside string

/-- How a sequence goes on after a control that neither begins nor cancels one. Only the bell means
something: it ends a command. -/
def afterControl (s : Sequence) (c : Char) : Passage :=
  if s = command ∧ c = '\x07' then .text
  else if isLayout c ∧ s.showsLayout then .suspended s
  else .inside s

end Sequence

namespace Passage

/-- How a text goes on after a character. -/
def next (p : Passage) (c : Char) : Passage :=
  if isEscape c then .inside .escape
  else if isCancel c then .text
  else
    match p with
    | text => .text
    | inside s => if isControl c then s.afterControl c else s.after c
    | suspended s =>
      if c.toNat ≥ 0x80 then .text
      else if isShown c then .suspended s
      else .inside s

/-- Whether a character is shown. -/
def shows (p : Passage) (c : Char) : Bool :=
  match p with
  | text | suspended _ => isShown c
  | inside s => isLayout c && s.showsLayout

end Passage

/-! ## Texts -/

/-- What is shown of the rest of a text. -/
def visibleFrom (p : Passage) : List Char → List Char
  | [] => []
  | c :: cs => (if p.shows c then [c] else []) ++ visibleFrom (p.next c) cs

/-- What is shown of a text. -/
def visible (cs : List Char) : List Char :=
  visibleFrom .text cs

end Reckon.Text
