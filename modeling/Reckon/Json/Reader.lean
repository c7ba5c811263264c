import Reckon.Json.Lexeme

/-!
# Reading JSON

A text is read into lexemes, and these are taken one by one by a machine that keeps the arrays and objects
that are still open, the innermost first. What may come next is the state of the machine, so that a comma
or a colon in the wrong place, a text that ends too early and one that goes on after its value are all
refused by having no step.
-/

namespace Reckon.Json

/-- So many arrays and objects may be open at a time. -/
def maxDepth : Nat :=
  127

/-- An open array or object that waits for a value, with the parts before it, the latest first. -/
inductive Frame where
  | element (before : List Json)
  | member (before : List (String × Json)) (key : String)

/-- What may come next, inside the frames that are still open. -/
inductive ReadState where
  /-- A value. -/
  | value (outer : List Frame)
  /-- The first element of an array, or its end. -/
  | arrayStart (outer : List Frame)
  /-- A comma, or the end of an array. -/
  | arrayNext (before : List Json) (outer : List Frame)
  /-- The first key of an object, or its end. -/
  | objectStart (outer : List Frame)
  /-- A key. -/
  | objectKey (before : List (String × Json)) (outer : List Frame)
  /-- A colon after a key. -/
  | objectColon (before : List (String × Json)) (key : String) (outer : List Frame)
  /-- A comma, or the end of an object. -/
  | objectNext (before : List (String × Json)) (outer : List Frame)
  /-- Nothing. -/
  | finished (v : Json)

namespace ReadState

/-- A value is complete: it goes to the innermost frame. -/
def deliver (v : Json) : List Frame → ReadState
  | [] => finished v
  | .element before :: outer => arrayNext (v :: before) outer
  | .member before key :: outer => objectNext ((key, v) :: before) outer

/-- A value begins. -/
def begin? (outer : List Frame) : Lexeme → Option ReadState
  | .scalar v => some (deliver (.scalar v) outer)
  | .mark .openBracket => if outer.length < maxDepth then some (arrayStart outer) else none
  | .mark .openBrace => if outer.length < maxDepth then some (objectStart outer) else none
  | _ => none

/-- Takes one lexeme. -/
def step? : ReadState → Lexeme → Option ReadState
  | value outer, l => begin? outer l
  | arrayStart outer, .mark .closeBracket => some (deliver (.array []) outer)
  | arrayStart outer, l => begin? (.element [] :: outer) l
  | arrayNext before outer, .mark .comma => some (value (.element before :: outer))
  | arrayNext before outer, .mark .closeBracket => some (deliver (.array before.reverse) outer)
  | objectStart outer, .mark .closeBrace => some (deliver (.ofMembers []) outer)
  | objectStart outer, .scalar (.string key) => some (objectColon [] key outer)
  | objectKey before outer, .scalar (.string key) => some (objectColon before key outer)
  | objectColon before key outer, .mark .colon => some (value (.member before key :: outer))
  | objectNext before outer, .mark .comma => some (objectKey before outer)
  | objectNext before outer, .mark .closeBrace => some (deliver (.ofMembers before.reverse) outer)
  | _, _ => none

/-- Takes lexemes one after the other. -/
def steps? (s : ReadState) (ls : List Lexeme) : Option ReadState :=
  ls.foldlM step? s

/-- The value that has been read, once it is complete. -/
def result? : ReadState → Option Json
  | finished v => some v
  | _ => none

end ReadState

/-- The value that a list of lexemes stands for. -/
def ofLexemes? (ls : List Lexeme) : Option Json := do
  (← (ReadState.value []).steps? ls).result?

/-- Reads a whole text. -/
def parse? (s : String) : Option Json := do
  ofLexemes? (← lexemes? s.toList)

end Reckon.Json
