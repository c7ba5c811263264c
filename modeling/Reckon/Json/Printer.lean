import Reckon.Json.Lexeme

/-!
# Writing JSON

A value is written as its lexemes one after the other, which is its compact text, or over several lines,
two spaces deeper for every array and object that is open. An array or object without parts stays on one
line.
-/

namespace Reckon.Json

/-! ## Compact text -/

mutual

/-- The lexemes of a value. -/
def toLexemes : Json → List Lexeme
  | scalar v => [.scalar v]
  | array elements => .mark .openBracket :: elementLexemes elements ++ [.mark .closeBracket]
  | object members => .mark .openBrace :: memberLexemes members ++ [.mark .closeBrace]

/-- The lexemes between the brackets of an array. -/
def elementLexemes : List Json → List Lexeme
  | [] => []
  | [v] => toLexemes v
  | v :: w :: rest => toLexemes v ++ .mark .comma :: elementLexemes (w :: rest)

/-- The lexemes between the braces of an object. -/
def memberLexemes : List (String × Json) → List Lexeme
  | [] => []
  | [(k, v)] => .scalar (.string k) :: .mark .colon :: toLexemes v
  | (k, v) :: m :: rest =>
    .scalar (.string k) :: .mark .colon :: toLexemes v ++ .mark .comma :: memberLexemes (m :: rest)

end

/-- The compact text of a value. -/
def compact (v : Json) : String :=
  String.ofList (v.toLexemes.flatMap Lexeme.text)

/-! ## Text over several lines -/

/-- The start of a line inside `depth` open arrays and objects. -/
def newline (depth : Nat) : List Char :=
  '\n' :: List.replicate (2 * depth) ' '

mutual

/-- The text of a value inside `depth` open arrays and objects. -/
def prettyChars (depth : Nat) : Json → List Char
  | scalar v => v.text
  | array [] => ['[', ']']
  | array (v :: rest) => '[' :: prettyElements (depth + 1) (v :: rest) ++ newline depth ++ [']']
  | object [] => [Mark.openBrace.char, Mark.closeBrace.char]
  | object (m :: rest) =>
    Mark.openBrace.char :: prettyMembers (depth + 1) (m :: rest)
      ++ newline depth ++ [Mark.closeBrace.char]

/-- Each element on a line of its own. -/
def prettyElements (depth : Nat) : List Json → List Char
  | [] => []
  | [v] => newline depth ++ prettyChars depth v
  | v :: w :: rest =>
    newline depth ++ prettyChars depth v ++ ',' :: prettyElements depth (w :: rest)

/-- Each member on a line of its own. -/
def prettyMembers (depth : Nat) : List (String × Json) → List Char
  | [] => []
  | [(k, v)] => newline depth ++ (Scalar.string k).text ++ [':', ' '] ++ prettyChars depth v
  | (k, v) :: m :: rest =>
    newline depth ++ (Scalar.string k).text ++ [':', ' '] ++ prettyChars depth v
      ++ ',' :: prettyMembers depth (m :: rest)

end

/-- The text of a value over several lines. -/
def pretty (v : Json) : String :=
  String.ofList (prettyChars 0 v)

end Reckon.Json
