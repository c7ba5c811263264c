import Reckon.Text.Hidden

/-!
# Quoted text

How a text is shown inside a message: in double quotes, on one line, with every character that would
not show as itself written as an escape.
-/

namespace Reckon.Text

/-- The written form of one character between the quotes. A hidden character without an escape of
its own is written by its code point, in lower-case hexadecimal without padding. -/
def escape (c : Char) : List Char :=
  match c with
  | '"' => ['\\', '"']
  | '\\' => ['\\', '\\']
  | '\n' => ['\\', 'n']
  | '\r' => ['\\', 'r']
  | '\t' => ['\\', 't']
  | '\x00' => ['\\', '0']
  | c =>
    if isHidden c then
      ['\\', 'u', '\x7b'] ++ Nat.toDigits 16 c.toNat ++ ['\x7d']
    else
      [c]

/-- A text in double quotes. -/
def quoted (s : String) : String :=
  String.ofList ('"' :: s.toList.flatMap escape ++ ['"'])

end Reckon.Text
