import Reckon.Decimal.Approximation
import Reckon.Json.Basic

/-!
# JSON lexemes

The words of a JSON text: punctuation and the values without parts. Each has one written form, and
`lexemes?` reads a text, blanks between the words included, into its lexemes.
-/

namespace Reckon

/-- JSON punctuation. -/
inductive Mark where
  | openBrace | closeBrace | openBracket | closeBracket | colon | comma
deriving DecidableEq, Repr

namespace Mark

def all : List Mark :=
  [openBrace, closeBrace, openBracket, closeBracket, colon, comma]

def char : Mark → Char
  | openBrace => '\x7b'
  | closeBrace => '\x7d'
  | openBracket => '['
  | closeBracket => ']'
  | colon => ':'
  | comma => ','

def ofChar? (c : Char) : Option Mark :=
  all.find? fun m => m.char == c

theorem ofChar?_char (m : Mark) : ofChar? m.char = some m := by
  cases m <;> rfl

end Mark

inductive Lexeme where
  | mark (m : Mark)
  | scalar (v : Scalar)
deriving DecidableEq

/-! ## Writing -/

namespace Json

/-- The last four hexadecimal digits of a number, in lower case. -/
def hex4 (n : Nat) : List Char :=
  [n / 0x1000 % 16, n / 0x100 % 16, n / 0x10 % 16, n % 16].map Nat.digitChar

/-- The written form of one character of a string. Only what has to be escaped is escaped. -/
def escape (c : Char) : List Char :=
  match c with
  | '"' => ['\\', '"']
  | '\\' => ['\\', '\\']
  | '\x08' => ['\\', 'b']
  | '\x0c' => ['\\', 'f']
  | '\n' => ['\\', 'n']
  | '\r' => ['\\', 'r']
  | '\t' => ['\\', 't']
  | c => if c.toNat < 0x20 then ['\\', 'u'] ++ hex4 c.toNat else [c]

end Json

def Scalar.text : Scalar → List Char
  | null => ['n', 'u', 'l', 'l']
  | bool true => ['t', 'r', 'u', 'e']
  | bool false => ['f', 'a', 'l', 's', 'e']
  | number n => n.text
  | string s => '"' :: s.toList.flatMap Json.escape ++ ['"']

def Lexeme.text : Lexeme → List Char
  | mark m => [m.char]
  | scalar v => v.text

/-! ## Reading -/

namespace Number

/-- A finite double as a number; what is too large for a double is none. -/
def ofFloat? (x : Float) : Option Number :=
  if h : x.isFinite = true then some (double x h) else none

/-- An integer of 64 bits, signed or unsigned, as a number. -/
def ofInt? (n : Int) : Option Number :=
  if h : -0x8000000000000000 ≤ n ∧ n < 0x10000000000000000 then some (integer n h) else none

/-- JSON wants digits on both sides of a point and no needless zero in front. -/
def isStrict (n : Decimal.Numeral) : Bool :=
  !n.whole.isEmpty && (n.whole.length == 1 || n.whole.head? != some '0') && n.fraction != some []

/-- The integer that a numeral stands for: it has no point, no exponent and at most 64 bits. The negative
zero is none, for only a double can tell it from the zero. -/
def integer? (negative : Bool) (n : Decimal.Numeral) : Option Number :=
  if n.fraction.isNone && n.exponent.isNone && !(negative && n.coefficient == 0) then
    ofInt? (if negative then -n.coefficient else n.coefficient)
  else none

/-- The number that a numeral stands for. What is no integer of 64 bits is read approximately. -/
def ofNumeral? (negative : Bool) (n : Decimal.Numeral) : Option Number :=
  integer? negative n <|> ofFloat? (n.approximation negative)

/-- Reads a whole text as a JSON number. -/
def read? (cs : List Char) : Option Number := do
  let (negative, rest) := match cs with
    | '-' :: rest => (true, rest)
    | cs => (false, cs)
  let n ← (Decimal.Numeral.read? rest).filter isStrict
  ofNumeral? negative n

end Number

namespace Json

/-- The blanks that may stand between lexemes. -/
def isSpace (c : Char) : Bool :=
  c == ' ' || c == '\t' || c == '\n' || c == '\r'

/-- The characters that a number is made of. -/
def isNumberChar (c : Char) : Bool :=
  c.isDigit || c == '.' || c == '-' || c == '+' || c == 'e' || c == 'E'

def hexDigit? (c : Char) : Option Nat :=
  if '0' ≤ c ∧ c ≤ '9' then some (c.toNat - '0'.toNat)
  else if 'a' ≤ c ∧ c ≤ 'f' then some (c.toNat - 'a'.toNat + 10)
  else if 'A' ≤ c ∧ c ≤ 'F' then some (c.toNat - 'A'.toNat + 10)
  else none

/-- The number that four hexadecimal digits spell. -/
def unhex4? (a b c d : Char) : Option Nat := do
  return (((← hexDigit? a) * 16 + (← hexDigit? b)) * 16 + (← hexDigit? c)) * 16 + (← hexDigit? d)

/-- The character that a single letter after a backslash stands for. -/
def unescape? (c : Char) : Option Char :=
  match c with
  | '"' => some '"'
  | '\\' => some '\\'
  | '/' => some '/'
  | 'b' => some '\x08'
  | 'f' => some '\x0c'
  | 'n' => some '\n'
  | 'r' => some '\r'
  | 't' => some '\t'
  | _ => none

/-- The character that two surrogates stand for together; nothing unless the first is a high and the
second a low one. -/
def ofSurrogates? (high low : Nat) : Option Char :=
  if 0xD800 ≤ high ∧ high < 0xDC00 ∧ 0xDC00 ≤ low ∧ low < 0xE000 then
    some (Char.ofNat (0x10000 + (high - 0xD800) * 0x400 + (low - 0xDC00)))
  else none

/-- The characters that a list of code points stands for, where a character may also be given by two
surrogates in a row. -/
def joinSurrogates? : List Nat → Option (List Char)
  | [] => some []
  | n :: rest =>
    if n < 0xD800 || 0xE000 ≤ n then (joinSurrogates? rest).map (Char.ofNat n :: ·)
    else
      match rest with
      | [] => none
      | m :: rest => do
        let c ← ofSurrogates? n m
        return c :: (← joinSurrogates? rest)

/-- Reads the code points of a string up to its closing quote, and gives what follows the quote. -/
def readString? : List Char → Option (List Nat × List Char)
  | [] => none
  | '"' :: rest => some ([], rest)
  | '\\' :: 'u' :: a :: b :: c :: d :: rest => do
    let n ← unhex4? a b c d
    (readString? rest).map fun (ns, rest) => (n :: ns, rest)
  | '\\' :: c :: rest => do
    let n ← unescape? c
    (readString? rest).map fun (ns, rest) => (n.toNat :: ns, rest)
  | c :: rest =>
    if c.toNat < 0x20 || c == '\\' then none
    else (readString? rest).map fun (ns, rest) => (c.toNat :: ns, rest)

/-- The values that are written as a word. -/
def ofWord? (cs : List Char) : Option Scalar :=
  [.null, .bool true, .bool false].find? fun v => v.text == cs

/-- Reads the lexeme that begins with a character, and gives what follows it. -/
def lexeme? (c : Char) (rest : List Char) : Option (Lexeme × List Char) :=
  match Mark.ofChar? c with
  | some m => some (.mark m, rest)
  | none =>
    if c == '"' then
      (readString? rest).bind fun (ns, rest) =>
        (joinSurrogates? ns).map fun s => (.scalar (.string (String.ofList s)), rest)
    else if isNumberChar c then
      (Number.read? (c :: rest.takeWhile isNumberChar)).map fun n =>
        (.scalar (.number n), rest.dropWhile isNumberChar)
    else
      (ofWord? (c :: rest.takeWhile Char.isAlpha)).map fun v =>
        (.scalar v, rest.dropWhile Char.isAlpha)

theorem length_readString?_lt {cs rest : List Char} {ns : List Nat}
    (h : readString? cs = some (ns, rest)) : rest.length < cs.length := by
  fun_induction readString? cs generalizing ns rest with
  | case1 => simp at h
  | case2 tail =>
    simp only [Option.some.injEq, Prod.mk.injEq] at h
    simp [h.2]
  | case3 a b c d tail ih =>
    simp only [Option.bind_eq_bind, Option.bind_eq_some_iff, Option.map_eq_some_iff] at h
    obtain ⟨n, -, ⟨ms, r⟩, hr, he⟩ := h
    have := ih hr
    simp only [Prod.mk.injEq] at he
    simp only [List.length_cons, ← he.2]
    omega
  | case4 c tail _ ih =>
    simp only [Option.bind_eq_bind, Option.bind_eq_some_iff, Option.map_eq_some_iff] at h
    obtain ⟨n, -, ⟨ms, r⟩, hr, he⟩ := h
    have := ih hr
    simp only [Prod.mk.injEq] at he
    simp only [List.length_cons, ← he.2]
    omega
  | case5 => simp at h
  | case6 c tail _ _ _ _ ih =>
    simp only [Option.map_eq_some_iff] at h
    obtain ⟨⟨ms, r⟩, hr, he⟩ := h
    have := ih hr
    simp only [Prod.mk.injEq] at he
    simp only [List.length_cons, ← he.2]
    omega

theorem length_lexeme?_le {c : Char} {rest rest' : List Char} {l : Lexeme}
    (h : lexeme? c rest = some (l, rest')) : rest'.length ≤ rest.length := by
  unfold lexeme? at h
  split at h
  next => simp at h; simp [h.2]
  next =>
    split at h
    next =>
      simp only [Option.bind_eq_some_iff, Option.map_eq_some_iff] at h
      obtain ⟨⟨ns, r⟩, hr, s, -, he⟩ := h
      simp only [Prod.mk.injEq] at he
      exact he.2 ▸ Nat.le_of_lt (length_readString?_lt hr)
    next =>
      split at h
      all_goals
        simp only [Option.map_eq_some_iff, Prod.mk.injEq] at h
        obtain ⟨_, -, -, he⟩ := h
        exact he ▸ (List.dropWhile_sublist _).length_le

/-- A lexeme is never empty. -/
theorem length_lexeme?_lt {cs rest rest' : List Char} {c : Char} {l : Lexeme}
    (hc : cs.dropWhile isSpace = c :: rest) (h : lexeme? c rest = some (l, rest')) :
    rest'.length < cs.length := by
  have h₁ := (List.dropWhile_sublist (l := cs) isSpace).length_le
  have h₂ := length_lexeme?_le h
  rw [hc, List.length_cons] at h₁
  omega

/-- The lexemes of a text. -/
def lexemes? (cs : List Char) : Option (List Lexeme) :=
  match hc : cs.dropWhile isSpace with
  | [] => some []
  | c :: rest =>
    match h : lexeme? c rest with
    | none => none
    | some (l, rest') =>
      have := length_lexeme?_lt hc h
      (lexemes? rest').map (l :: ·)
termination_by cs.length

end Json

end Reckon
