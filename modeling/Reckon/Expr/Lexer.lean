import Reckon.Decimal.Numeral
import Reckon.Expr.Token
import Reckon.Text.Blank

/-!
# Reading tokens

An expression is read from left to right by a `Cursor`. Blanks before a token are passed over; a token is
one of the single characters or a maximal run of digits and points, which is read as one number or refused
as a whole. A character that begins no token is left where it is.

`Cursor.next` reads one token and can be called again after any answer. `tokenize` reads a whole text and
stops at the first error.
-/

namespace Reckon

/-- Why no token could be read. -/
inductive LexError where
  | unexpectedChar (c : Char) (position : Nat)
  | invalidNumber (literal : String) (position : Nat)
deriving DecidableEq, Repr

namespace LexError

def message : LexError → String
  | unexpectedChar c p => "unexpected character '" ++ c.toString ++ "' at position " ++ toString p
  | invalidNumber l p => "invalid number literal '" ++ l ++ "' at position " ++ toString p

end LexError

/-- The characters that a number is made of. -/
def isNumberChar (c : Char) : Bool :=
  c.isDigit || c == '.'

/-- A place in a text: what follows it and how many characters lie before it. -/
structure Cursor where
  rest : List Char
  position : Nat
deriving DecidableEq, Repr

namespace Cursor

/-- The place before a whole text. -/
def start (s : String) : Cursor :=
  ⟨s.toList, 0⟩

/-- Passes over the characters of a class. -/
def skip (p : Char → Bool) (c : Cursor) : Cursor :=
  ⟨c.rest.dropWhile p, c.position + (c.rest.takeWhile p).length⟩

/-- Reads the run of digits and points at the cursor. -/
def number (c : Cursor) : Except LexError Token :=
  let literal := c.rest.takeWhile isNumberChar
  match Decimal.Numeral.read? literal with
  | some n => .ok (.number (n.toFloat false))
  | none => .error (.invalidNumber (String.ofList literal) c.position)

/-- Reads a token that begins right at the cursor: an error, a token, or `none` at the end, and the
place from which reading goes on. -/
def read (c : Cursor) : Except LexError (Option Token) × Cursor :=
  match c.rest with
  | [] => (.ok none, c)
  | ch :: rest =>
    match Token.ofChar? ch with
    | some t => (.ok (some t), ⟨rest, c.position + 1⟩)
    | none =>
      if isNumberChar ch then (c.number.map some, c.skip isNumberChar)
      else (.error (.unexpectedChar ch c.position), c)

/-- Reads the next token, passing over the blanks before it. -/
def next (c : Cursor) : Except LexError (Option Token) × Cursor :=
  (c.skip Text.isBlank).read

/-- The answers of the next `n` calls of `next`. -/
def nexts (c : Cursor) : Nat → List (Except LexError (Option Token))
  | 0 => []
  | n + 1 => c.next.1 :: c.next.2.nexts n

theorem length_rest_skip_le (p : Char → Bool) (c : Cursor) :
    (c.skip p).rest.length ≤ c.rest.length :=
  (List.dropWhile_sublist p).length_le

theorem length_rest_read_lt {c c' : Cursor} {t : Token} (h : c.read = (.ok (some t), c')) :
    c'.rest.length < c.rest.length := by
  unfold read at h
  split at h
  next => simp at h
  next ch rest hrest =>
    rw [hrest, List.length_cons]
    split at h
    next =>
      simp only [Prod.mk.injEq] at h
      rw [← h.2]
      exact Nat.lt_succ_self _
    next =>
      split at h
      next hch =>
        simp only [Prod.mk.injEq] at h
        rw [← h.2, skip, hrest, List.dropWhile_cons_of_pos hch]
        exact Nat.lt_succ_of_le (List.dropWhile_sublist isNumberChar).length_le
      next => simp at h

/-- A token is never empty. -/
theorem length_rest_next_lt {c c' : Cursor} {t : Token} (h : c.next = (.ok (some t), c')) :
    c'.rest.length < c.rest.length :=
  Nat.lt_of_lt_of_le (length_rest_read_lt h) (length_rest_skip_le Text.isBlank c)

/-- Reads all tokens from a place on. -/
def tokens (c : Cursor) : Except LexError (List Token) :=
  match h : c.next with
  | (.error e, _) => .error e
  | (.ok none, _) => .ok []
  | (.ok (some t), c') =>
    have := length_rest_next_lt h
    c'.tokens.map (t :: ·)
termination_by c.rest.length

end Cursor

/-- All tokens of a text, or the first error. -/
def tokenize (s : String) : Except LexError (List Token) :=
  (Cursor.start s).tokens

end Reckon
