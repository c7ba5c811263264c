/-!
# Blank characters

White space in the sense of the Unicode property `White_Space`, and trimming by it. A text is *blank*
when trimming leaves nothing of it.
-/

namespace Reckon.Text

/-- The characters with the Unicode property `White_Space`. -/
def isBlank (c : Char) : Bool :=
  let n := c.toNat
  (9 ≤ n && n ≤ 13) || n == 0x20 || n == 0x85 || n == 0xA0 || n == 0x1680
    || (0x2000 ≤ n && n ≤ 0x200A) || n == 0x2028 || n == 0x2029 || n == 0x202F
    || n == 0x205F || n == 0x3000

/-- No character of ASCII that shows as itself is blank. -/
theorem not_isBlank_of_visible {c : Char} (hlow : 0x20 < c.toNat) (hhigh : c.toNat < 0x7F) : isBlank c = false := by
  simp only [isBlank, Bool.or_eq_false_iff, Bool.and_eq_false_iff, decide_eq_false_iff_not, beq_eq_false_iff_ne]
  omega

theorem not_isBlank_of_isDigit {c : Char} (h : c.isDigit = true) : isBlank c = false := by
  have hn : 48 ≤ c.toNat ∧ c.toNat ≤ 57 := Char.isDigit_iff_toNat.mp h
  exact not_isBlank_of_visible (by omega) (by omega)

/-- A blank is of no class that no blank is of. -/
theorem eq_false_of_isBlank {p : Char → Bool} (hp : ∀ {c}, p c = true → isBlank c = false) {c : Char}
    (hc : isBlank c = true) : p c = false := by
  cases hpc : p c with
  | false => rfl
  | true =>
    rw [hp hpc] at hc
    cases hc

/-- Drops the blank characters at the end. -/
def trimEnd (cs : List Char) : List Char :=
  (cs.reverse.dropWhile isBlank).reverse

/-- Drops the blank characters at both ends. -/
def trim (cs : List Char) : List Char :=
  trimEnd (cs.dropWhile isBlank)

/-- A text without the blank characters at its ends. -/
def trimmed (s : String) : String :=
  String.ofList (trim s.toList)

end Reckon.Text
