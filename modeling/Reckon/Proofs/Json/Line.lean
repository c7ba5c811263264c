import Reckon.Json.Printer
import Reckon.Proofs.Decimal.Layout

/-!
# Values on one line

The compact text of a value has no control character in it, for a string is written with an escape in place of each of
its own (`Json.le_of_mem_compact`). Together with a newline it is one line of output.

A value without parts has no other text over several lines (`Json.pretty_scalar`).
-/

namespace Reckon

/-! ## Values without parts -/

theorem Number.isNumberChar_of_mem_text {n : Number} {c : Char} (h : c ∈ n.text) : Json.isNumberChar c = true := by
  have hdigit (hc : c.isDigit = true) : Json.isNumberChar c = true := by
    simp [Json.isNumberChar, hc]
  cases n with
  | integer n fits =>
      rcases List.mem_append.mp h with hsign | hdigits
      · split at hsign
        · obtain rfl := List.mem_singleton.mp hsign
          decide
        · cases hsign
      · exact hdigit (Nat.isDigit_of_mem_toDigits (by decide) (by decide) hdigits)
  | double x finite =>
      rcases Decimal.Layout.mem_ofFinite h with hc | hmark | hend
      · exact hdigit hc
      · simp only [List.mem_cons, List.not_mem_nil, or_false] at hmark
        rcases hmark with rfl | rfl | rfl | rfl <;> decide
      · have hend : c = '.' ∨ c = '0' := by simpa [layout] using hend
        rcases hend with rfl | rfl <;> decide

namespace Json

theorem le_of_isNumberChar {c : Char} (h : isNumberChar c = true) : 0x20 ≤ c.toNat := by
  simp only [isNumberChar, Bool.or_eq_true, beq_iff_eq] at h
  rcases h with ((((hdigit | rfl) | rfl) | rfl) | rfl) | rfl
  · have hn : 48 ≤ c.toNat ∧ c.toNat ≤ 57 := Char.isDigit_iff_toNat.mp hdigit
    omega
  all_goals decide

theorem le_of_mem_hex4 {n : Nat} {c : Char} (h : c ∈ hex4 n) : 0x20 ≤ c.toNat := by
  have hdigit : ∀ d < 16, 0x20 ≤ (Nat.digitChar d).toNat := by decide
  obtain ⟨d, hd, rfl⟩ := List.mem_map.mp h
  refine hdigit d ?_
  simp only [List.mem_cons, List.not_mem_nil, or_false] at hd
  omega

/-- A control character is written by its escape. -/
theorem le_of_mem_escape {c d : Char} (h : d ∈ escape c) : 0x20 ≤ d.toNat := by
  unfold escape at h
  split at h
  case h_8 =>
    split at h
    next =>
      rcases List.mem_append.mp h with hmark | hhex
      · simp only [List.mem_cons, List.not_mem_nil, or_false] at hmark
        rcases hmark with rfl | rfl <;> decide
      · exact le_of_mem_hex4 hhex
    next hc =>
      obtain rfl := List.mem_singleton.mp h
      omega
  all_goals
    simp only [List.mem_cons, List.not_mem_nil, or_false] at h
    rcases h with rfl | rfl <;> decide

theorem le_of_mem_text {v : Scalar} {c : Char} (h : c ∈ v.text) : 0x20 ≤ c.toNat := by
  cases v with
  | number n => exact le_of_isNumberChar (Number.isNumberChar_of_mem_text h)
  | string s =>
      have hmem : c = '"' ∨ (∃ d ∈ s.toList, c ∈ escape d) ∨ c = '"' := by
        simpa [Scalar.text, or_assoc] using h
      rcases hmem with rfl | ⟨d, -, hescape⟩ | rfl
      · decide
      · exact le_of_mem_escape hescape
      · decide
  | null =>
      simp only [Scalar.text, List.mem_cons, List.not_mem_nil, or_false] at h
      rcases h with rfl | rfl | rfl | rfl <;> decide
  | bool b =>
      have hword : ∀ b, ((Scalar.bool b).text.all fun c => 0x20 ≤ c.toNat) = true := by decide
      exact of_decide_eq_true (List.all_eq_true.mp (hword b) c h)

/-! ## Compact texts -/

theorem le_of_mem_lexeme {l : Lexeme} {c : Char} (h : c ∈ l.text) : 0x20 ≤ c.toNat := by
  cases l with
  | scalar v => exact le_of_mem_text h
  | mark m =>
      obtain rfl := List.mem_singleton.mp h
      cases m <;> decide

theorem le_of_mem_compact {v : Json} {c : Char} (h : c ∈ v.compact.toList) : 0x20 ≤ c.toNat := by
  rw [compact, String.toList_ofList, List.mem_flatMap] at h
  obtain ⟨l, -, hl⟩ := h
  exact le_of_mem_lexeme hl

theorem newline_not_mem_compact (v : Json) : '\n' ∉ v.compact.toList := by
  intro h
  exact absurd (le_of_mem_compact h) (by decide)

theorem compact_scalar (v : Scalar) : (scalar v).compact = String.ofList v.text := by
  simp [compact, toLexemes, Lexeme.text]

theorem pretty_scalar (v : Scalar) : (scalar v).pretty = (scalar v).compact := by
  rw [compact_scalar, pretty, prettyChars]

end Json

end Reckon
