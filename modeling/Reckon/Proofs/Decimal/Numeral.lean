import Reckon.Decimal.Numeral
import Reckon.Proofs.Text.Runs

/-!
# Reading numerals

What `Numeral.read?` makes of digits, with or without a point behind them.
-/

namespace Reckon.Decimal

open Text

theorem stops_isDigit_point (cs : List Char) : Stops Char.isDigit ('.' :: cs) :=
  stops_cons.mpr (by decide)

namespace Numeral

/-- Digits alone. -/
theorem read?_digits {ds : List Char} (h : ∀ c ∈ ds, c.isDigit = true) :
    read? ds = (some ⟨ds, none, none⟩ : Option Numeral).filter fun n => !n.digits.isEmpty := by
  rw [read?, List.takeWhile_eq_self_iff.mpr h, List.dropWhile_eq_nil_iff.mpr h]
  rfl

theorem read?_whole {ds : List Char} (h : ∀ c ∈ ds, c.isDigit = true) (hne : ds ≠ []) :
    read? ds = some ⟨ds, none, none⟩ := by
  have hdigits : digits ⟨ds, none, none⟩ = ds := List.append_nil ds
  rw [read?_digits h, Option.filter_some, hdigits, List.isEmpty_eq_false_iff.mpr hne]
  rfl

/-- Digits, a point, and what follows. -/
theorem read?_point {ds : List Char} (h : ∀ c ∈ ds, c.isDigit = true) (cs : List Char) :
    read? (ds ++ '.' :: cs) =
      (finish? ds (some (cs.takeWhile Char.isDigit)) (cs.dropWhile Char.isDigit)).filter
        fun n => !n.digits.isEmpty := by
  rw [read?, takeWhile_append h (stops_isDigit_point cs), dropWhile_append h (stops_isDigit_point cs)]
  rfl

/-- Digits around a point. -/
theorem read?_digits_point {ds fs : List Char} (hds : ∀ c ∈ ds, c.isDigit = true) (hfs : ∀ c ∈ fs, c.isDigit = true)
    (hne : ds ++ fs ≠ []) : read? (ds ++ '.' :: fs) = some ⟨ds, some fs, none⟩ := by
  rw [read?_point hds, List.takeWhile_eq_self_iff.mpr hfs, List.dropWhile_eq_nil_iff.mpr hfs]
  simp only [finish?, digits, Option.getD_some, Option.filter_some, List.isEmpty_eq_false_iff.mpr hne, Bool.not_false,
    if_true]

end Numeral

end Reckon.Decimal
