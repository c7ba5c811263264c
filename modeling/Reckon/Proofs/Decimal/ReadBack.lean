import Mathlib.Data.List.DropRight
import Reckon.Proofs.Decimal.Finite
import Reckon.Proofs.Decimal.Layout
import Reckon.Proofs.Decimal.Nearest
import Reckon.Proofs.Decimal.Numeral

/-!
# Plain texts read back

The shortest digits of a double stand for a number whose nearest double is that double: so it was tested where they
come from a grid, and the whole expansion is the double itself (`nearestMagnitude_shortest`). Zeros and the point are
put around them so that the numeral that is read stands for the same number (`Layout.exists_read?_positional`). So the
plain text of a finite double without a sign reads back as this double (`exists_read?_plain`).
-/

namespace Reckon.Decimal

/-! ## What digits and numerals stand for -/

/-- The number that digits stand for. -/
def Digits.value (d : Digits) : ℚ :=
  Nat.ofDigitChars 10 d.digits 0 * 10 ^ (d.exponent + 1 - d.digits.length)

/-- The number that a numeral stands for. -/
def Numeral.value (n : Numeral) : ℚ :=
  n.coefficient * 10 ^ n.scale

theorem Numeral.toFloat_eq (n : Numeral) (negative : Bool) :
    n.toFloat negative = ofMagnitude negative (nearestMagnitude n.value) := by
  rw [toFloat, ofDecimal, decimalMagnitude_eq, value]

theorem exists_append_zeros (cs : List Char) :
    ∃ k, cs = (cs.reverse.dropWhile (· == '0')).reverse ++ List.replicate k '0' := by
  have hzeros : cs.rtakeWhile (· == '0') = List.replicate (cs.rtakeWhile (· == '0')).length '0' :=
    List.eq_replicate_iff.mpr ⟨rfl, fun d hd => by simpa using List.mem_rtakeWhile_imp hd⟩
  refine ⟨(cs.rtakeWhile (· == '0')).length, ?_⟩
  rw [← hzeros]
  exact List.rdropWhile_append_rtakeWhile.symm

/-- The zeros at the end only move the point. -/
theorem Digits.value_ofScaled (c : ℕ) (e : ℤ) : (ofScaled c e).value = c * 10 ^ e := by
  obtain ⟨k, hk⟩ := exists_append_zeros (Nat.toDigits 10 c)
  set kept := ((Nat.toDigits 10 c).reverse.dropWhile (· == '0')).reverse with hkept
  have hc : c = 10 ^ k * Nat.ofDigitChars 10 kept 0 := by
    rw [← Nat.ofDigitChars_replicate_zero, ← Nat.ofDigitChars_append, ← hk, Nat.ofDigitChars_ten_toDigits]
  have hexponent : e + (Nat.toDigits 10 c).length - 1 + 1 - kept.length = k + e := by
    rw [hk, List.length_append, List.length_replicate]
    push_cast
    ring
  rw [value, ofScaled]
  simp only [← hkept, hexponent]
  conv_rhs => rw [hc]
  rw [zpow_add₀ (by norm_num), zpow_natCast]
  push_cast
  ring

/-! ## The shortest digits -/

theorem value_exactDigits (b : ℕ) : (exactDigits b).value = (Fraction.ofMagnitude b).value := by
  rw [exactDigits, Digits.value_ofScaled, value_ofMagnitude, Nat.pow_eq, Nat.pow_eq]
  push_cast
  rcases le_total 0 (exponent b) with hnonneg | hneg
  · obtain ⟨k, hk⟩ := Int.eq_ofNat_of_zero_le hnonneg
    simp [hk]
  · obtain ⟨k, hk⟩ := Int.exists_eq_neg_ofNat hneg
    have hten : (10 : ℚ) = 2 * 5 := by norm_num
    simp only [hk, Int.toNat_neg_natCast, neg_neg, Int.toNat_natCast, pow_zero, mul_one]
    rw [min_eq_left (by omega), zpow_neg, zpow_neg, zpow_natCast, zpow_natCast, hten, mul_pow]
    field_simp

/-- The double nearest to the shortest digits is the one that they were made for. -/
theorem nearestMagnitude_shortest (tie : Tie) {b : ℕ} (h : b < infinityMagnitude) :
    nearestMagnitude (shortest tie b).value = b := by
  rw [shortest]
  cases hfound : (List.range 17).findSome? fun (n : Nat) =>
      onGrid? tie b ((Fraction.ofMagnitude b).log10 - n) with
  | none =>
      rw [Option.getD_none, value_exactDigits, nearestMagnitude_ofMagnitude h]
  | some d =>
      obtain ⟨k, -, hgrid⟩ := List.exists_of_findSome?_eq_some hfound
      obtain ⟨c, hc, rfl⟩ := Option.map_eq_some_iff.mp hgrid
      have htested := List.find?_some hc
      rw [Option.getD_some, Digits.value_ofScaled, ← decimalMagnitude_eq]
      exact beq_iff_eq.mp htested

/-! ## Digits around a point -/

section Digits

variable {ds : List Char}

theorem Numeral.value_whole (ds : List Char) : value ⟨ds, none, none⟩ = Nat.ofDigitChars 10 ds 0 := by
  simp [value, coefficient, digits, scale]

theorem Numeral.value_point (ds fs : List Char) :
    value ⟨ds, some fs, none⟩ = Nat.ofDigitChars 10 (ds ++ fs) 0 * 10 ^ (-(fs.length : ℤ)) := by
  simp [value, coefficient, digits, scale]

theorem isDigit_of_mem_replicate {c : Char} {k : ℕ} (h : c ∈ List.replicate k '0') : c.isDigit = true := by
  rw [List.eq_of_mem_replicate h]
  decide

/-- Zeros between the point and the digits. -/
theorem exists_read?_small (hd : ∀ c ∈ ds, c.isDigit = true) (k : ℕ) :
    ∃ n, Numeral.read? (['0', '.'] ++ List.replicate k '0' ++ ds) = some n ∧
      n.value = Nat.ofDigitChars 10 ds 0 * 10 ^ (-(k + ds.length : ℤ)) := by
  have hzero : ∀ c ∈ ['0'], c.isDigit = true := fun c hc => isDigit_of_mem_replicate (k := 1) hc
  have hfraction : ∀ c ∈ List.replicate k '0' ++ ds, c.isDigit = true := fun c hc =>
    (List.mem_append.mp hc).elim isDigit_of_mem_replicate (hd c)
  refine ⟨⟨['0'], some (List.replicate k '0' ++ ds), none⟩,
    Numeral.read?_digits_point hzero hfraction (List.cons_ne_nil _ _), ?_⟩
  have hcoefficient : Nat.ofDigitChars 10 (['0'] ++ (List.replicate k '0' ++ ds)) 0 = Nat.ofDigitChars 10 ds 0 := by
    rw [← List.replicate_one, Nat.ofDigitChars_append, Nat.ofDigitChars_append, Nat.ofDigitChars_replicate_zero,
      Nat.ofDigitChars_replicate_zero]
    rfl
  rw [Numeral.value_point, hcoefficient, List.length_append, List.length_replicate, Nat.cast_add]

/-- Zeros behind the digits. -/
theorem exists_read?_large (hd : ∀ c ∈ ds, c.isDigit = true) {k : ℕ} (hne : ds ++ List.replicate k '0' ≠ []) :
    ∃ n, Numeral.read? (ds ++ List.replicate k '0') = some n ∧
      n.value = Nat.ofDigitChars 10 ds 0 * 10 ^ (k : ℤ) := by
  have hwhole : ∀ c ∈ ds ++ List.replicate k '0', c.isDigit = true := fun c hc =>
    (List.mem_append.mp hc).elim (hd c) isDigit_of_mem_replicate
  refine ⟨_, Numeral.read?_whole hwhole hne, ?_⟩
  rw [Numeral.value_whole, Nat.ofDigitChars_append, Nat.ofDigitChars_replicate_zero, zpow_natCast]
  push_cast
  ring

/-- A point between the digits. -/
theorem exists_read?_between (hd : ∀ c ∈ ds, c.isDigit = true) (hne : ds ≠ []) (k : ℕ) :
    ∃ n, Numeral.read? (ds.take k ++ '.' :: ds.drop k) = some n ∧
      n.value = Nat.ofDigitChars 10 ds 0 * 10 ^ (-((ds.length - k : ℕ) : ℤ)) := by
  have htake : ∀ c ∈ ds.take k, c.isDigit = true := fun c hc => hd c (List.mem_of_mem_take hc)
  have hdrop : ∀ c ∈ ds.drop k, c.isDigit = true := fun c hc => hd c (List.mem_of_mem_drop hc)
  refine ⟨_, Numeral.read?_digits_point htake hdrop (by rwa [List.take_append_drop]), ?_⟩
  rw [Numeral.value_point, List.take_append_drop, List.length_drop]

end Digits

/-! ## Layouts -/

namespace Layout

theorem exists_read?_positional {d : Digits} (hd : ∀ c ∈ d.digits, c.isDigit = true) :
    ∃ n, Numeral.read? (plain.positional d) = some n ∧ n.value = d.value := by
  rw [positional]
  split
  next hneg =>
    obtain ⟨n, hread, hvalue⟩ := exists_read?_small hd (-d.exponent - 1).toNat
    have hexponent : -((-d.exponent - 1).toNat + d.digits.length : ℤ) = d.exponent + 1 - d.digits.length := by omega
    exact ⟨n, hread, by rw [hvalue, hexponent, Digits.value]⟩
  next hnonneg =>
    dsimp only
    split
    next hlong =>
      have hne : d.digits ++ List.replicate (d.exponent.toNat + 1 - d.digits.length) '0' ≠ [] := by
        rw [← List.length_pos_iff, List.length_append, List.length_replicate]
        omega
      obtain ⟨n, hread, hvalue⟩ := exists_read?_large hd hne
      have hexponent : ((d.exponent.toNat + 1 - d.digits.length : ℕ) : ℤ) = d.exponent + 1 - d.digits.length := by
        omega
      exact ⟨n, (congrArg Numeral.read? (List.append_nil _)).trans hread, by rw [hvalue, hexponent, Digits.value]⟩
    next hshort =>
      have hne : d.digits ≠ [] := List.ne_nil_of_length_pos (by omega)
      obtain ⟨n, hread, hvalue⟩ := exists_read?_between hd hne (d.exponent.toNat + 1)
      have hexponent : -((d.digits.length - (d.exponent.toNat + 1) : ℕ) : ℤ) = d.exponent + 1 - d.digits.length := by
        omega
      exact ⟨n, hread, by rw [hvalue, hexponent, Digits.value]⟩

/-- The plain text of a magnitude. -/
theorem exists_read?_ofMagnitude {b : ℕ} (h : b < infinityMagnitude) :
    ∃ n, Numeral.read? (plain.ofMagnitude b) = some n ∧ nearestMagnitude n.value = b := by
  rw [ofMagnitude]
  split
  next hzero =>
    refine ⟨⟨['0'], none, none⟩, rfl, ?_⟩
    have hvalue : Numeral.value ⟨['0'], none, none⟩ = 0 := by
      rw [Numeral.value]
      exact mul_eq_zero_of_left Nat.cast_zero _
    rw [hvalue, nearestMagnitude, if_pos rfl, hzero]
  next =>
    obtain ⟨n, hread, hvalue⟩ := exists_read?_positional (d := shortest plain.tie b) fun c => isDigit_of_mem_shortest
    refine ⟨n, hread, ?_⟩
    rw [hvalue, nearestMagnitude_shortest _ h]

end Layout

theorem toList_plain {x : Float} (h : x.isFinite = true) (hsign : isNegative x = false) :
    (plain x).toList = Layout.plain.ofMagnitude (magnitude x) := by
  obtain ⟨hnan, hinf⟩ := isFinite_iff.mp h
  rw [plain, hnan, hinf]
  simp only [Bool.false_eq_true, if_false, String.toList_ofList, Layout.ofFinite, hsign, List.nil_append]

/-- The plain text of a finite double without a sign reads back as this double. -/
theorem exists_read?_plain {x : Float} (h : x.isFinite = true) (hsign : isNegative x = false) :
    ∃ n, Numeral.read? (plain x).toList = some n ∧ n.toFloat false = x := by
  obtain ⟨n, hread, hvalue⟩ := Layout.exists_read?_ofMagnitude (magnitude_lt_of_isFinite h)
  refine ⟨n, (toList_plain h hsign).symm ▸ hread, ?_⟩
  rw [n.toFloat_eq, hvalue, ← hsign, ofMagnitude_magnitude]

/-- It is made of digits and at most one point. -/
theorem isDigit_of_mem_plain {x : Float} (h : x.isFinite = true) (hsign : isNegative x = false) {c : Char}
    (hc : c ∈ (plain x).toList) : c.isDigit = true ∨ c = '.' := by
  rw [toList_plain h hsign, Layout.ofMagnitude] at hc
  split at hc
  · obtain rfl := List.mem_singleton.mp hc
    exact .inl (by decide)
  · rcases Layout.mem_positional (fun c => isDigit_of_mem_shortest) hc with hdigit | hpoint | hnone
    · exact .inl hdigit
    · exact .inr hpoint
    · cases hnone

/-! ## Numbers that are read -/

theorem nearestMagnitude_le (v : ℚ) : nearestMagnitude v ≤ infinityMagnitude := by
  rw [nearestMagnitude]
  split
  · exact Nat.zero_le _
  · exact Nat.min_le_right _ _

/-- A numeral is read as a number without a sign. -/
theorem Numeral.not_isNegative_toFloat (n : Numeral) : isNegative (n.toFloat false) = false := by
  rw [n.toFloat_eq, isNegative_ofMagnitude false (nearestMagnitude_le _)]

theorem Numeral.not_isNaN_toFloat (n : Numeral) (negative : Bool) : (n.toFloat negative).isNaN = false := by
  rw [n.toFloat_eq, isNaN_ofMagnitude negative (nearestMagnitude_le _)]

end Reckon.Decimal
