import Mathlib.Algebra.Order.Floor.Semifield
import Mathlib.Data.Int.Log
import Mathlib.Data.Rat.Floor
import Mathlib.Tactic
import Reckon.Decimal.Binary

/-!
# The double nearest to a number

Which magnitude a fraction is rounded to depends on the number alone that it stands for (`nearestMagnitude`,
`Fraction.toMagnitude_eq`), and not on its numerator and denominator. The same holds of numbers in decimal form: that
the very large and the very small ones are answered without forming their power changes nothing
(`decimalMagnitude_eq`).

The numbers that magnitudes stand for are rounded to these magnitudes (`nearestMagnitude_ofMagnitude`), since their
mantissas are integers already.
-/

namespace Reckon.Decimal

/-! ## Numbers and their rounding -/

/-- The natural number nearest to a number; a half goes to the even neighbour. -/
def nearestNat (v : ℚ) : ℕ :=
  if 2 * (v - ⌊v⌋₊) < 1 then ⌊v⌋₊
  else if 1 < 2 * (v - ⌊v⌋₊) then ⌊v⌋₊ + 1
  else ⌊v⌋₊ + ⌊v⌋₊ % 2

/-- The magnitude of the double nearest to a number. -/
def nearestMagnitude (v : ℚ) : ℕ :=
  if v = 0 then 0
  else
    let q := max (Int.log 2 v - 52) (-1074)
    min ((q + 1074).toNat * 0x10000000000000 + nearestNat (v * 2 ^ (-q))) infinityMagnitude

theorem nearestNat_natCast (n : ℕ) : nearestNat n = n := by
  rw [nearestNat, Nat.floor_natCast, sub_self, mul_zero, if_pos zero_lt_one]

theorem nearestNat_of_lt_half {v : ℚ} (h : 2 * v < 1) : nearestNat v = 0 := by
  have hfloor : ⌊v⌋₊ = 0 := Nat.floor_eq_zero.mpr (by linarith)
  rw [nearestNat, hfloor, Nat.cast_zero, sub_zero, if_pos h]

/-! ## Fractions -/

namespace Fraction

variable {f : Fraction}

/-- The number that a fraction stands for. -/
def value (f : Fraction) : ℚ :=
  f.num / f.den

theorem value_pos (hnum : f.num ≠ 0) (hden : 0 < f.den) : 0 < f.value :=
  div_pos (Nat.cast_pos.mpr (Nat.pos_of_ne_zero hnum)) (Nat.cast_pos.mpr hden)

theorem value_eq_zero_iff (hden : 0 < f.den) : f.value = 0 ↔ f.num = 0 := by
  rw [value, div_eq_zero_iff, Nat.cast_eq_zero, Nat.cast_eq_zero]
  omega

theorem den_scaleBy_pos {base : ℕ} (hbase : 0 < base) (hden : 0 < f.den) (e : ℤ) : 0 < (f.scaleBy base e).den :=
  Nat.mul_pos hden (Nat.pow_pos hbase)

theorem value_scaleBy {base : ℕ} (hbase : 0 < base) (f : Fraction) (e : ℤ) :
    (f.scaleBy base e).value = f.value * (base : ℚ) ^ e := by
  have hb : (base : ℚ) ≠ 0 := Nat.cast_ne_zero.mpr hbase.ne'
  have hsplit : e = (e.toNat : ℤ) - ((-e).toNat : ℤ) := by omega
  have hpow : (base : ℚ) ^ e = (base : ℚ) ^ e.toNat / (base : ℚ) ^ (-e).toNat := by
    conv_lhs => rw [hsplit]
    rw [zpow_sub₀ hb, zpow_natCast, zpow_natCast]
  rw [value, scaleBy, Nat.pow_eq, Nat.pow_eq, Nat.cast_mul, Nat.cast_mul, Nat.cast_pow, Nat.cast_pow, hpow, value,
    div_mul_div_comm]

theorem value_scaled {base : ℕ} (hbase : 0 < base) (c : ℕ) (e : ℤ) : (scaled base c e).value = c * (base : ℚ) ^ e := by
  rw [scaled, value_scaleBy hbase, value, Nat.cast_one, div_one]

theorem round_eq (hden : 0 < f.den) : f.round = nearestNat f.value := by
  have hd : (0 : ℚ) < f.den := Nat.cast_pos.mpr hden
  have hfloor : ⌊f.value⌋₊ = f.num / f.den := Nat.floor_div_eq_div f.num f.den
  have hrest : f.value - (f.num / f.den : ℕ) = (f.num % f.den : ℕ) / f.den := by
    have hdivmod : ((f.den * (f.num / f.den) + f.num % f.den : ℕ) : ℚ) = f.num := by rw [Nat.div_add_mod]
    rw [Nat.cast_add, Nat.cast_mul] at hdivmod
    rw [value, ← hdivmod, add_div, mul_div_cancel_left₀ _ hd.ne', add_sub_cancel_left]
  have hbelow : 2 * (f.num % f.den) < f.den ↔ 2 * (f.value - ⌊f.value⌋₊) < 1 := by
    rw [hfloor, hrest, ← mul_div_assoc, div_lt_one hd]
    exact_mod_cast Iff.rfl
  have habove : f.den < 2 * (f.num % f.den) ↔ 1 < 2 * (f.value - ⌊f.value⌋₊) := by
    rw [hfloor, hrest, ← mul_div_assoc, one_lt_div hd]
    exact_mod_cast Iff.rfl
  rw [round, nearestNat]
  simp only [hbelow, habove, hfloor]

/-- The lengths of numerator and denominator leave two candidates for the logarithm, and the comparison decides
between them. -/
theorem log2_eq (hnum : f.num ≠ 0) (hden : 0 < f.den) : f.log2 = Int.log 2 f.value := by
  have hpos := value_pos hnum hden
  have hd : (0 : ℚ) < f.den := Nat.cast_pos.mpr hden
  have hone : 1 < 2 := one_lt_two
  set e : ℤ := (f.num.log2 : ℤ) - f.den.log2 with he
  have hbelow : (2 : ℚ) ^ (e - 1) < f.value := by
    have hn : (2 : ℚ) ^ f.num.log2 ≤ f.num := by exact_mod_cast Nat.log2_self_le hnum
    have hlt : (f.den : ℚ) < 2 ^ (f.den.log2 + 1) := by exact_mod_cast Nat.lt_log2_self
    rw [value, lt_div_iff₀ hd]
    calc (2 : ℚ) ^ (e - 1) * f.den < (2 : ℚ) ^ (e - 1) * 2 ^ (f.den.log2 + 1) := by gcongr
      _ = 2 ^ f.num.log2 := by
          rw [← zpow_natCast, ← zpow_natCast, ← zpow_add₀ two_ne_zero]
          congr 1
          push_cast
          omega
      _ ≤ f.num := hn
  have habove : f.value < (2 : ℚ) ^ (e + 1) := by
    have hn : (2 : ℚ) ^ f.den.log2 ≤ f.den := by exact_mod_cast Nat.log2_self_le hden.ne'
    have hlt : (f.num : ℚ) < 2 ^ (f.num.log2 + 1) := by exact_mod_cast Nat.lt_log2_self
    rw [value, div_lt_iff₀ hd]
    calc (f.num : ℚ) < 2 ^ (f.num.log2 + 1) := hlt
      _ = (2 : ℚ) ^ (e + 1) * 2 ^ f.den.log2 := by
          rw [← zpow_natCast, ← zpow_natCast, ← zpow_add₀ two_ne_zero]
          congr 1
          push_cast
          omega
      _ ≤ (2 : ℚ) ^ (e + 1) * f.den := by gcongr
  have hlog : e - 1 ≤ Int.log 2 f.value ∧ Int.log 2 f.value < e + 1 :=
    ⟨(Int.zpow_le_iff_le_log hone hpos).mp (by exact_mod_cast hbelow.le),
      (Int.lt_zpow_iff_log_lt hone hpos).mp (by exact_mod_cast habove)⟩
  have hcompare : f.num * Nat.pow 2 (-e).toNat < f.den * Nat.pow 2 e.toNat ↔ Int.log 2 f.value < e := by
    have hscaled : (f.scaleBy 2 (-e)).value < 1 ↔ f.num * Nat.pow 2 (-e).toNat < f.den * Nat.pow 2 e.toNat := by
      rw [value, div_lt_one (Nat.cast_pos.mpr (den_scaleBy_pos two_pos hden (-e))), Nat.cast_lt, scaleBy, neg_neg]
    rw [← hscaled, value_scaleBy two_pos, ← Int.lt_zpow_iff_log_lt hone hpos, zpow_neg, ← div_eq_mul_inv,
      div_lt_one (zpow_pos (by norm_num) e)]
  rw [log2]
  simp only [← he, hcompare]
  split
  · omega
  · omega

/-- Rounding looks at nothing but the number. -/
theorem toMagnitude_eq (hden : 0 < f.den) : f.toMagnitude = nearestMagnitude f.value := by
  rw [toMagnitude, nearestMagnitude]
  by_cases hnum : f.num = 0
  · rw [if_pos hnum, if_pos ((value_eq_zero_iff hden).mpr hnum)]
  · rw [if_neg hnum, if_neg (mt (value_eq_zero_iff hden).mp hnum)]
    simp only [log2_eq hnum hden, round_eq (den_scaleBy_pos two_pos hden _), value_scaleBy two_pos, Nat.cast_ofNat]

end Fraction

/-! ## Very large and very small numbers -/

theorem nearestMagnitude_of_large {v : ℚ} (h : 2 ^ (1025 : ℤ) ≤ v) : nearestMagnitude v = infinityMagnitude := by
  have hpos : 0 < v := lt_of_lt_of_le (by positivity) h
  have hlog : 1025 ≤ Int.log 2 v := (Int.zpow_le_iff_le_log one_lt_two hpos).mp h
  rw [nearestMagnitude, if_neg hpos.ne', infinityMagnitude]
  dsimp only
  omega

theorem nearestMagnitude_of_small {v : ℚ} (hpos : 0 < v) (h : v < 2 ^ (-1076 : ℤ)) : nearestMagnitude v = 0 := by
  have hlog : Int.log 2 v < -1076 := (Int.lt_zpow_iff_log_lt one_lt_two hpos).mp h
  have hq : max (Int.log 2 v - 52) (-1074) = -1074 := by omega
  have hround : nearestNat (v * 2 ^ (1074 : ℤ)) = 0 := by
    apply nearestNat_of_lt_half
    calc 2 * (v * 2 ^ (1074 : ℤ)) < 2 * (2 ^ (-1076 : ℤ) * 2 ^ (1074 : ℤ)) := by gcongr
      _ = 2 * 2 ^ (-2 : ℤ) := by rw [← zpow_add₀ two_ne_zero]; rfl
      _ < 1 := by norm_num
  rw [nearestMagnitude, if_neg hpos.ne']
  simp only [hq, neg_neg, hround]
  decide

section Decimal

variable {c : ℕ} {e : ℤ}

theorem le_of_large_exponent (hc : c ≠ 0) (he : 400 < e) : (2 : ℚ) ^ (1025 : ℤ) ≤ c * 10 ^ e := by
  have hone : (1 : ℚ) ≤ c := Nat.one_le_cast.mpr (Nat.one_le_iff_ne_zero.mpr hc)
  calc (2 : ℚ) ^ (1025 : ℤ) ≤ 2 ^ (3 * 400 : ℤ) := zpow_le_zpow_right₀ one_le_two (by norm_num)
    _ = 8 ^ (400 : ℤ) := by rw [zpow_mul]; norm_num
    _ ≤ 10 ^ (400 : ℤ) := zpow_le_zpow_left₀ (by norm_num) (by norm_num) (by norm_num)
    _ ≤ 10 ^ e := zpow_le_zpow_right₀ (by norm_num) he.le
    _ ≤ c * 10 ^ e := le_mul_of_one_le_left (by positivity) hone

theorem lt_of_small_exponent (hc : c ≠ 0) (he : e < -(400 + c.log2 : ℤ)) : (c : ℚ) * 10 ^ e < 2 ^ (-1076 : ℤ) := by
  have hlt : (c : ℚ) < 2 ^ ((c.log2 : ℤ) + 1) := by exact_mod_cast Nat.lt_log2_self
  have hpow : (10 : ℚ) ^ (-(400 + c.log2 : ℤ)) ≤ 8 ^ (-(400 + c.log2 : ℤ)) := by
    rw [zpow_neg, zpow_neg]
    exact inv_anti₀ (by positivity) (zpow_le_zpow_left₀ (by omega) (by norm_num) (by norm_num))
  calc (c : ℚ) * 10 ^ e
      ≤ c * 10 ^ (-(400 + c.log2 : ℤ)) := by
        gcongr
        norm_num
    _ ≤ c * 8 ^ (-(400 + c.log2 : ℤ)) := by gcongr
    _ < 2 ^ ((c.log2 : ℤ) + 1) * 8 ^ (-(400 + c.log2 : ℤ)) := by gcongr
    _ = 2 ^ (-1199 - 2 * (c.log2 : ℤ)) := by
        rw [show (8 : ℚ) = 2 ^ (3 : ℤ) by norm_num, ← zpow_mul, ← zpow_add₀ two_ne_zero]
        congr 1
        ring
    _ ≤ 2 ^ (-1076 : ℤ) := zpow_le_zpow_right₀ one_le_two (by omega)

/-- That extreme exponents are answered at once changes nothing. -/
theorem decimalMagnitude_eq (c : ℕ) (e : ℤ) : decimalMagnitude c e = nearestMagnitude (c * 10 ^ e) := by
  have hten : 0 < 10 := by decide
  rw [decimalMagnitude]
  split
  next hc => rw [hc, Nat.cast_zero, zero_mul, nearestMagnitude, if_pos rfl]
  next hc =>
    split
    next hlarge => exact (nearestMagnitude_of_large (le_of_large_exponent hc hlarge)).symm
    next =>
      split
      next hsmall =>
        exact (nearestMagnitude_of_small (by positivity) (lt_of_small_exponent hc hsmall)).symm
      next =>
        rw [Fraction.toMagnitude_eq (f := Fraction.scaled 10 c e) (Fraction.den_scaleBy_pos hten one_pos e),
          Fraction.value_scaled hten]
        rfl

end Decimal

/-! ## The numbers of the doubles -/

theorem value_ofMagnitude (b : ℕ) : (Fraction.ofMagnitude b).value = mantissa b * 2 ^ exponent b :=
  Fraction.value_scaled two_pos _ _

theorem log_natCast_mul_zpow {m : ℕ} (hm : m ≠ 0) (q : ℤ) : Int.log 2 ((m : ℚ) * 2 ^ q) = m.log2 + q := by
  have hpos : (0 : ℚ) < m * 2 ^ q := by positivity
  have hle : (2 : ℚ) ^ (m.log2 : ℤ) ≤ m := by exact_mod_cast Nat.log2_self_le hm
  have hlt : (m : ℚ) < 2 ^ ((m.log2 : ℤ) + 1) := by exact_mod_cast Nat.lt_log2_self
  have hlower : (m.log2 : ℤ) + q ≤ Int.log 2 ((m : ℚ) * 2 ^ q) := by
    rw [← Int.zpow_le_iff_le_log one_lt_two hpos, Nat.cast_ofNat, zpow_add₀ two_ne_zero]
    gcongr
  have hupper : Int.log 2 ((m : ℚ) * 2 ^ q) < m.log2 + 1 + q := by
    rw [← Int.lt_zpow_iff_log_lt one_lt_two hpos, Nat.cast_ofNat, zpow_add₀ two_ne_zero]
    gcongr
  omega

/-- A mantissa of the right length is not rounded. -/
theorem nearestMagnitude_dyadic {m : ℕ} {q : ℤ} (hm : m ≠ 0) (hq : max (m.log2 + q - 52) (-1074) = q) :
    nearestMagnitude (m * 2 ^ q) = min ((q + 1074).toNat * 0x10000000000000 + m) infinityMagnitude := by
  have hunscaled : (m : ℚ) * 2 ^ q * 2 ^ (-q) = m := by
    rw [mul_assoc, ← zpow_add₀ two_ne_zero, add_neg_cancel, zpow_zero, mul_one]
  rw [nearestMagnitude, if_neg (by positivity)]
  simp only [log_natCast_mul_zpow hm, hq, hunscaled, nearestNat_natCast]

/-- A number that a finite double stands for is rounded to this double. -/
theorem nearestMagnitude_ofMagnitude {b : ℕ} (h : b < infinityMagnitude) :
    nearestMagnitude (Fraction.ofMagnitude b).value = b := by
  rw [infinityMagnitude] at h
  rw [value_ofMagnitude]
  by_cases hsubnormal : b < 0x10000000000000
  · rw [mantissa, if_pos hsubnormal, exponent, if_pos hsubnormal]
    by_cases hzero : b = 0
    · rw [hzero, Nat.cast_zero, zero_mul, nearestMagnitude, if_pos rfl]
    · have hlog : b.log2 < 52 := (Nat.log2_lt hzero).mpr hsubnormal
      rw [nearestMagnitude_dyadic hzero (by omega), infinityMagnitude]
      omega
  · rw [mantissa, if_neg hsubnormal, exponent, if_neg hsubnormal]
    have hne : 0x10000000000000 + b % 0x10000000000000 ≠ 0 := by omega
    have hlog : (0x10000000000000 + b % 0x10000000000000).log2 = 52 := by
      rw [Nat.log2_eq_iff hne]
      omega
    rw [nearestMagnitude_dyadic hne (by omega), infinityMagnitude]
    omega

end Reckon.Decimal
