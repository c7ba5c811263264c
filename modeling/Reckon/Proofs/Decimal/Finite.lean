import Mathlib
import Reckon.Decimal.Binary

/-!
# Finite doubles

A double is its sign and its magnitude (`ofMagnitude_magnitude`), and up to that of the infinities every magnitude
makes a double of its own (`toNat_toBits_ofMagnitude`), a number or an infinity. Below it the double is finite
(`isFinite_ofMagnitude`, `magnitude_lt_of_isFinite`), and a finite double is equal to itself (`beq_self_of_isFinite`),
which not-a-number is not. Equal to zero are the two zeros alone (`beq_zero_iff`).

An integer of 64 bits lies far below the largest double, so that the double nearest to it is finite
(`isFinite_ofInteger`). The bound comes from its length: scaled to 53 bits and rounded, a mantissa is at most `2 ^ 53`
(`Fraction.round_le`), whatever is then added for the exponent.
-/

namespace Reckon.Decimal

open Float.Model Float.Model.UnpackedFloat

/-! ## Bits -/

theorem beq_self_of_isFinite {x : Float} (h : x.isFinite = true) : (x == x) = true := by
  rw [Float.beq_self_iff]
  rintro rfl
  cases h

/-- Only the two zeros are equal to zero; not-a-number is not. -/
theorem beq_zero_iff {x : Float} : (x == 0) = true ↔ x = 0 ∨ x = -0 := by
  have hpos : (0 : Float) ≠ Float.nan := by decide
  have hneg : (-0 : Float) ≠ Float.nan := by decide
  rw [Float.beq_iff_ne_nan_and_eq]
  constructor
  · rintro ⟨-, -, rfl | ⟨rfl, -⟩ | ⟨rfl, -⟩⟩
    · exact .inl rfl
    · exact .inl rfl
    · exact .inr rfl
  · rintro (rfl | rfl)
    · exact ⟨hpos, hpos, .inl rfl⟩
    · exact ⟨hneg, hpos, .inr (.inr ⟨rfl, rfl⟩)⟩

/-- The numbers that are not finite have all bits of the exponent set. -/
theorem isFinite_unpack {spec : Format} {b : BitVec spec.numBits}
    (h : unpackExponent b ≠ -1#_) : (UnpackedFloat.unpack spec b).isFinite = true := by
  rw [UnpackedFloat.unpack]
  rw [if_neg h]
  split
  · split <;> rfl
  · rfl

/-- Up to the infinities the bits are kept; above there is only one not-a-number. -/
theorem toBits_ofBits {b : UInt64} (h : b.toNat % 0x8000000000000000 ≤ infinityMagnitude) :
    (Float.ofBits b).toBits = b := by
  have hnan : @isNaNBits Format.binary64 b.toBitVec = false := by
    rw [isNaNBits, decide_eq_false_iff_not]
    rintro ⟨hexponent, hmantissa⟩
    have hones := congrArg BitVec.toNat hexponent
    change b.toNat >>> 52 % 2 ^ 11 = 0x7FF at hones
    rw [Nat.shiftRight_eq_div_pow] at hones
    apply hmantissa
    apply BitVec.eq_of_toNat_eq
    change b.toNat >>> 0 % 2 ^ 52 = 0
    rw [infinityMagnitude] at h
    rw [Nat.shiftRight_zero]
    omega
  show UInt64.ofBitVec (UnpackedFloat.pack Format.binary64 (UnpackedFloat.unpack Format.binary64 b.toBitVec)) = b
  rw [@pack_unpack Format.binary64 b.toBitVec (by decide), hnan]
  rfl

theorem isFinite_ofBits {b : UInt64} (h : b.toNat / 0x10000000000000 % 0x800 ≠ 0x7FF) :
    (Float.ofBits b).isFinite = true := by
  have hexponent : @unpackExponent Format.binary64 b.toBitVec ≠ -1#_ := by
    intro he
    have htoNat := congrArg BitVec.toNat he
    change b.toNat >>> 52 % 2 ^ 11 = 0x7FF at htoNat
    rw [Nat.shiftRight_eq_div_pow] at htoNat
    exact h htoNat
  have hbits : (Float.ofBits b).toBits = b := by
    apply toBits_ofBits
    rw [infinityMagnitude]
    omega
  show (UnpackedFloat.unpack Format.binary64 (Float.ofBits b).toBits.toBitVec).isFinite = true
  rw [hbits]
  exact isFinite_unpack hexponent

theorem isFinite_ofMagnitude (negative : Bool) {b : Nat} (h : b < infinityMagnitude) :
    (ofMagnitude negative b).isFinite = true := by
  rw [infinityMagnitude] at h
  apply isFinite_ofBits
  rw [UInt64.toNat_ofNat']
  cases negative with
  | false =>
      simp only [Bool.false_eq_true, if_false]
      omega
  | true =>
      simp only [if_true]
      omega

theorem isFinite_iff {x : Float} : x.isFinite = true ↔ x.isNaN = false ∧ x.isInf = false := by
  show x.toModel.unpack.isFinite = true ↔ x.toModel.unpack.isNaN = false ∧ x.toModel.unpack.isInf = false
  cases x.toModel.unpack with
  | notANumber => exact ⟨nofun, fun h => nomatch h.1⟩
  | infinity s => exact ⟨nofun, fun h => nomatch h.2⟩
  | zero s => exact ⟨fun _ => ⟨rfl, rfl⟩, fun _ => rfl⟩
  | finite s m e hm => exact ⟨fun _ => ⟨rfl, rfl⟩, fun _ => rfl⟩

/-! ## Sign and magnitude -/

theorem ofMagnitude_magnitude (x : Float) : ofMagnitude (isNegative x) (magnitude x) = x := by
  have hword : (if isNegative x then 0x8000000000000000 else 0) + magnitude x = x.toBits.toNat := by
    have hlt := x.toBits.toNat_lt
    rw [isNegative, magnitude]
    by_cases h : 0x8000000000000000 ≤ x.toBits.toNat
    · simp only [h, decide_true, if_true]
      omega
    · simp only [h, decide_false, Bool.false_eq_true, if_false]
      omega
  rw [ofMagnitude, hword, UInt64.ofNat_toNat, Float.ofBits_toBits]

theorem magnitude_lt_of_isFinite {x : Float} (h : x.isFinite = true) : magnitude x < infinityMagnitude := by
  by_contra hle
  have hones : @unpackExponent Format.binary64 x.toBits.toBitVec = -1#_ := by
    apply BitVec.eq_of_toNat_eq
    change x.toBits.toNat >>> 52 % 2 ^ 11 = 0x7FF
    have hlt := x.toBits.toNat_lt
    rw [Nat.shiftRight_eq_div_pow]
    rw [magnitude, infinityMagnitude] at hle
    omega
  have hunpack : (UnpackedFloat.unpack Format.binary64 x.toBits.toBitVec).isFinite = true := h
  rw [UnpackedFloat.unpack, if_pos hones] at hunpack
  split at hunpack
  · cases hunpack
  · cases hunpack

section Sign

variable (negative : Bool) {b : Nat} (h : b ≤ infinityMagnitude)
include h

theorem toNat_toBits_ofMagnitude :
    (ofMagnitude negative b).toBits.toNat = (if negative then 0x8000000000000000 else 0) + b := by
  have hword : (UInt64.ofNat ((if negative then 0x8000000000000000 else 0) + b)).toNat =
      (if negative then 0x8000000000000000 else 0) + b := by
    rw [UInt64.toNat_ofNat']
    rw [infinityMagnitude] at h
    split <;> omega
  rw [ofMagnitude, toBits_ofBits, hword]
  rw [hword]
  rw [infinityMagnitude] at h ⊢
  split <;> omega

theorem isNegative_ofMagnitude : isNegative (ofMagnitude negative b) = negative := by
  rw [isNegative, toNat_toBits_ofMagnitude negative h]
  rw [infinityMagnitude] at h
  cases negative with
  | false =>
      simp only [Bool.false_eq_true, if_false, decide_eq_false_iff_not]
      omega
  | true => simp

theorem isNaN_ofMagnitude : (ofMagnitude negative b).isNaN = false := by
  rw [Float.isNaN_eq_decide_eq_nan, decide_eq_false_iff_not]
  intro hnan
  have hbits := congrArg (fun x : Float => x.toBits.toNat % 0x8000000000000000) hnan
  have hquiet : Float.nan.toBits.toNat = 0x7FF8000000000000 := by decide
  simp only [toNat_toBits_ofMagnitude negative h, hquiet] at hbits
  rw [infinityMagnitude] at h
  split at hbits <;> omega

end Sign

/-! ## Rounding -/

namespace Fraction

/-- Rounding does not pass an integer. -/
theorem round_le {f : Fraction} {k : Nat} (h : f.num ≤ k * f.den) (hden : 0 < f.den) : f.round ≤ k := by
  have hdiv : f.num / f.den ≤ k := by
    rw [← Nat.mul_div_cancel k hden]
    exact Nat.div_le_div_right h
  rcases Nat.lt_or_eq_of_le hdiv with hlt | heq
  · rw [round]
    split
    · exact hdiv
    · split
      · exact hlt
      · omega
  · -- nothing is left over, for otherwise the fraction would be larger than `k`
    have hmod : f.num % f.den = 0 := by
      have hsplit := Nat.div_add_mod f.num f.den
      rw [heq, Nat.mul_comm] at hsplit
      omega
    rw [round]
    rw [hmod, if_pos hden]
    exact hdiv

theorem log2_ofNat {c : Nat} (h : c ≠ 0) : log2 ⟨c, 1⟩ = c.log2 := by
  have hle : ¬c * Nat.pow 2 (-(c.log2 : Int)).toNat < 1 * Nat.pow 2 (c.log2 : Int).toNat := by
    have hself : 2 ^ c.log2 ≤ c := Nat.log2_self_le h
    rw [Int.toNat_of_nonpos (by omega), Int.toNat_natCast]
    show ¬c * 1 < 1 * 2 ^ c.log2
    omega
  have hzero : ((c.log2 : Int) - Nat.log2 1) = c.log2 := Int.sub_zero _
  rw [log2, hzero]
  exact if_neg hle

theorem toMagnitude_ofNat_lt {c : Nat} (h : c < 0x10000000000000000) :
    toMagnitude ⟨c, 1⟩ < infinityMagnitude := by
  by_cases hc : c = 0
  · subst hc
    decide
  · have hlog : c.log2 < 64 := (Nat.log2_lt hc).mpr h
    have hq : max ((c.log2 : Int) - 52) (-1074) = (c.log2 : Int) - 52 := by omega
    have hround : (scaleBy ⟨c, 1⟩ 2 (-((c.log2 : Int) - 52))).round ≤ 2 ^ 53 := by
      apply round_le
      · show c * 2 ^ (-((c.log2 : Int) - 52)).toNat ≤ 2 ^ 53 * (1 * 2 ^ (- -((c.log2 : Int) - 52)).toNat)
        have hlt : c < 2 ^ (c.log2 + 1) := Nat.lt_log2_self
        calc c * 2 ^ (-((c.log2 : Int) - 52)).toNat
            ≤ 2 ^ (c.log2 + 1) * 2 ^ (-((c.log2 : Int) - 52)).toNat := Nat.mul_le_mul_right _ hlt.le
          _ = 2 ^ 53 * (1 * 2 ^ (- -((c.log2 : Int) - 52)).toNat) := by
              rw [Nat.one_mul, ← Nat.pow_add, ← Nat.pow_add]
              congr 1
              omega
      · show 0 < 1 * 2 ^ (- -((c.log2 : Int) - 52)).toNat
        rw [Nat.one_mul]
        exact Nat.two_pow_pos _
    rw [toMagnitude, if_neg hc, log2_ofNat hc]
    show min (_ * _ + _) infinityMagnitude < infinityMagnitude
    rw [hq, infinityMagnitude]
    omega

end Fraction

/-- An integer of 64 bits is no infinite double. -/
theorem isFinite_ofInteger (negative : Bool) {c : Nat} (h : c < 0x10000000000000000) :
    (ofDecimal negative c 0).isFinite = true := by
  apply isFinite_ofMagnitude
  have hscaled : Fraction.scaled 10 c 0 = ⟨c, 1⟩ := by
    show Fraction.mk (c * 1) (1 * 1) = ⟨c, 1⟩
    rw [Nat.mul_one]
  rw [decimalMagnitude, hscaled]
  split
  · decide
  · split
    · omega
    · split
      · decide
      · exact Fraction.toMagnitude_ofNat_lt h

end Reckon.Decimal
