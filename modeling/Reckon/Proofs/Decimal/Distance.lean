import Reckon.Proofs.Decimal.Finite

/-!
# Order and distance of doubles

Two doubles compare in exactly one of three ways, unless one of them is not a number, and then in none (`ordering`).
The comparisons ask which way it is (`lt_iff`, `le_iff`, `beq_iff`, `gt_iff`). So `x < y` and `y ≤ x` exclude each
other, and for two numbers one of them holds (`le_iff_not_lt`).

The distance of two doubles is the size of their difference. It is the same both ways round (`distance_comm`), although
the two differences need not be each other's negative: `x - x` is the positive zero whichever `x` comes first. It is
not a number where the difference is not, which is where one of the two is not or both are the same infinity
(`isNaN_distance`, `isNaN_sub`).

An operation takes doubles apart, computes, rounds, and puts the result together again. The facts of the parts are
carried over the last two steps by lemmas of their own: rounding only hands the sign on (`abs_round`), and what is put
together and taken apart again has the same size up to overflow and is a number if it was one (`abs_unpack_pack`,
`isNaN_unpack_pack`).
-/

namespace Reckon.Decimal

open Float.Model Float.Model.UnpackedFloat

/-! ## Order -/

section Unpacked

variable {a b : UnpackedFloat}

theorem compare_swap (a b : UnpackedFloat) : b.compare a = (a.compare b).map Ordering.swap := by
  cases a <;> cases b
  case finite.finite s m e hm s' m' e' hm' =>
    have h : (compare e' e).then (compare m' m) = ((compare e e').then (compare m m')).swap := by
      rw [Ordering.swap_then, Int.compare_swap, Nat.compare_swap]
    cases s <;> cases s' <;> simp [UnpackedFloat.compare, h]
  case infinity.infinity s s' => cases s <;> cases s' <;> rfl
  case infinity.zero s _ | infinity.finite s _ _ _ _ | zero.infinity _ s | finite.infinity _ _ _ _ s
      | zero.finite _ s _ _ _ | finite.zero s _ _ _ _ => cases s <;> rfl
  all_goals rfl

theorem compare_eq_none_iff : a.compare b = none ↔ a.isNaN = true ∨ b.isNaN = true := by
  cases a <;> cases b
  case finite.finite s _ _ _ s' _ _ _ =>
    cases s <;> cases s' <;> simp [UnpackedFloat.compare, UnpackedFloat.isNaN]
  case infinity.zero s _ | infinity.finite s _ _ _ _ | zero.infinity _ s | finite.infinity _ _ _ _ s
      | zero.finite _ s _ _ _ | finite.zero s _ _ _ _ =>
    cases s <;> simp [UnpackedFloat.compare, UnpackedFloat.isNaN]
  all_goals simp [UnpackedFloat.compare, UnpackedFloat.isNaN]

end Unpacked

variable {x y : Float}

/-- How a double compares to another; not at all, if one of them is not a number. -/
def ordering (x y : Float) : Option Ordering :=
  x.toModel.unpack.compare y.toModel.unpack

theorem ordering_swap (x y : Float) : ordering y x = (ordering x y).map Ordering.swap :=
  compare_swap _ _

theorem ordering_eq_none_iff : ordering x y = none ↔ x.isNaN = true ∨ y.isNaN = true :=
  compare_eq_none_iff

theorem lt_iff : x < y ↔ ordering x y = some .lt := by
  show decide (_ = true) = true ↔ _
  rw [decide_eq_true_eq]
  exact beq_iff_eq

theorem le_iff : x ≤ y ↔ ordering x y = some .lt ∨ ordering x y = some .eq := by
  show decide (_ = true) = true ↔ _
  rw [decide_eq_true_eq]
  show (ordering x y).any (·.isLE) = true ↔ _
  rcases ordering x y with _ | _ | _ | _ <;> decide

theorem beq_iff : (x == y) = true ↔ ordering x y = some .eq := by
  show (ordering x y == some .eq) = true ↔ _
  exact beq_iff_eq

theorem gt_iff : y < x ↔ ordering x y = some .gt := by
  rw [lt_iff, ordering_swap x y]
  rcases ordering x y with _ | _ | _ | _ <;> decide

theorem not_isNaN_of_ordering {o : Ordering} (h : ordering x y = some o) : x.isNaN = false ∧ y.isNaN = false := by
  have hnot : ¬(x.isNaN = true ∨ y.isNaN = true) := by
    rw [← ordering_eq_none_iff, h]
    exact Option.some_ne_none o
  rw [not_or] at hnot
  exact ⟨Bool.eq_false_iff.mpr hnot.1, Bool.eq_false_iff.mpr hnot.2⟩

theorem not_isNaN_of_lt (h : x < y) : x.isNaN = false :=
  (not_isNaN_of_ordering (lt_iff.mp h)).1

theorem not_isNaN_of_le (h : y ≤ x) : x.isNaN = false := by
  rcases le_iff.mp h with hlt | heq
  · exact (not_isNaN_of_ordering hlt).2
  · exact (not_isNaN_of_ordering heq).2

section Numbers

variable (hx : x.isNaN = false) (hy : y.isNaN = false)
include hx hy

theorem exists_ordering : ∃ o, ordering x y = some o := by
  refine Option.ne_none_iff_exists'.mp fun hnone => ?_
  rcases ordering_eq_none_iff.mp hnone with h | h
  · exact Bool.false_ne_true (hx.symm.trans h)
  · exact Bool.false_ne_true (hy.symm.trans h)

theorem le_iff_not_lt : y ≤ x ↔ ¬x < y := by
  obtain ⟨o, ho⟩ := exists_ordering hx hy
  rw [le_iff, lt_iff, ordering_swap x y, ho]
  cases o <;> decide

/-- Of two numbers that are not equal, one is the larger. -/
theorem xor_lt_of_not_beq (h : (x == y) = false) : Xor (y < x) (x < y) := by
  obtain ⟨o, ho⟩ := exists_ordering hx hy
  rw [gt_iff, lt_iff, ho]
  cases o with
  | lt => exact .inr ⟨rfl, nofun⟩
  | eq => exact absurd (beq_iff.mpr ho) (Bool.eq_false_iff.mp h)
  | gt => exact .inl ⟨rfl, nofun⟩

end Numbers

/-! ## Differences of what doubles are made of -/

section Unpacked

variable (spec : Format)

/-- The sign of what is rounded is the sign of the result, and nothing else hangs on it. -/
theorem abs_round (s : Sign) (m : Nat) (e : Int) :
    (UnpackedFloat.round spec s m e).abs = (UnpackedFloat.round spec .positive m e).abs := by
  simp only [UnpackedFloat.round, roundWithAccuracy]
  split <;> rfl

theorem isNaN_round (s : Sign) (m : Nat) (e : Int) : (UnpackedFloat.round spec s m e).isNaN = false := by
  simp only [UnpackedFloat.round, roundWithAccuracy]
  split <;> rfl

theorem abs_normalize_neg (n e : Int) :
    (UnpackedFloat.normalize spec (-n) e .positive).abs = (UnpackedFloat.normalize spec n e .positive).abs := by
  rcases lt_trichotomy n 0 with h | rfl | h
  · have hneg : compare n 0 = .lt := compare_lt_iff_lt.mpr h
    have hpos : compare (-n) 0 = .gt := compare_gt_iff_gt.mpr (neg_pos.mpr h)
    simp only [UnpackedFloat.normalize, hneg, hpos]
    exact (abs_round spec .negative _ _).symm
  · rfl
  · have hpos : compare n 0 = .gt := compare_gt_iff_gt.mpr h
    have hneg : compare (-n) 0 = .lt := compare_lt_iff_lt.mpr (neg_lt_zero.mpr h)
    simp only [UnpackedFloat.normalize, hneg, hpos, neg_neg]
    exact abs_round spec .negative _ _

theorem isNaN_normalize (n e : Int) (s : Sign) : (UnpackedFloat.normalize spec n e s).isNaN = false := by
  rw [UnpackedFloat.normalize]
  split
  · exact isNaN_round spec _ _ _
  · rfl
  · exact isNaN_round spec _ _ _

theorem abs_sub_swap (a b : UnpackedFloat) :
    (UnpackedFloat.sub spec a b).abs = (UnpackedFloat.sub spec b a).abs := by
  cases a <;> cases b
  case finite.finite s m e hm s' m' e' hm' =>
    -- both differences are formed at the smaller of the two exponents
    simp only [UnpackedFloat.sub]
    rw [min_comm e' e, ← neg_sub, abs_normalize_neg]
  case infinity.infinity s s' | zero.zero s s' => cases s <;> cases s' <;> rfl
  all_goals rfl

theorem isNaN_sub_iff (a b : UnpackedFloat) :
    (UnpackedFloat.sub spec a b).isNaN = true ↔
      a.isNaN = true ∨ b.isNaN = true ∨ (a.isInf = true ∧ a = b) := by
  cases a <;> cases b
  case infinity.infinity s s' =>
    cases s <;> cases s'
    case negative.positive | positive.negative =>
      refine iff_of_false nofun ?_
      rintro (h | h | ⟨-, h⟩) <;> cases h
    all_goals exact iff_of_true rfl (.inr (.inr ⟨rfl, rfl⟩))
  case finite.finite =>
    refine iff_of_false (Bool.not_eq_true _ ▸ isNaN_normalize spec _ _ _) ?_
    rintro (h | h | ⟨h, -⟩) <;> cases h
  case zero.zero s s' =>
    refine iff_of_false ?_ ?_
    · rw [UnpackedFloat.sub]
      split <;> exact Bool.false_ne_true
    · rintro (h | h | ⟨h, -⟩) <;> cases h
  all_goals simp [UnpackedFloat.sub, UnpackedFloat.isNaN, UnpackedFloat.isInf]

theorem sub_self_of_isFinite {a : UnpackedFloat} (h : a.isFinite = true) :
    UnpackedFloat.sub spec a a = .zero .positive := by
  cases a with
  | infinity s => cases h
  | notANumber => cases h
  | zero s => cases s <;> rfl
  | finite s m e hm =>
      simp only [UnpackedFloat.sub, Int.sub_self]
      rfl

end Unpacked

/-! ## Put together and taken apart -/

section Packed

variable {spec : Format} (s : Sign) (e : BitVec spec.exponentBits) (m : BitVec spec.mantissaBitsWithoutImplicit)

theorem abs_unpack_packComponents :
    (UnpackedFloat.unpack spec (packComponents spec s e m)).abs =
      UnpackedFloat.unpack spec (packComponents spec .positive e m) := by
  simp only [UnpackedFloat.unpack, unpackMantissa_packComponents, unpackExponent_packComponents,
    unpackSign_packComponents, Sign.ofBitVec_toBitVec]
  split
  · split <;> rfl
  · split
    · split <;> rfl
    · rfl

theorem isNaN_unpack_packComponents (h : e = -1#_ → m = 0#_) :
    (UnpackedFloat.unpack spec (packComponents spec s e m)).isNaN = false := by
  simp only [UnpackedFloat.unpack, unpackMantissa_packComponents, unpackExponent_packComponents]
  split
  next he => rw [if_pos (h he)]; rfl
  next =>
    split
    · split <;> rfl
    · rfl

end Packed

theorem abs_unpack_pack (spec : Format) (a : UnpackedFloat) :
    (UnpackedFloat.unpack spec (UnpackedFloat.pack spec a)).abs =
      UnpackedFloat.unpack spec (UnpackedFloat.pack spec a.abs) := by
  cases a with
  | infinity s => exact abs_unpack_packComponents s _ _
  | notANumber => exact abs_unpack_packComponents .positive _ _
  | zero s => exact abs_unpack_packComponents s _ _
  | finite s m e hm =>
      show _ = UnpackedFloat.unpack spec (UnpackedFloat.pack spec (.finite .positive m e hm))
      rw [UnpackedFloat.pack, UnpackedFloat.pack]
      split
      · exact abs_unpack_packComponents s _ _
      · split
        · exact abs_unpack_packComponents s _ _
        · exact abs_unpack_packComponents s _ _

theorem isNaN_unpack_pack (a : UnpackedFloat) :
    (UnpackedFloat.unpack .binary64 (UnpackedFloat.pack .binary64 a)).isNaN = a.isNaN := by
  cases a with
  | infinity s => exact isNaN_unpack_packComponents s _ _ fun _ => rfl
  | notANumber => rfl
  | zero s => exact isNaN_unpack_packComponents s _ _ nofun
  | finite s m e hm =>
      rw [UnpackedFloat.pack]
      split
      next => exact isNaN_unpack_packComponents s _ _ fun _ => rfl
      next hexponent =>
        split
        next =>
          -- the exponent is below that of the infinities, so that not all of its bits are set
          refine isNaN_unpack_packComponents s _ _ fun hones => ?_
          have hmod := congrArg BitVec.toNat hones
          rw [BitVec.toNat_ofNat] at hmod
          change _ % 2 ^ 11 = 2 ^ 11 - 1 at hmod
          change ¬2 ^ 11 ≤ _ + 1 at hexponent
          omega
        next => exact isNaN_unpack_packComponents s _ _ nofun

/-! ## Distance -/

theorem unpack_injective (h : x.toModel.unpack = y.toModel.unpack) : x = y :=
  Float.toBits_inj.mp (UInt64.toBitVec_inj.mp ((unpack_inj_of_valid x.toModel.valid y.toModel.valid).mp h))

theorem isNaN_sub : (x - y).isNaN = true ↔ x.isNaN = true ∨ y.isNaN = true ∨ (x.isInf = true ∧ x = y) := by
  have hunpacked : (x - y).isNaN = (UnpackedFloat.sub .binary64 x.toModel.unpack y.toModel.unpack).isNaN :=
    isNaN_unpack_pack _
  have heq : x.toModel.unpack = y.toModel.unpack ↔ x = y :=
    ⟨unpack_injective, congrArg fun z : Float => z.toModel.unpack⟩
  rw [hunpacked, isNaN_sub_iff, heq]
  exact Iff.rfl

/-- A difference that is too large for a double is still a number: an infinity. -/
theorem isNaN_sub_of_isFinite (hx : x.isFinite = true) (hy : y.isFinite = true) : (x - y).isNaN = false := by
  obtain ⟨hxnan, hxinf⟩ := isFinite_iff.mp hx
  obtain ⟨hynan, -⟩ := isFinite_iff.mp hy
  refine Bool.eq_false_iff.mpr fun hnan => ?_
  rcases isNaN_sub.mp hnan with h | h | ⟨h, -⟩
  · exact Bool.false_ne_true (hxnan.symm.trans h)
  · exact Bool.false_ne_true (hynan.symm.trans h)
  · exact Bool.false_ne_true (hxinf.symm.trans h)

theorem isNaN_abs (x : Float) : x.abs.isNaN = x.isNaN := by
  have hunpacked : x.abs.isNaN = x.toModel.unpack.abs.isNaN := isNaN_unpack_pack _
  rw [hunpacked]
  show _ = x.toModel.unpack.isNaN
  cases x.toModel.unpack <;> rfl

/-- How far two doubles are apart. -/
def distance (x y : Float) : Float :=
  (x - y).abs

theorem isNaN_distance (x y : Float) : (distance x y).isNaN = (x - y).isNaN :=
  isNaN_abs _

theorem distance_comm (x y : Float) : distance x y = distance y x := by
  have habs (x y : Float) : distance x y = .ofModel (.pack (UnpackedFloat.unpack .binary64
      (UnpackedFloat.pack .binary64 (UnpackedFloat.sub .binary64 x.toModel.unpack y.toModel.unpack).abs))) :=
    congrArg (fun u => Float.ofModel (.pack u)) (abs_unpack_pack .binary64 _)
  rw [habs, habs, abs_sub_swap]

/-- Equal numbers have no distance, and the two zeros are equal. -/
theorem distance_of_beq (hx : x.isFinite = true) (h : (x == y) = true) : distance x y = 0 := by
  obtain ⟨-, -, rfl | ⟨rfl, rfl⟩ | ⟨rfl, rfl⟩⟩ := Float.beq_iff_ne_nan_and_eq.mp h
  · have hzero : UnpackedFloat.sub .binary64 x.toModel.unpack x.toModel.unpack = .zero .positive :=
      sub_self_of_isFinite .binary64 hx
    show Float.abs (.ofModel (.pack (UnpackedFloat.sub .binary64 _ _))) = 0
    rw [hzero]
    decide
  · decide
  · decide

end Reckon.Decimal
