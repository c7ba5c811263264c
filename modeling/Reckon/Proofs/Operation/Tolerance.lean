import Reckon.Operation.Perform
import Reckon.Proofs.Decimal.Distance

/-!
# Equality with a tolerance

Equality and inequality both look at the distance of a value from the operand, and each compares it to the
tolerance on its own (`holds_equal`, `holds_notEqual`). They are each other's opposite where there is a distance to
compare. Where there is none, neither of them holds: so it is for not-a-number, and for an infinity and itself, which
are not equal by this comparison although no two doubles are closer. Equal finite numbers have the distance zero, so
that values which are not within the tolerance are in order, one way or the other.
-/

namespace Reckon

open Decimal

namespace Comparison

variable {c : Comparison} {v b : Float}

/-- What the operation that compares with `b` says of `v`. -/
def answer (c : Comparison) (v b : Float) : Except Malformed Bool :=
  ((Operation.structured (.comparison c) b).test v).outcome

theorem answer_eq (c : Comparison) (v b : Float) : c.answer v b = .ok (c.holds v b) := rfl

theorem answer_eq_true : c.answer v b = .ok true ↔ c.holds v b = true := by
  rw [answer_eq, Except.ok.injEq]

theorem answer_eq_false : c.answer v b = .ok false ↔ ¬c.holds v b = true := by
  rw [answer_eq, Except.ok.injEq, Bool.not_eq_true]

/-! ## The comparisons by the distance -/

theorem not_isNaN_tolerance : tolerance.isNaN = false := by
  decide +kernel

theorem holds_equal : equal.holds v b = true ↔ distance v b < tolerance :=
  decide_eq_true_iff

theorem holds_notEqual :
    notEqual.holds v b = true ↔ (v - b).isNaN = false ∧ ¬distance v b < tolerance := by
  have hle : notEqual.holds v b = true ↔ tolerance ≤ distance v b := decide_eq_true_iff
  rw [hle, ← isNaN_distance]
  constructor
  · intro h
    have hnumber := not_isNaN_of_le h
    exact ⟨hnumber, (le_iff_not_lt hnumber not_isNaN_tolerance).mp h⟩
  · rintro ⟨hnumber, h⟩
    exact (le_iff_not_lt hnumber not_isNaN_tolerance).mpr h

/-- What is within the tolerance has a distance. -/
theorem not_isNaN_of_holds_equal (h : equal.holds v b = true) : (v - b).isNaN = false := by
  rw [← isNaN_distance]
  exact not_isNaN_of_lt (holds_equal.mp h)

theorem not_holds_both (h : equal.holds v b = true) : ¬notEqual.holds v b = true :=
  fun hne => (holds_notEqual.mp hne).2 (holds_equal.mp h)

theorem holds_xor_iff : Xor (equal.holds v b = true) (notEqual.holds v b = true) ↔ (v - b).isNaN = false := by
  constructor
  · rintro (⟨h, -⟩ | ⟨h, -⟩)
    · exact not_isNaN_of_holds_equal h
    · exact (holds_notEqual.mp h).1
  · intro hnumber
    by_cases h : equal.holds v b = true
    · exact .inl ⟨h, not_holds_both h⟩
    · exact .inr ⟨holds_notEqual.mpr ⟨hnumber, mt holds_equal.mpr h⟩, h⟩

theorem not_holds_iff :
    (¬equal.holds v b = true ∧ ¬notEqual.holds v b = true) ↔
      v.isNaN = true ∨ b.isNaN = true ∨ (v.isInf = true ∧ v = b) := by
  rw [← isNaN_sub]
  constructor
  · rintro ⟨he, hne⟩
    by_contra hnumber
    rcases holds_xor_iff.mpr (Bool.eq_false_iff.mpr hnumber) with ⟨h, -⟩ | ⟨h, -⟩
    · exact he h
    · exact hne h
  · intro hnan
    have hnot : ¬(v - b).isNaN = false := by
      rw [hnan]
      exact Bool.true_eq_false_eq_False
    exact ⟨mt not_isNaN_of_holds_equal hnot, fun h => hnot (holds_notEqual.mp h).1⟩

/-- An infinity is neither within the tolerance of itself nor outside of it. -/
example : equal.holds (infinity false) (infinity false) = false ∧
    notEqual.holds (infinity false) (infinity false) = false := by
  decide +kernel

/-- Either comparison is the same both ways round. -/
theorem holds_comm (hc : c = equal ∨ c = notEqual) (v b : Float) : c.holds v b = c.holds b v := by
  rcases hc with rfl | rfl
  · exact congrArg (fun d => decide (d < tolerance)) (distance_comm v b)
  · exact congrArg (fun d => decide (tolerance ≤ d)) (distance_comm v b)

/-- Equal numbers are within the tolerance. -/
theorem holds_equal_of_beq (hv : v.isFinite = true) (h : (v == b) = true) : equal.holds v b = true := by
  rw [holds_equal, distance_of_beq hv h]
  decide +kernel

theorem holds_notEqual_of_not (hv : v.isFinite = true) (hb : b.isFinite = true) (h : ¬equal.holds v b = true) :
    notEqual.holds v b = true :=
  holds_notEqual.mpr ⟨isNaN_sub_of_isFinite hv hb, mt holds_equal.mpr h⟩

/-- Finite numbers that are not within the tolerance are in order. -/
theorem holds_order_of_not (hv : v.isFinite = true) (hb : b.isFinite = true) (h : ¬equal.holds v b = true) :
    Xor (greater.holds v b = true) (less.holds v b = true) := by
  have hne : (v == b) = false := Bool.eq_false_iff.mpr fun heq => h (holds_equal_of_beq hv heq)
  have hgreater : greater.holds v b = true ↔ b < v := decide_eq_true_iff
  have hless : less.holds v b = true ↔ v < b := decide_eq_true_iff
  rw [hgreater, hless]
  exact xor_lt_of_not_beq (isFinite_iff.mp hv).1 (isFinite_iff.mp hb).1 hne

end Comparison

/-! ## The headline theorem -/

open Comparison

/-- **Equality and inequality allow for the tolerance.** They never hold both; one of them holds exactly if the
difference is a number, so that neither does for not-a-number and for an infinity and itself. Each is the same both
ways round. Equality holds of equal finite numbers, the two zeros among them; and where it fails for finite numbers,
inequality holds, and one of the two is larger. -/
theorem equality_with_tolerance (v b : Float) :
    (∀ c : Comparison, c.answer v b = .ok true ∨ c.answer v b = .ok false) ∧
    ¬(equal.answer v b = .ok true ∧ notEqual.answer v b = .ok true) ∧
    (Xor (equal.answer v b = .ok true) (notEqual.answer v b = .ok true) ↔ (v - b).isNaN = false) ∧
    (equal.answer v b = .ok false ∧ notEqual.answer v b = .ok false ↔
      v.isNaN = true ∨ b.isNaN = true ∨ (v.isInf = true ∧ v = b)) ∧
    equal.answer v b = equal.answer b v ∧
    notEqual.answer v b = notEqual.answer b v ∧
    (v.isFinite = true → (v == b) = true → equal.answer v b = .ok true) ∧
    (v.isFinite = true → b.isFinite = true → equal.answer v b = .ok false →
      notEqual.answer v b = .ok true ∧
      Xor (greater.answer v b = .ok true) (less.answer v b = .ok true)) := by
  refine ⟨fun c => ?_, ?_, ?_, ?_, ?_, ?_, ?_, ?_⟩
  · rw [answer_eq_true, answer_eq_false]
    exact Classical.em _
  · rw [answer_eq_true, answer_eq_true]
    exact fun h => not_holds_both h.1 h.2
  · rw [answer_eq_true, answer_eq_true]
    exact holds_xor_iff
  · rw [answer_eq_false, answer_eq_false]
    exact not_holds_iff
  · exact congrArg Except.ok (holds_comm (.inl rfl) v b)
  · exact congrArg Except.ok (holds_comm (.inr rfl) v b)
  · rw [answer_eq_true]
    exact holds_equal_of_beq
  · intro hv hb h
    rw [answer_eq_false] at h
    rw [answer_eq_true, answer_eq_true, answer_eq_true]
    exact ⟨holds_notEqual_of_not hv hb h, holds_order_of_not hv hb h⟩

/-- At a distance that is the tolerance itself, equality fails already. -/
theorem equality_with_tolerance_boundary :
    equal.answer tolerance 0 = .ok false ∧ notEqual.answer tolerance 0 = .ok true ∧
    Xor (greater.answer tolerance 0 = .ok true) (less.answer tolerance 0 = .ok true) ∧
    equal.answer 0 (-0) = .ok true := by
  have hfails : equal.answer tolerance 0 = .ok false := by decide +kernel
  obtain ⟨-, -, -, -, -, -, -, horder⟩ := equality_with_tolerance tolerance 0
  obtain ⟨-, -, -, -, -, -, hzeros, -⟩ := equality_with_tolerance 0 (-0)
  obtain ⟨hne, hxor⟩ := horder (by decide +kernel) (by decide +kernel) hfails
  exact ⟨hfails, hne, hxor, hzeros (by decide +kernel) (by decide +kernel)⟩

end Reckon
