import Reckon.Cli.Run
import Reckon.Proofs.Cli.Commands
import Reckon.Proofs.Decimal.Distance
import Reckon.Proofs.Json.Line

/-!
# Results as text

A result is a number or a truth value. A number that is finite has a text of its own, and the infinities and
not-a-number have their names in quotes (`NumberText`); that is the text of the JSON value that stands for the number
(`numberText_compact`, `NumberText.eq_compact`). None of these has parts, so that a result has the same text over
several lines, and is written as one line (`outcome_print_of_ok`).
-/

namespace Reckon.Cli

/-! ## Numbers -/

/-- The text that stands for a number. -/
inductive NumberText : Float → String → Prop
  | finite {w : Float} (h : w.isFinite = true) : NumberText w (String.ofList (Number.layout.ofFinite w))
  | nan {w : Float} (h : w.isNaN = true) : NumberText w "\"NaN\""
  | infinity {w : Float} (h : w.isInf = true) (positive : 0 < w) : NumberText w "\"Infinity\""
  | negInfinity {w : Float} (h : w.isInf = true) (negative : w < 0) : NumberText w "\"-Infinity\""

variable {w : Float} {text : String}

/-- An infinity is on one side of zero. -/
theorem xor_of_isInf (hnan : w.isNaN = false) (h : w.isInf = true) : Xor (0 < w) (w < 0) := by
  have hzero : (w == 0) = false := by
    refine Bool.eq_false_iff.mpr fun heq => ?_
    rcases Decimal.beq_zero_iff.mp heq with rfl | rfl
    · exact absurd h (by decide)
    · exact absurd h (by decide)
  exact Decimal.xor_lt_of_not_beq hnan (by decide) hzero

theorem not_isFinite_of_isInf (h : w.isInf = true) : ¬w.isFinite = true := by
  intro hfinite
  rw [(Decimal.isFinite_iff.mp hfinite).2] at h
  cases h

theorem numberText_compact (w : Float) : NumberText w (Json.ofFloat w).compact := by
  unfold Json.ofFloat
  split
  case isTrue hfinite =>
    rw [Json.compact_scalar]
    exact .finite hfinite
  case isFalse hfinite =>
    split
    case isTrue hnan => exact .nan hnan
    case isFalse hnan =>
      have hnan : w.isNaN = false := Bool.eq_false_iff.mpr hnan
      have hinf : w.isInf = true := by
        by_contra hinf
        exact hfinite (Decimal.isFinite_iff.mpr ⟨hnan, Bool.eq_false_iff.mpr hinf⟩)
      rcases xor_of_isInf hnan hinf with ⟨hlt, -⟩ | ⟨hlt, hnot⟩
      · rw [if_pos hlt]
        exact .infinity hinf hlt
      · rw [if_neg hnot]
        exact .negInfinity hinf hlt

theorem NumberText.eq_compact (h : NumberText w text) : text = (Json.ofFloat w).compact := by
  cases h with
  | finite h =>
      rw [Json.ofFloat, dif_pos h, Json.compact_scalar]
      rfl
  | nan h =>
      have hfinite : ¬w.isFinite = true := fun hfinite => by
        rw [(Decimal.isFinite_iff.mp hfinite).1] at h
        cases h
      rw [Json.ofFloat, dif_neg hfinite, if_pos h]
      rfl
  | infinity h positive =>
      have hnan : w.isNaN = false := (Decimal.not_isNaN_of_ordering (Decimal.lt_iff.mp positive)).2
      rw [Json.ofFloat, dif_neg (not_isFinite_of_isInf h), if_neg (Bool.eq_false_iff.mp hnan), if_pos positive]
      rfl
  | negInfinity h negative =>
      have hnan : w.isNaN = false := Decimal.not_isNaN_of_lt negative
      have hnot : ¬0 < w := by
        rcases xor_of_isInf hnan h with ⟨-, hnot⟩ | ⟨-, hnot⟩
        · exact absurd negative hnot
        · exact hnot
      rw [Json.ofFloat, dif_neg (not_isFinite_of_isInf h), if_neg (Bool.eq_false_iff.mp hnan), if_neg hnot]
      rfl

theorem compact_bool (b : Bool) : (Json.bool b).compact = if b then "true" else "false" := by
  cases b <;> rfl

/-! ## Commands -/

variable {c : Command} {v : Json}

theorem exists_scalar_ofFloat (x : Float) : ∃ s, Json.ofFloat x = .scalar s := by
  unfold Json.ofFloat
  split
  · exact ⟨_, rfl⟩
  · split
    · exact ⟨_, rfl⟩
    · split <;> exact ⟨_, rfl⟩

/-- A result has no parts. -/
theorem Command.exists_scalar (h : c.answer = .ok v) : ∃ s, v = .scalar s := by
  cases c with
  | eval expression x =>
      obtain ⟨w, -, rfl⟩ := map_eq_ok.mp h
      exact exists_scalar_ofFloat w
  | apply o x =>
      obtain ⟨w, -, rfl⟩ := map_eq_ok.mp h
      exact exists_scalar_ofFloat w
  | test o x =>
      obtain ⟨b, -, rfl⟩ := map_eq_ok.mp h
      exact ⟨_, rfl⟩

theorem Command.pretty_eq_compact (h : c.execute.outcome = .ok v) : v.pretty = v.compact := by
  rw [outcome_execute, mapError_eq_ok] at h
  obtain ⟨s, rfl⟩ := exists_scalar h
  exact Json.pretty_scalar s

/-- The line of a result. -/
theorem outcome_print_of_ok (h : c.answer = .ok v) (pretty : Bool) :
    (print pretty c).outcome = .ok (v.compact ++ "\n") := by
  have hexecute : c.execute.outcome = .ok v := by
    rw [Command.outcome_execute, h]
    rfl
  rw [print, Attempt.outcome_bind, hexecute, ok_bind, Command.pretty_eq_compact hexecute, ite_self,
    Attempt.outcome_pure]

theorem outcome_print_of_error {m : Malformed} (h : c.answer = .error m) (pretty : Bool) :
    (print pretty c).outcome = .error (.evaluation m) := by
  rw [print, Attempt.outcome_bind, Command.outcome_execute, h]
  rfl

end Reckon.Cli
