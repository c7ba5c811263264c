import Reckon.Proofs.Cli.Outcomes
import Reckon.Proofs.Json.Blanks
import Reckon.Proofs.Operation.Text
import Reckon.Proofs.Text.Trim

/-!
# Blanks around a descriptor

A user may put blanks of any sort around the text of a descriptor, where JSON allows for the four spaces alone. The
blanks are trimmed before the text is decoded, so that they never matter (`Cli.parseDescriptor_surround`). What JSON
accepts as it is keeps its meaning when it is trimmed (`Cli.parseDescriptor_of_parse?`), and what is accepted beyond
that has a blank at one of its ends which is no space (`Cli.exists_of_outcome_parseDescriptor`).
-/

namespace Reckon

open Text

variable {s u w : String}

theorem Operation.parse_of_none (h : Json.parse? s = none) : parse s = throw (.notJson s) := by
  rw [parse, h]

theorem Operation.exists_of_outcome_parse {o : Operation} (h : (parse s).outcome = .ok o) :
    ∃ v, Json.parse? s = some v := by
  cases hv : Json.parse? s with
  | some v => exact ⟨v, rfl⟩
  | none =>
      rw [parse_of_none hv] at h
      cases h

namespace Cli

theorem parseDescriptor_surround (s : String) (hu : ∀ c ∈ u.toList, isBlank c = true)
    (hw : ∀ c ∈ w.toList, isBlank c = true) : parseDescriptor (u ++ s ++ w) = parseDescriptor s := by
  unfold parseDescriptor
  rw [trimmed_surround s hu hw]

/-- Trimming does not change the value of a JSON text. -/
theorem parse?_trimmed {v : Json} (h : Json.parse? s = some v) : Json.parse? (trimmed s) = some v := by
  obtain ⟨u, w, hcut, hu, hw⟩ := exists_eq_trimmed s
  rw [hcut, Json.parse?_surround _ hu hw] at h
  exact (Option.ite_none_right_eq_some.mp h).2

theorem parseDescriptor_of_parse? {v : Json} (h : Json.parse? s = some v) :
    parseDescriptor s = (Operation.parse s).mapError .descriptor := by
  have htrimmed := parse?_trimmed h
  rw [parseDescriptor_of_not_blank (not_blank_of_parse? htrimmed), Operation.parse_eq_ofJson htrimmed,
    Operation.parse_eq_ofJson h]

/-- Where trimming was needed, it took off a blank that is no space. -/
theorem exists_of_outcome_parseDescriptor {o : Operation} (h : (parseDescriptor s).outcome = .ok o) :
    ∃ u v w, s = u ++ v ++ w ∧ (∀ c ∈ u.toList, isBlank c = true) ∧ (∀ c ∈ w.toList, isBlank c = true) ∧
      (Operation.parse v).outcome = .ok o ∧
      ((∃ e, (Operation.parse s).outcome = .error e) ↔ ∃ c ∈ (u ++ w).toList, Json.isSpace c = false) := by
  have hsolid : ¬∀ c ∈ s.toList, isBlank c = true := by
    intro hblank
    rw [parseDescriptor_of_blank hblank] at h
    cases h
  rw [parseDescriptor_of_not_blank hsolid, Attempt.outcome_mapError, mapError_eq_ok] at h
  obtain ⟨u, w, hcut, hu, hw⟩ := exists_eq_trimmed s
  refine ⟨u, trimmed s, w, hcut, hu, hw, h, ?_⟩
  obtain ⟨v, hv⟩ := Operation.exists_of_outcome_parse h
  have hparse : Json.parse? s = if (u ++ w).toList.all Json.isSpace then some v else none := by
    conv_lhs => rw [hcut]
    rw [Json.parse?_surround (trimmed s) hu hw, hv]
  cases hspaces : (u ++ w).toList.all Json.isSpace with
  | true =>
      rw [hspaces, if_pos rfl] at hparse
      rw [Operation.parse_eq_ofJson hparse, ← Operation.parse_eq_ofJson hv, h]
      refine iff_of_false (fun ⟨e, he⟩ => nomatch he) fun ⟨c, hc, hno⟩ => ?_
      rw [List.all_eq_true.mp hspaces c hc] at hno
      cases hno
  | false =>
      rw [hspaces, if_neg Bool.false_ne_true] at hparse
      obtain ⟨c, hc, hno⟩ := List.all_eq_false.mp hspaces
      exact iff_of_true ⟨.notJson s, congrArg Attempt.outcome (Operation.parse_of_none hparse)⟩
        ⟨c, hc, Bool.not_eq_true _ ▸ hno⟩

end Cli

/-! ## The headline theorem -/

open Cli in
/-- **Blanks around a descriptor never matter.** A text without anything else is refused as none at all. Blanks of
any sort before and behind a text change nothing, neither the operation nor the error nor the records. What is JSON
without them is decoded as it is, so that whatever describes an operation by itself describes it here; and what
describes an operation here is such a text with blanks around it, where the text as a whole describes none just if one
of these blanks is no space. -/
theorem parseDescriptor_extends_parse (t : String) :
    ((parseDescriptor t).outcome = .error .noInput ↔ ∀ c ∈ t.toList, isBlank c = true) ∧
    (∀ u w : String, (∀ c ∈ u.toList, isBlank c = true) → (∀ c ∈ w.toList, isBlank c = true) →
      parseDescriptor (u ++ t ++ w) = parseDescriptor t) ∧
    (∀ v, Json.parse? t = some v → parseDescriptor t = (Operation.parse t).mapError .descriptor) ∧
    (∀ o, (Operation.parse t).outcome = .ok o → (parseDescriptor t).outcome = .ok o) ∧
    ∀ o, (parseDescriptor t).outcome = .ok o →
      ∃ u s w, t = u ++ s ++ w ∧ (∀ c ∈ u.toList, isBlank c = true) ∧ (∀ c ∈ w.toList, isBlank c = true) ∧
        (Operation.parse s).outcome = .ok o ∧
        ((∃ e, (Operation.parse t).outcome = .error e) ↔ ∃ c ∈ (u ++ w).toList, Json.isSpace c = false) := by
  refine ⟨outcome_parseDescriptor_eq_noInput, fun u w => parseDescriptor_surround t,
    fun v => parseDescriptor_of_parse?, fun o ho => ?_, fun o => exists_of_outcome_parseDescriptor⟩
  obtain ⟨v, hv⟩ := Operation.exists_of_outcome_parse ho
  rw [parseDescriptor_of_parse? hv, Attempt.outcome_mapError, ho]
  rfl

open Cli in
/-- A no-break space is a blank and no space of JSON, the newline is both. -/
theorem parseDescriptor_extends_parse_no_break_space :
    (Operation.parse "\x7b\"expr\":\"x\"\x7d").outcome = .ok ⟨.expression "x", none⟩ ∧
      (Operation.parse "\u00a0\x7b\"expr\":\"x\"\x7d\n").outcome =
        .error (.notJson "\u00a0\x7b\"expr\":\"x\"\x7d\n") ∧
      (parseDescriptor "\u00a0\x7b\"expr\":\"x\"\x7d\n").outcome = .ok ⟨.expression "x", none⟩ := by
  let object : Json := .object [("expr", .string "x")]
  have hordered : object.Ordered := by
    simp [object, Json.ordered_object, Json.InOrder, Json.ordered_scalar]
  have hexact : object.Exact := by
    simp [object, Json.exact_object, Json.exact_scalar]
  have hcompact : object.compact = "\x7b\"expr\":\"x\"\x7d" := by decide +kernel
  have hparse : (Operation.parse object.compact).outcome = .ok ⟨.expression "x", none⟩ := by
    rw [Operation.parse_spaced hordered hexact (by decide) (Json.spaced_compact object)]
    rfl
  have hnone : Json.parse? "\u00a0\x7b\"expr\":\"x\"\x7d\n" = none := by decide +kernel
  rw [hcompact] at hparse
  obtain ⟨-, hsurround, -, hextends, -⟩ := parseDescriptor_extends_parse "\x7b\"expr\":\"x\"\x7d"
  refine ⟨hparse, ?_, ?_⟩
  · exact congrArg Attempt.outcome (Operation.parse_of_none hnone)
  · have hblanks := hsurround "\u00a0" "\n" (List.all_eq_true.mp rfl) (List.all_eq_true.mp rfl)
    rw [← hextends _ hparse, ← hblanks]
    rfl

end Reckon
