import Reckon.Cli.Command
import Reckon.Proofs.Decimal.Finite
import Reckon.Proofs.Expr.Refusal
import Reckon.Proofs.Operation.Text
import Reckon.Proofs.Text.Trim

/-!
# Commands that evaluate expressions

An expression may be given to a command as it is, or in a descriptor. The second goes a longer way: the object is
written and read again, the text is trimmed and decoded, and of what was decoded the expression is chosen. On this
way nothing happens to the expression. The text of an object has nothing to trim (`Json.trimmed_compact_object`), it
is decoded as the object (`Cli.parseDescriptor_compact`), and an expression that is not empty overrides the rest
(`Operation.exists_ofJson_expression`).

Whatever a command is about, its result is the answer of the library (`Cli.Command.outcome_execute`).
-/

namespace Reckon

open Text

/-! ## Answers -/

namespace Cli

/-- What the library answers to a command. -/
def Command.answer : Command → Except Malformed Json
  | eval expression x => (Expr.evaluate expression x).outcome.map Json.ofFloat
  | apply o v => (o.apply v).outcome.map Json.ofFloat
  | test o v => (o.test v).outcome.map Json.bool

/-- Nothing but an evaluation fails in a command. -/
theorem Command.outcome_execute (c : Command) : c.execute.outcome = c.answer.mapError .evaluation := by
  cases c with
  | eval expression x => rw [execute, answer, Attempt.outcome_map, Attempt.outcome_mapError, map_mapError]
  | apply o v => rw [execute, answer, Attempt.outcome_map, Attempt.outcome_mapError, map_mapError]
  | test o v => rw [execute, answer, Attempt.outcome_map, Attempt.outcome_mapError, map_mapError]

end Cli

/-! ## Descriptors as texts -/

/-- A brace is no blank, so that the text of an object has nothing to trim. -/
theorem Json.trimmed_compact_object (ms : List (String × Json)) :
    trimmed (object ms).compact = (object ms).compact := by
  have hbrace : isBlank '\x7b' = false ∧ isBlank '\x7d' = false := by decide
  have htrim : trim (object ms).compact.toList = (object ms).compact.toList := by
    apply trim_of_stops
    · simp [compact_object, hbrace.1]
    · simp [compact_object, hbrace.2]
  rw [trimmed, htrim, String.ofList_toList]

namespace Cli

variable {text : String}

theorem parseDescriptor_of_blank (h : ∀ c ∈ text.toList, isBlank c = true) :
    parseDescriptor text = throw .noInput :=
  if_pos (isEmpty_trimmed.mpr h)

theorem parseDescriptor_of_not_blank (h : ¬∀ c ∈ text.toList, isBlank c = true) :
    parseDescriptor text = (Operation.parse (trimmed text)).mapError .descriptor :=
  if_neg (mt isEmpty_trimmed.mp h)

/-- The reading of a text fails for one that is blank, and else with an error about the descriptor. -/
theorem outcome_parseDescriptor_eq_error {e : Error} (h : (parseDescriptor text).outcome = .error e) :
    (e = .noInput ∧ ∀ c ∈ text.toList, isBlank c = true) ∨ ∃ err, e = .descriptor err := by
  by_cases hblank : ∀ c ∈ text.toList, isBlank c = true
  · rw [parseDescriptor_of_blank hblank] at h
    cases h
    exact .inl ⟨rfl, hblank⟩
  · rw [parseDescriptor_of_not_blank hblank, Attempt.outcome_mapError] at h
    cases hparse : (Operation.parse (trimmed text)).outcome with
    | error err =>
        rw [hparse] at h
        cases h
        exact .inr ⟨err, rfl⟩
    | ok d =>
        rw [hparse] at h
        cases h

theorem outcome_parseDescriptor_eq_noInput :
    (parseDescriptor text).outcome = .error .noInput ↔ ∀ c ∈ text.toList, isBlank c = true := by
  constructor
  · intro h
    rcases outcome_parseDescriptor_eq_error h with ⟨-, hblank⟩ | ⟨err, ⟨⟩⟩
    exact hblank
  · intro hblank
    rw [parseDescriptor_of_blank hblank]
    rfl

theorem parseDescriptor_compact {ms : List (String × Json)} (hordered : (Json.object ms).Ordered)
    (hexact : (Json.object ms).Exact) (hdepth : (Json.object ms).depth ≤ Json.maxDepth) :
    parseDescriptor (Json.object ms).compact = (Operation.ofJson (.object ms)).mapError .descriptor := by
  have hnot : ¬∀ c ∈ (Json.object ms).compact.toList, isBlank c = true := by
    intro h
    have hbrace := h '\x7b' (by simp [Json.compact_object])
    exact absurd hbrace (by decide)
  rw [parseDescriptor_of_not_blank hnot, Json.trimmed_compact_object,
    Operation.parse_spaced hordered hexact hdepth (Json.spaced_compact _)]

end Cli

/-! ## Expressions in descriptors -/

/-- Whatever else is set, an expression that is not empty is what the object describes. -/
theorem Operation.exists_ofJson_expression {ms : List (String × Json)} {e : String}
    (hexpr : (Json.object ms).get? "expr" = some (.string e)) (hne : e ≠ "")
    (hfits : ∀ k ∈ Descriptor.keys, ∀ w, (Json.object ms).Sets k.1 w → k.2.fits w = true) :
    ∃ field, (ofJson (.object ms)).outcome = .ok ⟨.expression e, field⟩ := by
  have hmisfit : Descriptor.keys.findSome? (Json.object ms).misfit? = none := by
    rw [List.findSome?_eq_none_iff]
    intro k hk
    rw [Json.misfit?_eq_none]
    rintro err ⟨found, hset, hno, -⟩
    rw [hfits k hk found hset] at hno
    cases hno
  have hset : (Json.object ms).Sets "expr" (.string e) := ⟨hexpr, nofun⟩
  cases houtcome : (ofJson (.object ms)).outcome with
  | error err =>
      rw [outcome_ofJson_eq_error, hmisfit] at houtcome
      cases houtcome
  | ok o =>
      obtain ⟨action, field⟩ := o
      have hmeans : (Json.object ms).Means action := (outcome_ofJson_eq_ok.mp houtcome).2.action
      obtain rfl : action = .expression e := hmeans.unique (.expression hset hne)
      exact ⟨field, rfl⟩

namespace Cli

/-- A label plays no role, and the command takes the expression by itself. -/
theorem execute_apply_expression (e : String) (field : Option String) (v : Float) :
    (Command.apply ⟨.expression e, field⟩ v).execute = (Command.eval e v).execute := rfl

theorem outcome_execute_eval (e : String) (v : Float) :
    (Command.eval e v).execute.outcome =
      ((Expr.evaluate e v).outcome.mapError Error.evaluation).map Json.ofFloat := by
  rw [Command.execute, Attempt.outcome_map, Attempt.outcome_mapError]

theorem outcome_execute_test (e : String) (field : Option String) (v : Float) :
    (Command.test ⟨.expression e, field⟩ v).execute.outcome =
      ((Expr.evaluate e v).outcome.mapError Error.evaluation).map fun w => Json.bool (w != 0) := by
  rw [Command.execute, Attempt.outcome_map, Attempt.outcome_mapError, Operation.test, Attempt.outcome_bind]
  cases (Expr.evaluate e v).outcome <;> rfl

/-- A value that is not a number is not equal to zero, and is true. -/
theorem outcome_execute_test_eq_true {e : String} {field : Option String} {v : Float} :
    (Command.test ⟨.expression e, field⟩ v).execute.outcome = .ok (.bool true) ↔
      ∃ w, (Expr.evaluate e v).outcome = .ok w ∧ (w == 0) = false := by
  rw [outcome_execute_test]
  cases (Expr.evaluate e v).outcome with
  | error m =>
      constructor
      · rintro ⟨⟩
      · rintro ⟨w, ⟨⟩, -⟩
  | ok w =>
      show Except.ok (Json.bool !(w == 0)) = .ok (.bool true) ↔ _
      constructor
      · intro h
        injection h with hbool
        injection hbool with hnot
        exact ⟨w, rfl, by simpa using hnot⟩
      · rintro ⟨w', ⟨⟩, hw⟩
        rw [hw]
        rfl

theorem outcome_execute_test_eq_false {e : String} {field : Option String} {v : Float} :
    (Command.test ⟨.expression e, field⟩ v).execute.outcome = .ok (.bool false) ↔
      (Expr.evaluate e v).outcome = .ok 0 ∨ (Expr.evaluate e v).outcome = .ok (-0) := by
  rw [outcome_execute_test]
  cases (Expr.evaluate e v).outcome with
  | error m =>
      constructor
      · rintro ⟨⟩
      · rintro (⟨⟨⟩⟩ | ⟨⟨⟩⟩)
  | ok w =>
      show Except.ok (Json.bool !(w == 0)) = .ok (.bool false) ↔ _
      rw [Except.ok.injEq, Except.ok.injEq, Except.ok.injEq, Json.scalar.injEq, Scalar.bool.injEq,
        Bool.not_eq_false', Decimal.beq_zero_iff]

theorem outcome_execute_test_eq_error {e : String} {field : Option String} {v : Float} {err : Error} :
    (Command.test ⟨.expression e, field⟩ v).execute.outcome = .error err ↔
      (Command.eval e v).execute.outcome = .error err := by
  rw [outcome_execute_test, outcome_execute_eval]
  cases (Expr.evaluate e v).outcome with
  | error m => rfl
  | ok w =>
      constructor
      · rintro ⟨⟩
      · rintro ⟨⟩

theorem execute_eval_eq_error {e : String} {v : Float} {err : Error}
    (h : (Command.eval e v).execute.outcome = .error err) :
    ∃ m : Malformed, err = .evaluation m ∧ m.expression = e := by
  rw [outcome_execute_eval, Expr.outcome_evaluate] at h
  cases hv : Expr.value e v with
  | ok w => rw [hv] at h; cases h
  | error fault => rw [hv] at h; cases h; exact ⟨_, rfl, rfl⟩

end Cli

/-! ## The headline theorem -/

open Cli in
/-- **An expression has one meaning, however it arrives.** Let an object have an expression that is not empty under
`expr`, and nothing of a wrong type under the other keys of a descriptor. Its text is decoded, and to transform a
value by the operation is to evaluate the expression there: the result, the records and the error are the same, and
the error names the expression as it was. To test a value is to ask whether the expression is not zero there, and
fails as the evaluation does. -/
theorem commands_agree_on_expressions {ms : List (String × Json)} {e : String} (v : Float)
    (hordered : (Json.object ms).Ordered) (hexact : (Json.object ms).Exact)
    (hdepth : (Json.object ms).depth < 128) (hexpr : (Json.object ms).get? "expr" = some (.string e))
    (hne : e ≠ "")
    (hfits : ∀ k ∈ Descriptor.keys, ∀ w, (Json.object ms).Sets k.1 w → k.2.fits w = true) :
    ∃ d, (parseDescriptor (Json.object ms).compact).outcome = .ok d ∧
      (Command.apply d v).execute = (Command.eval e v).execute ∧
      (∀ err, (Command.eval e v).execute.outcome = .error err →
        ∃ m : Malformed, err = .evaluation m ∧ m.expression = e) ∧
      ((Command.test d v).execute.outcome = .ok (.bool true) ↔
        ∃ w, (Expr.evaluate e v).outcome = .ok w ∧ (w == 0) = false) ∧
      ((Command.test d v).execute.outcome = .ok (.bool false) ↔
        (Expr.evaluate e v).outcome = .ok 0 ∨ (Expr.evaluate e v).outcome = .ok (-0)) ∧
      ∀ err, (Command.test d v).execute.outcome = .error err ↔
        (Command.eval e v).execute.outcome = .error err := by
  obtain ⟨field, hdecoded⟩ := Operation.exists_ofJson_expression hexpr hne hfits
  refine ⟨⟨.expression e, field⟩, ?_, execute_apply_expression e field v, fun err => execute_eval_eq_error,
    outcome_execute_test_eq_true, outcome_execute_test_eq_false, fun err => outcome_execute_test_eq_error⟩
  rw [parseDescriptor_compact hordered hexact (Nat.le_of_lt_succ hdepth), Attempt.outcome_mapError, hdecoded]
  rfl

open Cli in
/-- The tag is null, the operand is overridden, and the newline is a space in the expression. -/
theorem commands_agree_on_expressions_over_lines :
    ∃ d, (parseDescriptor "\x7b\"expr\":\"x\\n-x\",\"op\":null,\"value\":3\x7d").outcome = .ok d ∧
      (Command.apply d 5).execute = (Command.eval "x\n-x" 5).execute ∧
      (Command.test d 5).execute.outcome = .ok (.bool false) := by
  let members : List (String × Json) :=
    [("expr", .string "x\n-x"), ("op", .null), ("value", .number (.integer 3 (by decide)))]
  have hordered : (Json.object members).Ordered := by
    refine Json.ordered_object.mpr ⟨?_, ?_⟩
    · unfold Json.InOrder
      decide
    · simp [members, Json.ordered_scalar]
  have hexact : (Json.object members).Exact := by
    simp [members, Json.exact_object, Json.exact_scalar, Number.readsBack_integer]
  have hfits : ∀ k ∈ Descriptor.keys, ∀ w, (Json.object members).Sets k.1 w → k.2.fits w = true := by
    simp [members, Descriptor.keys, Json.Sets, Json.get?, List.lookup_cons, Expected.fits]
  have hcompact : (Json.object members).compact =
      "\x7b\"expr\":\"x\\n-x\",\"op\":null,\"value\":3\x7d" := by decide +kernel
  have hzero : (Expr.evaluate "x\n-x" 5).outcome = .ok 0 := by decide +kernel
  obtain ⟨d, hparse, happly, -, -, hfalse, -⟩ :=
    commands_agree_on_expressions 5 hordered hexact (by decide) rfl (by decide) hfits
  rw [hcompact] at hparse
  exact ⟨d, hparse, happly, hfalse.mpr (.inl hzero)⟩

end Reckon
