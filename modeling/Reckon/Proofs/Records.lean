import Reckon.Operation.Perform
import Reckon.Proofs.Expr.Stacks
import Reckon.Proofs.Operation.Decoding

/-!
# What is recorded

The records of an evaluation are known from its outcome (`Expr.log_run`): it writes one where it is refused, and only
there. An operation writes those of its expression (`Operation.log_apply`, `Operation.log_test`). A descriptor writes
at most one, for a tag that no kind has, and only where this tag is needed (`Operation.log_ofJson`).
-/

namespace Reckon

/-! ## Records of steps in a row -/

namespace Attempt

variable {ε α β : Type}

theorem log_bind_of_ok {a : Attempt ε α} {v : α} (h : a.outcome = .ok v) (f : α → Attempt ε β) :
    (a >>= f).log = a.log ++ (f v).log :=
  match a, h with
  | ⟨.ok _, _⟩, rfl => rfl

theorem log_bind_of_error {a : Attempt ε α} {e : ε} (h : a.outcome = .error e) (f : α → Attempt ε β) :
    (a >>= f).log = a.log :=
  match a, h with
  | ⟨.error _, _⟩, rfl => List.append_nil _

/-- What follows an attempt and writes nothing leaves its records alone. -/
theorem log_bind_of_silent (a : Attempt ε α) {f : α → Attempt ε β} (h : ∀ v, (f v).log = []) :
    (a >>= f).log = a.log := by
  cases ha : a.outcome with
  | ok v => rw [log_bind_of_ok ha, h, List.append_nil]
  | error e => exact log_bind_of_error ha f

end Attempt

/-! ## Operations -/

namespace Operation

/-- What an action writes at a value. -/
def records (v : Float) : Action → List Record
  | .expression text => (Expr.evaluate text v).log
  | .structured _ _ => []

theorem log_apply (o : Operation) (v : Float) : (o.apply v).log = records v o.action := by
  rw [apply]
  cases o.action <;> rfl

theorem log_test (o : Operation) (v : Float) : (o.test v).log = records v o.action := by
  rw [test]
  cases o.action with
  | expression text => exact Attempt.log_bind_of_silent _ fun _ => rfl
  | structured kind operand => rfl

end Operation

/-! ## Descriptors -/

/-- The value describes an operation, but the tag that it needs is no kind's. -/
structure Json.Unrecognized (v : Json) (tag : String) : Prop where
  described : ∃ o, (Operation.ofJson v).outcome = .ok o
  expr : ∀ t, v.Sets "expr" (.string t) → t = ""
  op : v.Sets "op" (.string tag)
  ne : tag ≠ ""
  unknown : ∀ k : Kind, k.tag ≠ tag

namespace Descriptor

variable {v : Json} {d : Descriptor} {tag : String}

/-- The tag that is looked up. -/
theorem Reads.tag_eq_some (h : Reads v d) :
    d.op.filter (!·.isEmpty) = some tag ↔ v.Sets "op" (.string tag) ∧ tag ≠ "" := by
  rw [Option.filter_eq_some_iff, h.op]
  simp

theorem Reads.log_operation (h : Reads v d) (hdescribed : ∃ o, (Operation.ofJson v).outcome = .ok o) :
    (∀ tag, v.Unrecognized tag → d.operation.log = [unrecognized tag]) ∧
    ((∀ tag, ¬v.Unrecognized tag) → d.operation.log = []) := by
  rw [operation]
  cases hexpr : d.expr.filter (!·.isEmpty) with
  | some t =>
      obtain ⟨hset, hne⟩ := Option.filter_eq_some_iff.mp hexpr
      refine ⟨fun tag htag => ?_, fun _ => rfl⟩
      rw [htag.expr t ((h.expr t).mp hset)] at hne
      cases hne
  | none =>
      have hempty (t : String) (ht : v.Sets "expr" (.string t)) : t = "" := by
        simpa using Option.filter_eq_none_iff.mp hexpr t ((h.expr t).mpr ht)
      show (∀ tag, v.Unrecognized tag → d.kind.log ++ [] = [unrecognized tag]) ∧
        ((∀ tag, ¬v.Unrecognized tag) → d.kind.log ++ [] = [])
      rw [List.append_nil, kind]
      cases htag : d.op.filter (!·.isEmpty) with
      | none =>
          refine ⟨fun tag hunrecognized => ?_, fun _ => rfl⟩
          rw [h.tag_eq_some.mpr ⟨hunrecognized.op, hunrecognized.ne⟩] at htag
          cases htag
      | some tag =>
          obtain ⟨hset, hne⟩ := h.tag_eq_some.mp htag
          have heq {tag' : String} (h' : v.Unrecognized tag') : tag' = tag := by
            cases h'.op.unique hset
            rfl
          dsimp only
          cases hkind : Kind.ofTag? tag with
          | some k =>
              refine ⟨fun tag' h' => ?_, fun _ => rfl⟩
              obtain rfl := heq h'
              exact absurd (Kind.ofTag?_eq_some.mp hkind) (h'.unknown k)
          | none =>
              refine ⟨fun tag' h' => ?_, fun hnone => ?_⟩
              · obtain rfl := heq h'
                rfl
              · refine absurd ⟨hdescribed, hempty, hset, hne, fun k hk => ?_⟩ (hnone tag)
                rw [Kind.ofTag?_eq_some.mpr hk] at hkind
                cases hkind

end Descriptor

namespace Operation

/-- A value that describes no operation writes nothing, for its types are checked first. -/
theorem log_ofJson_of_error {v : Json} {e : DecodeError} (h : (ofJson v).outcome = .error e) : (ofJson v).log = [] := by
  rw [outcome_ofJson] at h
  rw [ofJson]
  cases hd : Descriptor.ofJson v with
  | error e' => rfl
  | ok d =>
      rw [hd] at h
      cases h

theorem log_ofJson (v : Json) :
    (∀ tag, v.Unrecognized tag → (ofJson v).log = [unrecognized tag]) ∧
    ((∀ tag, ¬v.Unrecognized tag) → (ofJson v).log = []) := by
  cases hd : Descriptor.ofJson v with
  | error e =>
      have houtcome : (ofJson v).outcome = .error e := by
        rw [outcome_ofJson, hd]
        rfl
      refine ⟨fun tag htag => ?_, fun _ => log_ofJson_of_error houtcome⟩
      obtain ⟨o, ho⟩ := htag.described
      rw [houtcome] at ho
      cases ho
  | ok d =>
      have hlog : (ofJson v).log = d.operation.log := by
        rw [ofJson, hd]
        exact List.append_nil _
      have hdescribed : ∃ o, (ofJson v).outcome = .ok o := by
        rw [outcome_ofJson, hd]
        exact ⟨_, rfl⟩
      rw [hlog]
      cases v with
      | object ms => exact (Descriptor.reads_of_ofJson hd).log_operation hdescribed
      | scalar | array => cases hd

end Operation

/-! ## The headline theorem -/

/-- **The records tell what happened.** An evaluation records the request first, with the expression and the value of
the variable. Then, and also where the request is not recorded, there is one more record if the expression is refused,
with the expression and the reason that the error carries, and none if it is not; so it is for each token and for the
end of the tokens. An operation records what its expression does, and nothing if it has none. A JSON value records the
tag that it needs and that no kind has, if it describes an operation at all, and otherwise nothing. -/
theorem records_tell_outcome :
    (∀ (s : String) (x : Float),
      (Expr.evaluate s x).outcome = (Expr.run s x).outcome ∧
      (Expr.evaluate s x).log =
        ⟨.trace, "turbo_expr::evaluator", "evaluating " ++ Text.quoted s ++ " with x = " ++ Decimal.plain x⟩ ::
          (Expr.run s x).log ∧
      (∀ v, (Expr.run s x).outcome = .ok v → (Expr.run s x).log = []) ∧
      ∀ e, (Expr.run s x).outcome = .error e →
        e.expression = s ∧
        (Expr.run s x).log = [⟨.debug, "turbo_expr::evaluator",
          "rejecting expression " ++ Text.quoted e.expression ++ ": " ++ e.reason⟩]) ∧
    (∀ (ev : Evaluator) (m : Machine),
      (∀ t, (ev.step m t).log = refusals (ev.step m t).outcome) ∧
      (ev.finish m).log = refusals (ev.finish m).outcome) ∧
    (∀ (o : Operation) (v : Float),
      (o.apply v).log = Operation.records v o.action ∧ (o.test v).log = Operation.records v o.action) ∧
    ∀ v : Json,
      (∀ tag, v.Unrecognized tag →
        (Operation.ofJson v).log = [⟨.debug, "turbo_expr::ast::operation",
          "unrecognized operation kind " ++ Text.quoted tag ++ ", falling back to identity"⟩]) ∧
      ((∀ tag, ¬v.Unrecognized tag) → (Operation.ofJson v).log = []) ∧
      ∀ e, (Operation.ofJson v).outcome = .error e → (Operation.ofJson v).log = [] := by
  refine ⟨fun s x => ⟨rfl, rfl, fun v hv => ?_, fun e he => ⟨?_, ?_⟩⟩,
    fun ev m => ⟨ev.log_step m, ev.log_finish m⟩, fun o v => ⟨o.log_apply v, o.log_test v⟩,
    fun v => ⟨(Operation.log_ofJson v).1, (Operation.log_ofJson v).2, fun e => Operation.log_ofJson_of_error⟩⟩
  · rw [Expr.log_run, hv]
    rfl
  · exact Expr.expression_of_outcome_run he
  · rw [Expr.log_run, he]
    rfl

/-- The tag `sqr` is recorded where it is needed, but neither beside an expression nor where the value describes
nothing. The variable behind `2` is refused with two records in all. -/
theorem records_tell_outcome_unknown_tag :
    (Operation.ofJson (.object [("op", .string "sqr")])).log =
      [⟨.debug, "turbo_expr::ast::operation",
        "unrecognized operation kind \"sqr\", falling back to identity"⟩] ∧
    (Operation.ofJson (.object [("expr", .string "x"), ("op", .string "sqr")])).log = [] ∧
    (Operation.ofJson (.object [("op", .string "sqr"), ("value", .string "2")])).log = [] ∧
    (Expr.evaluate "2x" 1.5).log =
      [⟨.trace, "turbo_expr::evaluator", "evaluating \"2x\" with x = 1.5"⟩,
        ⟨.debug, "turbo_expr::evaluator", "rejecting expression \"2x\": expected an operator, found 'x'"⟩] := by
  obtain ⟨hexpressions, -, -, hvalues⟩ := records_tell_outcome
  refine ⟨?_, ?_, ?_, ?_⟩
  · have hquoted : Text.quoted "sqr" = "\"sqr\"" := by decide +kernel
    rw [(hvalues _).1 "sqr" ⟨⟨_, rfl⟩, ?_, ⟨rfl, nofun⟩, by decide, fun k hk => ?_⟩, hquoted]
    · rfl
    · rintro t ⟨⟨⟩, -⟩
    · have hnone : Kind.ofTag? "sqr" = none := by decide
      rw [Kind.ofTag?_eq_some.mpr hk] at hnone
      cases hnone
  · refine (hvalues _).2.1 fun tag htag => ?_
    have hexpr := htag.expr "x" ⟨rfl, nofun⟩
    revert hexpr
    decide
  · exact (hvalues _).2.2 (.wrongType (.string "2") .number) rfl
  · have htokens : tokenize "2x" = .ok [.number 2, .var] := by decide +kernel
    have houtcome : (Expr.run "2x" 1.5).outcome = .error ⟨"2x", .operatorExpected .var⟩ := by
      rw [Expr.outcome_run, Expr.value, htokens]
      rfl
    obtain ⟨-, hlog, -, hrefused⟩ := hexpressions "2x" 1.5
    obtain ⟨-, hrun⟩ := hrefused _ houtcome
    rw [hlog, hrun]
    decide +kernel

end Reckon
