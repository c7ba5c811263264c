import Reckon.Expr.Evaluate
import Reckon.Proofs.Attempt

/-!
# Refusals and their records

An evaluator takes the steps of the machine and records a fault where it meets it. `Evaluator.refusing` records the
fault of a computation when all of it is done. Since a fault ends everything, this may be done around a row of
computations or around each of them (`Evaluator.refusing_bind`), and so an evaluator does at every step what the
machine does, with its fault recorded (`Evaluator.step_eq`), over all tokens (`Evaluator.steps_eq`), and at the end
(`Evaluator.finish_eq`).

Two things follow for whole expressions. Without the records this leaves `Expr.value`, with the expression put into the
error (`Expr.outcome_evaluate`); and the records are known from the outcome, for there is one if the expression is
refused, and none if it is not (`Expr.log_run`).
-/

namespace Reckon

/-- The records of an outcome: one for a refusal. -/
def refusals {α : Type} : Except Malformed α → List Record
  | .ok _ => []
  | .error e => [e.record]

namespace Evaluator

variable {α β : Type} (ev : Evaluator)

/-- What a computation gives is passed on, and its fault refuses the expression. -/
def refusing (a : Except Fault α) : Attempt Malformed α :=
  match a with
  | .ok v => return v
  | .error fault => ev.refuse fault

/-- A fault ends everything, so that it is recorded once wherever this is done. -/
theorem refusing_bind (a : Except Fault α) (f : α → Except Fault β) :
    ev.refusing (a >>= f) = ev.refusing a >>= fun v => ev.refusing (f v) :=
  match a with
  | .ok _ => rfl
  | .error _ => rfl

theorem outcome_refusing (a : Except Fault α) :
    (ev.refusing a).outcome = a.mapError fun fault => ⟨ev.expression, fault⟩ :=
  match a with
  | .ok _ => rfl
  | .error _ => rfl

theorem log_refusing (a : Except Fault α) : (ev.refusing a).log = refusals (ev.refusing a).outcome :=
  match a with
  | .ok _ => rfl
  | .error _ => rfl

/-! ## The stacks -/

/-- One operator is carried out as the stacks do it, or the fault is recorded. -/
theorem reduce_cases (s : Stacks) :
    (∃ s' hlt, s.reduce = .ok s' ∧ ev.reduce s = pure ⟨s', hlt⟩) ∨
      ∃ fault, s.reduce = .error fault ∧ ev.reduce s = ev.refuse fault := by
  obtain ⟨values, ops⟩ := s
  rcases ops with _ | ⟨_ | o, ops⟩
  · rcases values with _ | ⟨b, _ | ⟨a, values⟩⟩ <;> exact .inr ⟨.operatorUnderflow, rfl, rfl⟩
  · rcases values with _ | ⟨b, _ | ⟨a, values⟩⟩ <;> exact .inr ⟨.operatorUnderflow, rfl, rfl⟩
  · rcases values with _ | ⟨b, _ | ⟨a, values⟩⟩
    · exact .inr ⟨.operandUnderflow o, rfl, rfl⟩
    · exact .inr ⟨.operandUnderflow o, rfl, rfl⟩
    · exact .inl ⟨⟨o.apply a b :: values, ops⟩, Nat.lt_succ_self ops.length, rfl, rfl⟩

theorem reduceWhile_of_stop {test : Pending → Bool} {s : Stacks} (h : ∀ p ∈ s.ops.head?, test p = false) :
    ev.reduceWhile test s = pure s := by
  obtain ⟨values, ops⟩ := s
  rw [reduceWhile]
  cases ops with
  | nil => rfl
  | cons top ops => exact if_neg (Bool.eq_false_iff.mp (h top rfl))

theorem reduceWhile_of_top {test : Pending → Bool} {s : Stacks} {top : Pending} {ops : List Pending}
    (hops : s.ops = top :: ops) (htest : test top = true) :
    ev.reduceWhile test s = ev.reduce s >>= fun s' => ev.reduceWhile test s'.1 := by
  obtain ⟨values, ops'⟩ := s
  cases hops
  rw [reduceWhile]
  exact if_pos htest

theorem reduceWhile_eq (test : Pending → Bool) (s : Stacks) :
    ev.reduceWhile test s = ev.refusing (s.reduceWhile test) := by
  fun_induction Stacks.reduceWhile test s with
  | case1 s hops => exact ev.reduceWhile_of_stop (by simp [hops])
  | case2 s top ops hops htest fault hfault =>
      rw [ev.reduceWhile_of_top hops htest]
      rcases ev.reduce_cases s with ⟨s', hlt, hs, hev⟩ | ⟨fault', hs, hev⟩
      · cases hs.symm.trans hfault
      · cases hs.symm.trans hfault
        rw [hev]
        rfl
  | case3 s top ops hops htest s' hs' hlt ih =>
      rw [ev.reduceWhile_of_top hops htest]
      rcases ev.reduce_cases s with ⟨s'', hlt', hs, hev⟩ | ⟨fault, hs, hev⟩
      · cases hs.symm.trans hs'
        rw [hev]
        exact ih
      · cases hs.symm.trans hs'
  | case4 s top ops hops htest => exact ev.reduceWhile_of_stop (by simpa [hops] using htest)

theorem pushOp_eq (s : Stacks) (o : BinOp) : ev.pushOp s o = ev.refusing (s.pushOp o) := by
  rw [pushOp, reduceWhile_eq, Stacks.pushOp, refusing_bind]
  rfl

theorem close_eq (s : Stacks) : ev.close s = ev.refusing s.close := by
  rw [close, reduceWhile_eq, Stacks.close, refusing_bind]
  refine Attempt.bind_congr ?_
  rintro ⟨values, ops⟩ -
  cases ops <;> rfl

theorem result_eq (s : Stacks) : ev.result s = ev.refusing s.result := by
  rw [result, reduceWhile_eq, Stacks.result, refusing_bind]
  refine Attempt.bind_congr ?_
  rintro ⟨values, ops⟩ -
  cases ops with
  | nil => rcases values with _ | ⟨v, _ | ⟨w, values⟩⟩ <;> rfl
  | cons top ops => rfl

/-! ## Steps and runs -/

/-- A token is taken as the machine takes it, or the fault is recorded. -/
theorem step_eq (m : Machine) (t : Token) : ev.step m t = ev.refusing (m.step ev.x t) := by
  obtain ⟨s, expectsOperand⟩ := m
  cases expectsOperand with
  | true => cases t <;> rfl
  | false =>
      cases t with
      | number v => rfl
      | var => rfl
      | opening => rfl
      | op o =>
          show ev.pushOp s o >>= (fun s' => pure (Machine.mk s' true)) =
            ev.refusing (s.pushOp o >>= fun s' => pure (Machine.mk s' true))
          rw [pushOp_eq, refusing_bind]
          rfl
      | closing =>
          show ev.close s >>= (fun s' => pure (Machine.mk s' false)) =
            ev.refusing (s.close >>= fun s' => pure (Machine.mk s' false))
          rw [close_eq, refusing_bind]
          rfl

theorem steps_eq (m : Machine) (ts : List Token) : ev.steps m ts = ev.refusing (m.steps ev.x ts) := by
  induction ts generalizing m with
  | nil => rfl
  | cons t ts ih =>
      rw [steps, List.foldlM_cons, step_eq, Machine.steps, List.foldlM_cons, refusing_bind]
      exact Attempt.bind_congr fun m' _ => ih m'

/-- A token is recorded if it is refused. -/
theorem log_step (m : Machine) (t : Token) : (ev.step m t).log = refusals (ev.step m t).outcome := by
  rw [step_eq, log_refusing]

theorem finish_eq (m : Machine) : ev.finish m = ev.refusing m.finish := by
  obtain ⟨⟨values, ops⟩, expectsOperand⟩ := m
  cases expectsOperand with
  | true => rcases ops with _ | ⟨_ | o, ops⟩ <;> rfl
  | false => exact ev.result_eq ⟨values, ops⟩

theorem log_finish (m : Machine) : (ev.finish m).log = refusals (ev.finish m).outcome := by
  rw [finish_eq, log_refusing]

theorem tokens_eq : ev.tokens = ev.refusing ((tokenize ev.expression).mapError .lexical) := by
  rw [tokens]
  cases tokenize ev.expression <;> rfl

theorem eval_eq : ev.eval = ev.refusing (Expr.value ev.expression ev.x) := by
  rw [eval, tokens_eq, Expr.value, refusing_bind]
  refine Attempt.bind_congr fun ts _ => ?_
  rw [steps_eq, Expr.evaluateTokens, refusing_bind]
  exact Attempt.bind_congr fun m _ => ev.finish_eq m

end Evaluator

/-! ## Expressions -/

namespace Expr

theorem outcome_run (s : String) (x : Float) : (run s x).outcome = (value s x).mapError fun f => ⟨s, f⟩ := by
  rw [run, Evaluator.eval_eq, Evaluator.outcome_refusing]

/-- To record the request changes nothing. -/
theorem outcome_evaluate_eq_run (s : String) (x : Float) :
    (evaluate s x).outcome = (run s x).outcome := rfl

theorem outcome_evaluate (s : String) (x : Float) :
    (evaluate s x).outcome = (value s x).mapError fun f => ⟨s, f⟩ := by
  rw [outcome_evaluate_eq_run, outcome_run]

/-- The error names the expression. -/
theorem expression_of_outcome_run {s : String} {x : Float} {e : Malformed} (h : (run s x).outcome = .error e) :
    e.expression = s := by
  rw [outcome_run] at h
  cases hvalue : value s x with
  | ok v =>
      rw [hvalue] at h
      cases h
  | error fault =>
      rw [hvalue] at h
      cases h
      rfl

theorem log_run (s : String) (x : Float) : (run s x).log = refusals (run s x).outcome := by
  rw [run, Evaluator.eval_eq, Evaluator.log_refusing]

end Expr

end Reckon
