import Reckon.Proofs.Expr.Invariant

/-!
# Rows of tokens that can be completed

A row of tokens is *viable* if something may follow it with which it is an expression. The machine takes exactly
the viable rows (`viable_iff`): from whatever state an accepted row has led to, it can be brought to the end of an
expression, by an operand where one has to come and then by a closing parenthesis for each open one
(`Machine.completion`).

The induction is on the number of open parentheses. What carries it is the invariant of the stacks: it says of each
closing parenthesis that the machine takes it, and of the end, once none is open, that it has a value.

So the machine refuses a row as early as it can. It does so at the first token that no expression can go on with
(`exists_dead_token`), and for good (`Machine.steps_append_of_error`), whereas a row that is refused only at its end
lacks nothing but further tokens.
-/

namespace Reckon

namespace Machine

variable {x : Float} {m m' : Machine} {ts : List Token} {f : Fault}

/-- What completes the rows that lead to this machine: an operand where one has to come, and then as many closing
parentheses as are open. -/
def completion (m : Machine) : List Token :=
  (if m.expectsOperand then [.var] else []) ++ List.replicate (m.ops.count .opened) .closing

/-! ## Closing what is open -/

/-- After an operand an open parenthesis may be closed. -/
theorem Invariant.exists_step_closing (h : m.Invariant ts) (x : Float) (hexpects : m.expectsOperand = false)
    (hopened : .opened ∈ m.ops) : ∃ m', Step x m .closing m' := by
  have hstep := h.step_failsWith x .closing
  have hnone : m.refusal .closing = none := by
    simp [refusal, hexpects, hopened, Token.startsOperand]
  rw [hnone] at hstep
  obtain ⟨m', hm'⟩ := hstep.exists_ok
  exact ⟨m', step_eq_ok.mp hm'⟩

theorem Step.expectsOperand_closing (h : Step x m .closing m') : m'.expectsOperand = false := by
  cases h
  rfl

/-- One open parenthesis less is left. -/
theorem Invariant.count_opened_closing (h : m.Invariant ts) (hstep : Step x m .closing m') :
    m.ops.count .opened = m'.ops.count .opened + 1 := by
  have hbefore := h.opened
  have hafter := (h.step hstep).opened
  rw [Token.depth_append, Token.depth_closing] at hafter
  omega

theorem Invariant.steps_replicate_closing {n : Nat} (h : m.Invariant ts) (x : Float)
    (hexpects : m.expectsOperand = false) (hcount : m.ops.count .opened = n) :
    ∃ v, (m.steps x (List.replicate n .closing) >>= finish) = .ok v := by
  induction n generalizing m ts with
  | zero =>
      have hno : .opened ∉ m.ops := List.count_eq_zero.mp hcount
      have hnone : m.finishFault = none := by
        simp [finishFault, hexpects, hno]
      have hfinish := h.finish_failsWith
      rw [hnone] at hfinish
      exact hfinish.exists_ok
  | succ n ih =>
      have hopened : .opened ∈ m.ops := List.count_pos_iff.mp (by omega)
      obtain ⟨m', hstep⟩ := h.exists_step_closing x hexpects hopened
      have hcount' := h.count_opened_closing hstep
      rw [List.replicate_succ, hstep.steps_cons]
      exact ih (h.step hstep) hstep.expectsOperand_closing (by omega)

/-- From every state that tokens lead to, the completion leads to a value. -/
theorem Invariant.steps_completion (h : m.Invariant ts) (x : Float) :
    ∃ v, (m.steps x m.completion >>= finish) = .ok v := by
  obtain ⟨s, expects⟩ := m
  cases expects with
  | false => exact h.steps_replicate_closing x rfl rfl
  | true =>
      have hvar : Step x ⟨s, true⟩ .var ⟨s.pushValue x, false⟩ := .var
      have hcompletion : completion ⟨s, true⟩ = .var :: List.replicate (s.ops.count .opened) .closing := rfl
      rw [hcompletion, hvar.steps_cons]
      exact (h.step hvar).steps_replicate_closing x rfl rfl

/-! ## What is refused -/

/-- A refusal is final: what follows is not looked at. -/
theorem steps_append_of_error (h : m.steps x ts = .error f) (us : List Token) :
    m.steps x (ts ++ us) = .error f := by
  rw [steps_append, h]
  rfl

/-- The three faults with which a token is refused where it stands. -/
theorem eq_of_refusal {t : Token} (h : m.refusal t = some f) :
    f = .operandExpected t ∨ f = .operatorExpected t ∨ t = .closing ∧ f = .unmatchedClosing := by
  unfold refusal at h
  split at h <;> split at h <;> try split at h
  all_goals cases h
  all_goals simp_all

end Machine

/-! ## Viable rows -/

namespace Expr

open Machine

variable {x : Float} {ts us : List Token} {f : Fault}

/-- Something may follow the tokens with which they are an expression. -/
def Viable (x : Float) (ts : List Token) : Prop :=
  ∃ us v, evaluateTokens x (ts ++ us) = .ok v

theorem evaluateTokens_append {m : Machine} (h : start.steps x ts = .ok m) (us : List Token) :
    evaluateTokens x (ts ++ us) = m.steps x us >>= finish := by
  rw [evaluateTokens, steps_append_of_ok h]

theorem evaluateTokens_append_of_error (h : start.steps x ts = .error f) (us : List Token) :
    evaluateTokens x (ts ++ us) = .error f := by
  rw [evaluateTokens, steps_append_of_error h]
  rfl

theorem evaluateTokens_completion {m : Machine} (h : start.steps x ts = .ok m) :
    ∃ v, evaluateTokens x (ts ++ m.completion) = .ok v := by
  rw [evaluateTokens_append h]
  exact (invariant_of_steps h).steps_completion x

theorem viable_iff : Viable x ts ↔ ∃ m, start.steps x ts = .ok m := by
  constructor
  · rintro ⟨us, v, hv⟩
    cases hrun : start.steps x ts with
    | ok m => exact ⟨m, rfl⟩
    | error f =>
        rw [evaluateTokens_append_of_error hrun] at hv
        cases hv
  · rintro ⟨m, hm⟩
    exact ⟨m.completion, evaluateTokens_completion hm⟩

theorem Viable.of_append (h : Viable x (ts ++ us)) : Viable x ts := by
  obtain ⟨vs, v, hv⟩ := h
  rw [List.append_assoc] at hv
  exact ⟨us ++ vs, v, hv⟩

/-- A row is refused at the token that makes it die: the rows before it are viable, and no row with it is. -/
theorem exists_dead_token (h : start.steps x ts = .error f) :
    ∃ us t vs m, ts = us ++ t :: vs ∧ start.steps x us = .ok m ∧ m.step x t = .error f ∧
      (f = .operandExpected t ∨ f = .operatorExpected t ∨ t = .closing ∧ f = .unmatchedClosing) ∧
      ∀ ps, ps <+: ts → (Viable x ps ↔ ps <+: us) := by
  obtain ⟨us, t, vs, m, rfl, hus, ht⟩ := exists_step_of_error h
  have hrefusal := ((invariant_of_steps hus).step_failsWith x t).eq_some ht
  refine ⟨us, t, vs, m, rfl, hus, ht, eq_of_refusal hrefusal, fun ps hps => ⟨fun hviable => ?_, ?_⟩⟩
  · -- a prefix that is longer than `us` has the refused token in it
    rcases List.prefix_or_prefix_of_prefix hps (List.prefix_append us (t :: vs)) with hshort | ⟨rest, rfl⟩
    · exact hshort
    · cases rest with
      | nil => simp
      | cons t' rest =>
          have hhead := (List.prefix_append_right_inj us).mp hps
          obtain rfl : t' = t := (List.cons_prefix_cons.mp hhead).1
          obtain ⟨m', hm'⟩ := viable_iff.mp hviable
          rw [steps_append_of_ok hus, steps_cons, ht] at hm'
          cases hm'
  · rintro ⟨rest, rfl⟩
    exact (viable_iff.mpr ⟨m, hus⟩).of_append

end Expr

/-! ## The headline theorem -/

open Reckon.Expr in
/-- **Refusals come neither too early nor too late.** A row of tokens is taken from the start if and only if something
may follow it with which it has a value. So a row is refused at the first token after which nothing can help any
more, and with everything behind it for the same reason; a row that is only refused at its end has a value once its
completion is put behind it. -/
theorem steps_ok_iff_completable (x : Float) (ts : List Token) :
    ((∃ m, Machine.start.steps x ts = .ok m) ↔
      ∃ us v, (Machine.start.steps x (ts ++ us) >>= Machine.finish) = .ok v) ∧
    (∀ f, Machine.start.steps x ts = .error f →
      (∃ us t vs m, ts = us ++ t :: vs ∧ Machine.start.steps x us = .ok m ∧ m.step x t = .error f ∧
        (f = .operandExpected t ∨ f = .operatorExpected t ∨ t = .closing ∧ f = .unmatchedClosing) ∧
        ∀ ps, ps <+: ts → (Viable x ps ↔ ps <+: us)) ∧
      ∀ us, Machine.start.steps x (ts ++ us) = .error f ∧ evaluateTokens x (ts ++ us) = .error f) ∧
    ∀ m f, Machine.start.steps x ts = .ok m → m.finish = .error f →
      ∃ v, evaluateTokens x (ts ++ m.completion) = .ok v := by
  refine ⟨viable_iff.symm, fun f hf => ⟨exists_dead_token hf, fun us => ?_⟩, fun m f hm _ => ?_⟩
  · exact ⟨Machine.steps_append_of_error hf us, evaluateTokens_append_of_error hf us⟩
  · exact evaluateTokens_completion hm

open Reckon.Expr in
/-- `2 + (` lacks `x )`, while nothing helps `2 + )`. -/
theorem steps_ok_iff_completable_parentheses :
    (∃ v, evaluateTokens 5 [.number 2, .op .add, .opening, .var, .closing] = .ok v) ∧
    ∀ us, evaluateTokens 5 ([.number 2, .op .add, .closing] ++ us) = .error (.operandExpected .closing) := by
  have hopen : Machine.start.steps 5 [.number 2, .op .add, .opening] =
      .ok ⟨⟨[2], [.opened, .op .add]⟩, true⟩ := by decide +kernel
  have hclosed : Machine.start.steps 5 [.number 2, .op .add, .closing] =
      .error (.operandExpected .closing) := by decide +kernel
  refine ⟨(steps_ok_iff_completable 5 _).2.2 _ _ hopen rfl, fun us => ?_⟩
  exact (((steps_ok_iff_completable 5 _).2.1 _ hclosed).2 us).2

end Reckon
