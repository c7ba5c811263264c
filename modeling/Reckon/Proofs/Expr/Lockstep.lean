import Reckon.Cli.Command
import Reckon.Proofs.Expr.Stacks
import Reckon.Proofs.Expr.Tokens

/-!
# Runs in lockstep

The machine looks at what waits on its stack, at how many values there are, and at what sort of token comes;
it never looks at a value. Two machines that agree in the former (`Machine.Alike`) therefore stay alike
through tokens of the same kinds, and fail together: at every reduction, through the loops, at every token,
through whole runs and at the end.

`Lockstep same R` is the relation between the two attempts. Where `same` holds the faults are equal too;
for tokens it says that they are equal and not merely of one kind, since a fault names the number it found.
-/

namespace Reckon

/-! ## Attempts in lockstep -/

/-- Two attempts that both succeed, with related results, or both fail, with equal faults if `same`. -/
inductive Lockstep {ε α β : Type} (same : Prop) (R : α → β → Prop) :
    Except ε α → Except ε β → Prop
  | ok {a : α} {b : β} (h : R a b) : Lockstep same R (.ok a) (.ok b)
  | error {e e' : ε} (h : same → e = e') : Lockstep same R (.error e) (.error e')

namespace Lockstep

variable {ε α β γ δ : Type} {same same' : Prop} {R : α → β → Prop} {S : γ → δ → Prop}
  {a : Except ε α} {b : Except ε β}

theorem mono (h : Lockstep same R a b) (hs : same' → same) : Lockstep same' R a b := by
  cases h with
  | ok h => exact .ok h
  | error h => exact .error fun hs' => h (hs hs')

theorem bind {f : α → Except ε γ} {g : β → Except ε δ} (h : Lockstep same R a b)
    (hfg : ∀ v w, R v w → Lockstep same S (f v) (g w)) :
    Lockstep same S (a >>= f) (b >>= g) := by
  cases h with
  | ok h => exact hfg _ _ h
  | error h => exact .error h

theorem exists_ok_iff (h : Lockstep same R a b) : (∃ v, a = .ok v) ↔ ∃ w, b = .ok w := by
  cases h with
  | ok h => exact ⟨fun _ => ⟨_, rfl⟩, fun _ => ⟨_, rfl⟩⟩
  | error h =>
      constructor
      · rintro ⟨v, hv⟩; cases hv
      · rintro ⟨w, hw⟩; cases hw

theorem exists_error_iff (h : Lockstep same R a b) :
    (∃ e, a = .error e) ↔ ∃ e, b = .error e := by
  cases h with
  | ok h =>
      constructor
      · rintro ⟨e, he⟩; cases he
      · rintro ⟨e, he⟩; cases he
  | error h => exact ⟨fun _ => ⟨_, rfl⟩, fun _ => ⟨_, rfl⟩⟩

theorem eq_ok_iff {a b : Except ε α} (h : Lockstep same Eq a b) (v : α) : a = .ok v ↔ b = .ok v := by
  cases h with
  | ok h => rw [h]
  | error h =>
      constructor
      · intro hv; cases hv
      · intro hv; cases hv

/-- Faults that need not be equal may be seen in two ways. -/
theorem mapError {ε' : Type} (h : Lockstep False R a b) (f g : ε → ε') :
    Lockstep False R (a.mapError f) (b.mapError g) := by
  cases h with
  | ok h => exact .ok h
  | error _ => exact .error False.elim

theorem both (h : Lockstep True R a b) :
    (∃ v w, a = .ok v ∧ b = .ok w) ∨ ∃ e, a = .error e ∧ b = .error e := by
  cases h with
  | ok h => exact .inl ⟨_, _, rfl, rfl⟩
  | error h => exact .inr ⟨_, rfl, by rw [h trivial]⟩

end Lockstep

/-! ## Stacks and machines that are alike -/

namespace Stacks

/-- The same waits, and there are as many values. -/
structure Alike (s s' : Stacks) : Prop where
  ops : s.ops = s'.ops
  values : s.values.length = s'.values.length

variable {s s' : Stacks}

theorem Alike.pushValue (h : s.Alike s') (v w : Float) : (s.pushValue v).Alike (s'.pushValue w) :=
  ⟨h.ops, by simp [h.values]⟩

theorem Alike.pushPending (h : s.Alike s') (p : Pending) :
    (s.pushPending p).Alike (s'.pushPending p) :=
  ⟨by simp [h.ops], h.values⟩

theorem Alike.reduce (h : s.Alike s') : Lockstep True Alike s.reduce s'.reduce := by
  obtain ⟨vs, ops⟩ := s
  obtain ⟨vs', ops'⟩ := s'
  obtain ⟨rfl, hlen⟩ := h
  rcases vs with _ | ⟨b, _ | ⟨a, vs⟩⟩ <;> rcases vs' with _ | ⟨b', _ | ⟨a', vs'⟩⟩ <;>
    rcases ops with _ | ⟨_ | o, ops⟩
  all_goals first
    | exact .error fun _ => rfl
    | exact .ok ⟨rfl, by simpa using hlen⟩
    | simp at hlen

theorem Alike.reduceWhile (test : Pending → Bool) (h : s.Alike s') :
    Lockstep True Alike (s.reduceWhile test) (s'.reduceWhile test) := by
  fun_induction Stacks.reduceWhile test s generalizing s' with
  | case1 s hs =>
      rw [reduceWhile_of_stop (by simp [← h.ops, hs])]
      exact .ok h
  | case2 s top ops hs htop e he =>
      have hr := h.reduce
      rw [he] at hr
      rw [reduceWhile_of_top (h.ops.symm.trans hs) htop]
      generalize s'.reduce = r at hr ⊢
      cases hr with
      | error hf => exact .error hf
  | case3 s top ops hs htop s₁ hs₁ _ ih =>
      have hr := h.reduce
      rw [hs₁] at hr
      rw [reduceWhile_of_top (h.ops.symm.trans hs) htop]
      generalize s'.reduce = r at hr ⊢
      cases hr with
      | ok h₁ => exact ih h₁
  | case4 s top ops hs htop =>
      rw [reduceWhile_of_stop]
      · exact .ok h
      · simpa [← h.ops, hs] using htop

theorem Alike.pushOp (o : BinOp) (h : s.Alike s') :
    Lockstep True Alike (s.pushOp o) (s'.pushOp o) :=
  (h.reduceWhile _).bind fun _ _ h => .ok (h.pushPending _)

theorem Alike.close (h : s.Alike s') : Lockstep True Alike s.close s'.close := by
  refine (h.reduceWhile _).bind ?_
  rintro ⟨vs, ops⟩ ⟨vs', ops'⟩ ⟨rfl, hlen⟩
  cases ops with
  | nil => exact .error fun _ => rfl
  | cons p ops => exact .ok ⟨rfl, hlen⟩

theorem Alike.result (h : s.Alike s') : Lockstep True (fun _ _ => True) s.result s'.result := by
  refine (h.reduceWhile _).bind ?_
  rintro ⟨vs, ops⟩ ⟨vs', ops'⟩ ⟨rfl, hlen⟩
  dsimp only at hlen
  rcases vs with _ | ⟨v, _ | ⟨w, vs⟩⟩ <;> rcases vs' with _ | ⟨v', _ | ⟨w', vs'⟩⟩ <;>
    rcases ops with _ | ⟨p, ops⟩
  all_goals first
    | exact .ok trivial
    | exact .error fun _ => rfl
    | exact .error fun _ => congrArg _ hlen
    | simp at hlen

end Stacks

namespace Machine

/-- Machines with stacks that are alike, and in want of the same. -/
structure Alike (m m' : Machine) : Prop where
  toAlike : m.toStacks.Alike m'.toStacks
  expects : m.expectsOperand = m'.expectsOperand

variable {m m' : Machine} {t t' : Token}

/-- Tokens of one kind are both numbers or equal. -/
theorem eq_of_kind (h : t.kind = t'.kind) :
    (∃ v v', t = .number v ∧ t' = .number v') ∨ t = t' := by
  cases t <;> cases t' <;> simp_all [Token.kind]

theorem Alike.step (h : m.Alike m') (x y : Float) (ht : t.kind = t'.kind) :
    Lockstep (t = t') Alike (m.step x t) (m'.step y t') := by
  obtain ⟨s, expects⟩ := m
  obtain ⟨s', expects'⟩ := m'
  obtain ⟨hs, rfl⟩ := h
  rcases eq_of_kind ht with ⟨v, v', rfl, rfl⟩ | rfl
  · cases expects with
    | true => exact .ok ⟨hs.pushValue _ _, rfl⟩
    | false => exact .error (congrArg _)
  · cases expects with
    | true =>
        cases t with
        | number v => exact .ok ⟨hs.pushValue _ _, rfl⟩
        | var => exact .ok ⟨hs.pushValue _ _, rfl⟩
        | opening => exact .ok ⟨hs.pushPending _, rfl⟩
        | closing => exact .error (congrArg _)
        | op o => exact .error (congrArg _)
    | false =>
        cases t with
        | number v => exact .error (congrArg _)
        | var => exact .error (congrArg _)
        | opening => exact .error (congrArg _)
        | closing => exact (hs.close.bind fun _ _ h => .ok ⟨h, rfl⟩).mono fun _ => trivial
        | op o => exact ((hs.pushOp o).bind fun _ _ h => .ok ⟨h, rfl⟩).mono fun _ => trivial

theorem Alike.steps {ts us : List Token} (h : m.Alike m') (x y : Float)
    (hk : ts.map Token.kind = us.map Token.kind) :
    Lockstep (ts = us) Alike (m.steps x ts) (m'.steps y us) := by
  induction ts generalizing us m m' with
  | nil =>
      obtain rfl := List.map_eq_nil_iff.mp hk.symm
      exact .ok h
  | cons t ts ih =>
      obtain ⟨u, us, rfl, hu, hus⟩ := List.map_eq_cons_iff.mp hk.symm
      rw [steps_cons, steps_cons]
      have hstep : Lockstep (t :: ts = u :: us) Alike (m.step x t) (m'.step y u) :=
        (h.step x y hu.symm).mono List.head_eq_of_cons_eq
      exact hstep.bind fun _ _ h => (ih h hus.symm).mono List.tail_eq_of_cons_eq

theorem Alike.finish (h : m.Alike m') : Lockstep True (fun _ _ => True) m.finish m'.finish := by
  obtain ⟨⟨vs, ops⟩, expects⟩ := m
  obtain ⟨⟨vs', ops'⟩, expects'⟩ := m'
  obtain ⟨hs, rfl⟩ := h
  cases expects with
  | true =>
      obtain ⟨rfl, -⟩ := hs
      rcases ops with _ | ⟨_ | o, ops⟩ <;> exact .error fun _ => rfl
  | false => exact hs.result

end Machine

namespace Expr

theorem evaluateTokens_lockstep {ts us : List Token} (x y : Float)
    (hk : ts.map Token.kind = us.map Token.kind) :
    Lockstep (ts = us) (fun _ _ => True) (evaluateTokens x ts) (evaluateTokens y us) :=
  (Machine.Alike.steps ⟨⟨rfl, rfl⟩, rfl⟩ x y hk).bind fun _ _ h => h.finish.mono fun _ => trivial

theorem value_lockstep (s : String) (x y : Float) :
    Lockstep True (fun _ _ => True) (value s x) (value s y) := by
  unfold value
  cases tokenize s with
  | error e => exact .error fun _ => rfl
  | ok ts => exact (evaluateTokens_lockstep x y rfl).mono fun _ => rfl

theorem evaluate_lockstep (s : String) (x y : Float) :
    Lockstep True (fun _ _ => True) (evaluate s x).outcome (evaluate s y).outcome := by
  rw [outcome_evaluate, outcome_evaluate]
  have h := value_lockstep s x y
  generalize value s x = a at h ⊢
  generalize value s y = b at h ⊢
  cases h with
  | ok _ => exact .ok trivial
  | error h => exact .error fun _ => by rw [h trivial]

end Expr

/-! ## The users of an evaluation -/

namespace Cli

theorem outcome_check (s : String) :
    (check s).outcome = ((Expr.evaluate s 0).outcome.mapError Error.evaluation).map fun _ => () := by
  rw [check, Attempt.outcome_map, Attempt.outcome_mapError]

/-- The check is made at 0 and stands for all values. -/
theorem check_eq_ok {s : String} :
    (check s).outcome = .ok () ↔ ∀ x, ∃ v, (Expr.evaluate s x).outcome = .ok v := by
  rw [outcome_check]
  constructor
  · intro h x
    refine (Expr.evaluate_lockstep s 0 x).exists_ok_iff.mp ?_
    cases h0 : (Expr.evaluate s 0).outcome with
    | ok v => exact ⟨v, rfl⟩
    | error e => rw [h0] at h; cases h
  · intro h
    obtain ⟨v, hv⟩ := h 0
    rw [hv]
    rfl

theorem check_eq_error {s : String} {e : Error} (h : (check s).outcome = .error e) :
    ∃ err, e = .evaluation err ∧ ∀ x, (Expr.evaluate s x).outcome = .error err := by
  rw [outcome_check] at h
  cases h0 : (Expr.evaluate s 0).outcome with
  | ok v => rw [h0] at h; cases h
  | error err =>
      rw [h0] at h
      cases h
      refine ⟨err, rfl, fun x => ?_⟩
      rcases (Expr.evaluate_lockstep s 0 x).both with ⟨v, w, hv, -⟩ | ⟨e, he, hx⟩
      · cases hv.symm.trans h0
      · obtain rfl := Except.error.inj (he.symm.trans h0)
        exact hx

theorem execute_eval_of_error {s : String} {x : Float} {err : Malformed}
    (h : (Expr.evaluate s x).outcome = .error err) :
    (Command.eval s x).execute.outcome = .error (.evaluation err) := by
  rw [Command.execute, Attempt.outcome_map, Attempt.outcome_mapError, h]
  rfl

end Cli

theorem Operation.test_expression_of_error {s : String} {field : Option String} {x : Float}
    {err : Malformed} (h : (Expr.evaluate s x).outcome = .error err) :
    (Operation.test ⟨.expression s, field⟩ x).outcome = .error err := by
  rw [Operation.test, Attempt.outcome_bind, h]
  rfl

/-! ## The headline theorem -/

/-- **Structure does not hang on numbers.** Two evaluations of one text both succeed or fail with the same
error, so that one check stands for all values, and its error is that of every way to evaluate the text.
Rows of tokens that differ in the values of numbers alone are accepted together, and so they are from any
two machines that are alike, whatever values these have come to hold. -/
theorem acceptance_independent_of_values :
    (∀ (s : String) (x y : Float),
      (∃ v w, (Expr.evaluate s x).outcome = .ok v ∧ (Expr.evaluate s y).outcome = .ok w) ∨
      ∃ e, (Expr.evaluate s x).outcome = .error e ∧ (Expr.evaluate s y).outcome = .error e) ∧
    (∀ s : String, (Cli.check s).outcome = .ok () ↔
      ∀ x, ∃ v, (Expr.evaluate s x).outcome = .ok v) ∧
    (∀ (s : String) (e : Cli.Error), (Cli.check s).outcome = .error e →
      ∃ err : Malformed, e = .evaluation err ∧
        ∀ (x : Float) (field : Option String),
          (Cli.Command.eval s x).execute.outcome = .error (.evaluation err) ∧
          (Operation.apply ⟨.expression s, field⟩ x).outcome = .error err ∧
          (Operation.test ⟨.expression s, field⟩ x).outcome = .error err) ∧
    (∀ ts us : List Token, ts.map Token.kind = us.map Token.kind → ∀ x y : Float,
      (∃ v, Expr.evaluateTokens x ts = .ok v) ↔ ∃ w, Expr.evaluateTokens y us = .ok w) ∧
    (∀ m m' : Machine, m.Alike m' →
      ∀ ts us : List Token, ts.map Token.kind = us.map Token.kind → ∀ x y : Float,
        (∃ v, (m.steps x ts >>= Machine.finish) = .ok v) ↔
          ∃ w, (m'.steps y us >>= Machine.finish) = .ok w) := by
  refine ⟨fun s x y => (Expr.evaluate_lockstep s x y).both, fun s => Cli.check_eq_ok,
    fun s e he => ?_, fun ts us hk x y => (Expr.evaluateTokens_lockstep x y hk).exists_ok_iff,
    fun m m' h ts us hk x y => ?_⟩
  · obtain ⟨err, rfl, herr⟩ := Cli.check_eq_error he
    refine ⟨err, rfl, fun x field => ?_⟩
    have happly : (Operation.apply ⟨.expression s, field⟩ x).outcome = .error err := herr x
    exact ⟨Cli.execute_eval_of_error (herr x), happly, Operation.test_expression_of_error (herr x)⟩
  · have hsteps : Lockstep False Machine.Alike (m.steps x ts) (m'.steps y us) :=
      (h.steps x y hk).mono False.elim
    exact (hsteps.bind fun _ _ h => h.finish.mono False.elim).exists_ok_iff

/-- `1 / 0` is accepted since `4 / 2` is. -/
theorem acceptance_of_quotient_by_zero :
    [Token.number 1, .op .divide, .number 0].map Token.kind =
      [Token.number 4, .op .divide, .number 2].map Token.kind ∧
    ∃ v, Expr.evaluateTokens 0 [.number 1, .op .divide, .number 0] = .ok v :=
  have hk : [Token.number 1, .op .divide, .number 0].map Token.kind =
      [Token.number 4, .op .divide, .number 2].map Token.kind := by
    simp [Token.kind]
  have hok : ∃ w, Expr.evaluateTokens 0 [.number 4, .op .divide, .number 2] = .ok w :=
    ⟨BinOp.divide.apply 4 2, by decide +kernel⟩
  ⟨hk, (acceptance_independent_of_values.2.2.2.1 _ _ hk 0 0).mpr hok⟩

end Reckon
