import Mathlib.Data.List.Chain
import Reckon.Proofs.Expr.Refusal

/-!
# What the machine does to its stacks

An arriving operator, a closing parenthesis and the end all carry out waiting operators by the same loop:
they carry out what binds at least as strongly as some level `k`, the level of the operator in the first
case and 1, the lowest of all, in the other two. This file states that loop once, as `Stacks.settle`, and
its three users in terms of it.

- **The loop.** `Settles` lists what one turn of the loop can do. From it come `Settles.ops_eq` (whatever
  the values are, the loop takes the longest run of operators of level `k` or more from the top) and
  `Settles.trans` (settling at one level and then at a lower one is settling at the lower one, which is how
  a lazy evaluation catches up with an eager one).
- **One step.** `Machine.Step` lists what a token can do to a machine, one constructor for each sort of
  token, and `Machine.step_eq_ok` says that this is what `Machine.step` does when it succeeds.
- **A run.** What every step keeps holds after every accepted run from the start
  (`Machine.steps_induction`), and a refused run has a first refused token
  (`Machine.exists_step_of_error`). Tokens have a value if the stacks that they leave behind settle to it
  (`Expr.evaluateTokens_iff`).
-/

namespace Reckon

/-! ## Levels -/

theorem BinOp.one_le_precedence (o : BinOp) : 1 ≤ o.precedence := by
  cases o <;> decide

theorem BinOp.precedence_le_three (o : BinOp) : o.precedence ≤ 3 := by
  cases o <;> decide

/-- What waits on top, if anything, binds less than level `k`. -/
def Below (k : Nat) (ops : List Pending) : Prop :=
  ∀ p ∈ ops.head?, p.precedence < k

theorem below_nil (k : Nat) : Below k [] := fun _ h => nomatch h

@[simp] theorem below_cons {k : Nat} {p : Pending} {ops : List Pending} :
    Below k (p :: ops) ↔ p.precedence < k := by
  simp [Below]

theorem Below.mono {j k : Nat} {ops : List Pending} (h : Below j ops) (hjk : j ≤ k) : Below k ops :=
  fun p hp => Nat.lt_of_lt_of_le (h p hp) hjk

/-- No operator binds as strongly as that. -/
theorem below_four (ops : List Pending) : Below 4 ops := by
  intro p _
  cases p with
  | opened => decide
  | op o => exact Nat.lt_succ_of_le o.precedence_le_three

namespace Stacks

@[simp] theorem values_pushValue (s : Stacks) (v : Float) :
    (s.pushValue v).values = v :: s.values := rfl

@[simp] theorem ops_pushValue (s : Stacks) (v : Float) : (s.pushValue v).ops = s.ops := rfl

@[simp] theorem values_pushPending (s : Stacks) (p : Pending) :
    (s.pushPending p).values = s.values := rfl

@[simp] theorem ops_pushPending (s : Stacks) (p : Pending) :
    (s.pushPending p).ops = p :: s.ops := rfl

/-! ## The loop -/

theorem reduceWhile_of_stop {test : Pending → Bool} {s : Stacks}
    (h : ∀ p ∈ s.ops.head?, test p = false) : s.reduceWhile test = .ok s := by
  obtain ⟨vs, ops⟩ := s
  rw [reduceWhile]
  cases ops with
  | nil => rfl
  | cons top ops => simp [h top rfl]

theorem reduceWhile_of_top {test : Pending → Bool} {s : Stacks} {top : Pending} {ops : List Pending}
    (hs : s.ops = top :: ops) (h : test top = true) :
    s.reduceWhile test = s.reduce >>= fun s' => s'.reduceWhile test := by
  obtain ⟨vs, _⟩ := s
  subst hs
  rw [reduceWhile]
  simp only [h, if_true]
  split
  next e he => rw [he]; rfl
  next s hs => rw [hs]; rfl

/-- Carries out what binds at least as strongly as level `k`. -/
def settle (k : Nat) (s : Stacks) : Except Fault Stacks :=
  s.reduceWhile fun p => k ≤ p.precedence

/-- The loop comes to an end: it stops where nothing binds strongly enough, and else carries out the
operator on top first. -/
inductive Settles (k : Nat) : Stacks → Stacks → Prop
  | stop {s : Stacks} (h : Below k s.ops) : Settles k s s
  | carry {a b : Float} {vs : List Float} {o : BinOp} {ops : List Pending} {s' : Stacks}
      (h : k ≤ o.precedence) (hs : Settles k ⟨o.apply a b :: vs, ops⟩ s') :
      Settles k ⟨b :: a :: vs, .op o :: ops⟩ s'

theorem settle_of_below {k : Nat} {s : Stacks} (h : Below k s.ops) : s.settle k = .ok s :=
  reduceWhile_of_stop fun p hp => decide_eq_false (Nat.not_le.mpr (h p hp))

theorem settle_op {k : Nat} {o : BinOp} (h : k ≤ o.precedence) (a b : Float) (vs : List Float)
    (ops : List Pending) :
    settle k ⟨b :: a :: vs, .op o :: ops⟩ = settle k ⟨o.apply a b :: vs, ops⟩ :=
  reduceWhile_of_top rfl (decide_eq_true h)

theorem reduce_eq_ok {s s' : Stacks} (h : s.reduce = .ok s') :
    ∃ a b vs o ops, s = ⟨b :: a :: vs, .op o :: ops⟩ ∧ s' = ⟨o.apply a b :: vs, ops⟩ := by
  unfold reduce at h
  split at h
  · cases h
    exact ⟨_, _, _, _, _, rfl, rfl⟩
  · cases h
  · cases h

theorem settle_eq_ok {k : Nat} {s s' : Stacks} : s.settle k = .ok s' ↔ Settles k s s' := by
  constructor
  · intro h
    unfold settle at h
    fun_induction reduceWhile (fun p => decide (k ≤ p.precedence)) s with
    | case1 s hs =>
        cases h
        exact .stop (hs ▸ below_nil k)
    | case2 s top ops hs htop e he => cases h
    | case3 s top ops hs htop s₁ hs₁ _ ih =>
        obtain ⟨a, b, vs, o, ops', rfl, rfl⟩ := reduce_eq_ok hs₁
        cases hs
        exact .carry (of_decide_eq_true htop) (ih h)
    | case4 s top ops hs htop =>
        cases h
        refine .stop ?_
        rw [hs, below_cons]
        simpa using htop
  · intro h
    induction h with
    | stop h => exact settle_of_below h
    | carry h _ ih => rw [settle_op h, ih]

theorem Settles.below_ops {k : Nat} {s s' : Stacks} (h : Settles k s s') : Below k s'.ops := by
  induction h with
  | stop h => exact h
  | carry _ _ ih => exact ih

/-- What the loop leaves waiting does not depend on the values. -/
theorem Settles.ops_eq {k : Nat} {s s' : Stacks} (h : Settles k s s') :
    s'.ops = s.ops.dropWhile fun p => k ≤ p.precedence := by
  induction h with
  | @stop s h =>
      obtain ⟨vs, ops⟩ := s
      cases ops with
      | nil => rfl
      | cons top ops =>
          rw [List.dropWhile_cons_of_neg]
          simpa using below_cons.mp h
  | carry h _ ih =>
      rw [ih, List.dropWhile_cons_of_pos]
      exact decide_eq_true h

/-- Settling may be interrupted at a higher level and resumed. -/
theorem Settles.trans {j k : Nat} {s s' s'' : Stacks} (h : Settles k s s') (hjk : j ≤ k)
    (h' : Settles j s' s'') : Settles j s s'' := by
  induction h with
  | stop _ => exact h'
  | carry hk _ ih => exact .carry (Nat.le_trans hjk hk) (ih h')

/-! ## The users of the loop -/

theorem pushOp_eq_ok {s s' : Stacks} {o : BinOp} :
    s.pushOp o = .ok s' ↔
      ∃ s₁, Settles o.precedence s s₁ ∧ s₁.pushPending (.op o) = s' := by
  show (s.settle o.precedence >>= fun s₁ => .ok (s₁.pushPending (.op o))) = .ok s' ↔ _
  simp only [bind_eq_ok, settle_eq_ok, Except.ok.injEq]

/-- Only an open parenthesis binds less than level 1. -/
theorem settle_one (s : Stacks) : s.settle 1 = s.reduceWhile (· != .opened) := by
  have h (p : Pending) : decide (1 ≤ p.precedence) = (p != .opened) := by
    cases p with
    | opened => rfl
    | op o => cases o <;> rfl
  rw [settle, funext h]

/-- What is left on top then is an open parenthesis. -/
theorem Settles.top_eq {s : Stacks} {vs : List Float} {p : Pending} {ops : List Pending}
    (h : Settles 1 s ⟨vs, p :: ops⟩) : p = .opened := by
  cases p with
  | opened => rfl
  | op o => exact absurd (below_cons.mp h.below_ops) (Nat.not_lt.mpr o.one_le_precedence)

theorem close_of_settles {s s' : Stacks} (h : Settles 1 s s') :
    s.close =
      match s'.ops with
      | [] => .error .unmatchedClosing
      | _ :: ops => .ok ⟨s'.values, ops⟩ := by
  rw [close, ← settle_one, settle_eq_ok.mpr h]
  rfl

theorem result_of_settles {s s' : Stacks} (h : Settles 1 s s') :
    s.result =
      match s'.ops, s'.values with
      | _ :: _, _ => .error .unmatchedOpening
      | [], [v] => .ok v
      | [], vs => .error (.valuesLeft vs.length) := by
  rw [result, ← settle_one, settle_eq_ok.mpr h]
  rfl

theorem close_eq_ok {s s' : Stacks} :
    s.close = .ok s' ↔ Settles 1 s (s'.pushPending .opened) := by
  constructor
  · intro h
    rw [close, ← settle_one, bind_eq_ok] at h
    obtain ⟨⟨vs, ops⟩, hs, h⟩ := h
    have hs := settle_eq_ok.mp hs
    cases ops with
    | nil => cases h
    | cons p ops =>
        cases h
        obtain rfl := hs.top_eq
        exact hs
  · intro h
    rw [close_of_settles h]
    rfl

theorem result_eq_ok {s : Stacks} {v : Float} :
    s.result = .ok v ↔ Settles 1 s ⟨[v], []⟩ := by
  constructor
  · intro h
    rw [result, ← settle_one, bind_eq_ok] at h
    obtain ⟨⟨vs, ops⟩, hs, h⟩ := h
    have hs := settle_eq_ok.mp hs
    cases ops with
    | cons p ops => cases h
    | nil =>
        rcases vs with _ | ⟨v', _ | ⟨v'', vs⟩⟩
        · cases h
        · cases h; exact hs
        · cases h
  · intro h
    rw [result_of_settles h]

end Stacks

namespace Machine

open Stacks

/-! ## One step -/

/-- What a token does to a machine that accepts it. -/
inductive Step (x : Float) : Machine → Token → Machine → Prop
  | number {s : Stacks} (v : Float) : Step x ⟨s, true⟩ (.number v) ⟨s.pushValue v, false⟩
  | var {s : Stacks} : Step x ⟨s, true⟩ .var ⟨s.pushValue x, false⟩
  | opening {s : Stacks} : Step x ⟨s, true⟩ .opening ⟨s.pushPending .opened, true⟩
  | closing {s s' : Stacks} (h : Settles 1 s (s'.pushPending .opened)) :
      Step x ⟨s, false⟩ .closing ⟨s', false⟩
  | op {s s' : Stacks} {o : BinOp} (h : Settles o.precedence s s') :
      Step x ⟨s, false⟩ (.op o) ⟨s'.pushPending (.op o), true⟩

theorem step_eq_ok {x : Float} {m m' : Machine} {t : Token} :
    m.step x t = .ok m' ↔ Step x m t m' := by
  constructor
  · intro h
    obtain ⟨s, expects⟩ := m
    unfold step at h
    split at h
    next v heq => cases heq; cases h; exact .number v
    next heq => cases heq; cases h; exact .var
    next heq => cases heq; cases h; exact .opening
    next heq =>
        cases heq
        obtain ⟨s', hs, h⟩ := bind_eq_ok.mp h
        cases h
        exact .closing (close_eq_ok.mp hs)
    next o heq =>
        cases heq
        obtain ⟨s', hs, h⟩ := bind_eq_ok.mp h
        cases h
        obtain ⟨s₁, hs₁, rfl⟩ := pushOp_eq_ok.mp hs
        exact .op hs₁
    next => cases h
    next => cases h
  · intro h
    cases h with
    | number v => rfl
    | var => rfl
    | opening => rfl
    | closing h => exact bind_eq_ok.mpr ⟨_, close_eq_ok.mpr h, rfl⟩
    | op h => exact bind_eq_ok.mpr ⟨_, pushOp_eq_ok.mpr ⟨_, h, rfl⟩, rfl⟩

/-! ## The end -/

theorem finish_eq_ok {m : Machine} {v : Float} :
    m.finish = .ok v ↔ m.expectsOperand = false ∧ Settles 1 m.toStacks ⟨[v], []⟩ := by
  obtain ⟨⟨vs, ops⟩, expects⟩ := m
  cases expects with
  | true => rcases ops with _ | ⟨_ | o, ops⟩ <;> exact ⟨nofun, nofun⟩
  | false => exact result_eq_ok.trans (and_iff_right rfl).symm

/-! ## Runs -/

theorem steps_cons (x : Float) (m : Machine) (t : Token) (ts : List Token) :
    m.steps x (t :: ts) = m.step x t >>= fun m' => m'.steps x ts := rfl

theorem steps_singleton (x : Float) (m : Machine) (t : Token) : m.steps x [t] = m.step x t := by
  rw [steps_cons]
  cases m.step x t <;> rfl

theorem steps_append (x : Float) (m : Machine) (ts us : List Token) :
    m.steps x (ts ++ us) = m.steps x ts >>= fun m' => m'.steps x us :=
  List.foldlM_append

theorem Step.steps_cons {x : Float} {m m' : Machine} {t : Token} (h : Step x m t m')
    (ts : List Token) : m.steps x (t :: ts) = m'.steps x ts := by
  rw [Machine.steps_cons, step_eq_ok.mpr h]
  rfl

theorem steps_append_of_ok {x : Float} {m m' : Machine} {ts : List Token} (h : m.steps x ts = .ok m')
    (us : List Token) : m.steps x (ts ++ us) = m'.steps x us := by
  rw [steps_append, h]
  rfl

/-- What an accepted run begins with is accepted. -/
theorem exists_steps_of_prefix {x : Float} {m m' : Machine} {ts us : List Token} (h : m.steps x ts = .ok m')
    (hus : us <+: ts) : ∃ m₁, m.steps x us = .ok m₁ := by
  obtain ⟨vs, rfl⟩ := hus
  rw [steps_append, bind_eq_ok] at h
  obtain ⟨m₁, hus, -⟩ := h
  exact ⟨m₁, hus⟩

/-- What holds at the start and is kept by every step holds after every accepted run. -/
theorem steps_induction {x : Float} {P : List Token → Machine → Prop} (hstart : P [] start)
    (hstep : ∀ {ts m t m'}, P ts m → Step x m t m' → P (ts ++ [t]) m') {ts : List Token} {m : Machine}
    (h : start.steps x ts = .ok m) : P ts m := by
  induction ts using List.reverseRecOn generalizing m with
  | nil =>
      cases h
      exact hstart
  | append_singleton ts t ih =>
      rw [steps_append, bind_eq_ok] at h
      obtain ⟨m₁, hrun, ht⟩ := h
      rw [steps_singleton] at ht
      exact hstep (ih hrun) (step_eq_ok.mp ht)

/-- A refused run is refused at one of its tokens, those before it being accepted. -/
theorem exists_step_of_error {x : Float} {m : Machine} {ts : List Token} {f : Fault}
    (h : m.steps x ts = .error f) :
    ∃ us t vs m', ts = us ++ t :: vs ∧ m.steps x us = .ok m' ∧ m'.step x t = .error f := by
  induction ts generalizing m with
  | nil => cases h
  | cons t ts ih =>
      rw [steps_cons] at h
      cases hstep : m.step x t with
      | error e =>
          rw [hstep] at h
          cases h
          exact ⟨[], t, ts, m, rfl, rfl, hstep⟩
      | ok m₁ =>
          rw [hstep] at h
          obtain ⟨us, t', vs, m', rfl, hus, ht'⟩ := ih h
          refine ⟨t :: us, t', vs, m', rfl, ?_, ht'⟩
          rw [steps_cons, hstep]
          exact hus

end Machine

/-- Tokens have a value if the stacks that they leave behind settle to this value alone. -/
theorem Expr.evaluateTokens_iff {x v : Float} {ts : List Token} :
    evaluateTokens x ts = .ok v ↔
      ∃ s, Machine.start.steps x ts = .ok ⟨s, false⟩ ∧ Stacks.Settles 1 s ⟨[v], []⟩ := by
  rw [evaluateTokens, bind_eq_ok]
  constructor
  · rintro ⟨⟨s, expects⟩, hrun, hfinish⟩
    obtain ⟨hexpects, hs⟩ := Machine.finish_eq_ok.mp hfinish
    obtain rfl : expects = false := hexpects
    exact ⟨s, hrun, hs⟩
  · rintro ⟨s, hrun, hs⟩
    exact ⟨_, hrun, Machine.finish_eq_ok.mpr ⟨rfl, hs⟩⟩

end Reckon
