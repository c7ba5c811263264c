import Reckon.Proofs.Expr.Invariant

/-!
# What lies below an open parenthesis

`s.above base` are the stacks `s` put on top of the stacks `base`, the *frame*. Where nothing waits on top of the
frame, or an open parenthesis does, the machine takes tokens above the frame as it takes them without it
(`Machine.steps_above`): no loop gets past the parenthesis, and a token that is accepted without the frame does not
need it. The loop is looked at once, in `Stacks.Settles.above`; one step is `Machine.Step.above`, and the run is an
induction on the tokens.

The frame stays where it is between two tokens, and also inside of a loop: the reductions that a loop asks for above
the frame are those that it asks for without it (`Stacks.ReducesAt.of_above`).

An expression in parentheses is therefore one operand, on top of any stacks (`Machine.steps_group`).
-/

namespace Reckon

/-- Where neither what lies above nor the frame has anything to be carried out, the two together have not. -/
theorem Below.append {k : Nat} {ops base : List Pending} (h : Below k ops) (hbase : Below k base) :
    Below k (ops ++ base) := by
  cases ops with
  | nil => exact hbase
  | cons p ops => exact below_cons.mpr (below_cons.mp h)

namespace Stacks

/-- The stacks on top of others. -/
def above (s base : Stacks) : Stacks :=
  ⟨s.values ++ base.values, s.ops ++ base.ops⟩

/-- Stacks that lie, as they are, at the bottom of others. -/
structure Under (base s : Stacks) : Prop where
  values : base.values <:+ s.values
  ops : base.ops <:+ s.ops

theorem Under.refl (s : Stacks) : s.Under s :=
  ⟨List.suffix_rfl, List.suffix_rfl⟩

theorem under_above (s base : Stacks) : base.Under (s.above base) :=
  ⟨List.suffix_append _ _, List.suffix_append _ _⟩

theorem under_pushValue (s : Stacks) (v : Float) : s.Under (s.pushValue v) :=
  ⟨List.suffix_cons _ _, List.suffix_rfl⟩

theorem Under.of_pushPending {base s : Stacks} {p : Pending} (h : (base.pushPending p).Under s) :
    base.Under s :=
  ⟨h.values, (List.suffix_cons _ _).trans h.ops⟩

theorem below_opened (base : Stacks) : Below 1 (base.pushPending .opened).ops :=
  below_cons.mpr Nat.one_pos

variable {base : Stacks}

/-- The loop does not reach into a frame that it would leave alone. -/
theorem Settles.above {k : Nat} {s s' : Stacks} (h : Settles k s s') (hb : Below k base.ops) :
    Settles k (s.above base) (s'.above base) := by
  induction h with
  | stop h => exact .stop (h.append hb)
  | carry hk _ ih => exact .carry hk ih

/-- Above an open parenthesis, a loop asks for the reductions that it asks for without the frame. There are values
enough for them, so that none is taken from the frame. -/
theorem ReducesAt.of_above {test : Pending → Bool} (ht : test .opened = false) {s u : Stacks}
    (h : ReducesAt test (s.above (base.pushPending .opened)) u) (hc : s.Complete) :
    ∃ u', ReducesAt test s u' ∧ u = u'.above (base.pushPending .opened) := by
  generalize hs : s.above (base.pushPending .opened) = t at h
  induction h generalizing s with
  | @here t top ops hops htop =>
      subst hs
      obtain ⟨vs, ops'⟩ := s
      cases ops' with
      | nil =>
          cases hops
          exact absurd (ht.symm.trans htop) Bool.false_ne_true
      | cons p ops' =>
          cases hops
          exact ⟨_, .here rfl htop, rfl⟩
  | @later t t₁ u top ops hops htop hr _ ih =>
      subst hs
      obtain ⟨vs, ops'⟩ := s
      cases ops' with
      | nil =>
          cases hops
          exact absurd (ht.symm.trans htop) Bool.false_ne_true
      | cons p ops' =>
          cases hops
          cases top with
          | opened => exact absurd (ht.symm.trans htop) Bool.false_ne_true
          | op o =>
              obtain ⟨a, b, rest, rfl⟩ := hc.reducible
              cases hr
              obtain ⟨u', hu', rfl⟩ := ih (hc.carry (v := o.apply a b)) rfl
              exact ⟨u', .later rfl htop rfl hu', rfl⟩

end Stacks

namespace Machine

open Stacks

/-- The machine with its stacks on top of others. -/
def above (m : Machine) (base : Stacks) : Machine :=
  ⟨m.toStacks.above base, m.expectsOperand⟩

variable {x v : Float} {ts : List Token} {m m' : Machine} {base : Stacks}

theorem Step.above {t : Token} (h : Step x m t m') (hb : Below 1 base.ops) :
    Step x (m.above base) t (m'.above base) := by
  cases h with
  | number v => exact .number v
  | var => exact .var
  | opening => exact .opening
  | closing hs => exact .closing (hs.above hb)
  | @op s s' o hs => exact .op (hs.above (hb.mono o.one_le_precedence))

theorem steps_above (h : m.steps x ts = .ok m') (hb : Below 1 base.ops) :
    (m.above base).steps x ts = .ok (m'.above base) := by
  induction ts generalizing m with
  | nil =>
      cases h
      rfl
  | cons t ts ih =>
      rw [steps_cons, bind_eq_ok] at h
      obtain ⟨m₁, hstep, hrun⟩ := h
      rw [((step_eq_ok.mp hstep).above hb).steps_cons]
      exact ih hrun

/-- Inside of parentheses the machine goes on as from the start, above what was there. -/
theorem steps_opening_above (h : start.steps x ts = .ok m') (base : Stacks) :
    steps x ⟨base, true⟩ (.opening :: ts) = .ok (m'.above (base.pushPending .opened)) := by
  rw [Step.opening.steps_cons]
  exact steps_above h (below_opened base)

/-- An expression in parentheses is taken as one operand, on top of any stacks. -/
theorem steps_group (h : Expr.evaluateTokens x ts = .ok v) (s : Stacks) :
    steps x ⟨s, true⟩ (.opening :: (ts ++ [.closing])) = .ok ⟨s.pushValue v, false⟩ := by
  obtain ⟨s', hrun, hsettles⟩ := Expr.evaluateTokens_iff.mp h
  have hsettled : Settles 1 (s'.above (s.pushPending .opened)) ((s.pushValue v).pushPending .opened) :=
    hsettles.above (below_opened s)
  have hclosing : Step x ⟨s'.above (s.pushPending .opened), false⟩ .closing ⟨s.pushValue v, false⟩ :=
    .closing hsettled
  rw [← List.cons_append, steps_append_of_ok (steps_opening_above hrun s)]
  exact hclosing.steps_cons []

end Machine

/-! ## The headline theorem -/

/-- **Parentheses isolate.** Tokens with a value of their own, put in parentheses, do to a machine that an
operand is due to what their value does to it as a number, be it a machine that accepted tokens lead to or any
other. What was on the stacks stays at their bottom all the while. Inside of the parentheses the open one stays
on top of it, and every reduction that a loop asks for, which loops do where no operand is due, finds its operator
and both of its values above. -/
theorem group_isolated {x v : Float} {ts : List Token} (h : Expr.evaluateTokens x ts = .ok v) {m : Machine}
    (hm : m.expectsOperand = true) :
    m.steps x (.opening :: (ts ++ [.closing])) = .ok ⟨m.toStacks.pushValue v, false⟩ ∧
    m.step x (.number v) = .ok ⟨m.toStacks.pushValue v, false⟩ ∧
    (∀ us, us <+: .opening :: (ts ++ [.closing]) →
      ∃ m', m.steps x us = .ok m' ∧ m.toStacks.Under m'.toStacks) ∧
    ∀ us, us <+: ts → ∃ m', m.steps x (.opening :: us) = .ok m' ∧
      (m.toStacks.pushPending .opened).Under m'.toStacks ∧
      (m'.expectsOperand = false → ∀ (test : Pending → Bool) (u : Stacks), Stacks.LoopTest test →
        Stacks.ReducesAt test m'.toStacks u →
        ∃ a b vs o ops, u = ⟨b :: a :: vs, .op o :: ops⟩ ∧
          (m.toStacks.pushPending .opened).Under ⟨vs, ops⟩) := by
  obtain ⟨s, expects⟩ := m
  obtain rfl : expects = true := hm
  have hgroup := Machine.steps_group h s
  obtain ⟨mₑ, hrun, -⟩ := bind_eq_ok.mp h
  have hinside (us : List Token) (hus : us <+: ts) :
      ∃ m₁, Machine.start.steps x us = .ok m₁ ∧
        Machine.steps x ⟨s, true⟩ (.opening :: us) = .ok (m₁.above (s.pushPending .opened)) := by
    obtain ⟨m₁, hm₁⟩ := Machine.exists_steps_of_prefix hrun hus
    exact ⟨m₁, hm₁, Machine.steps_opening_above hm₁ s⟩
  refine ⟨hgroup, rfl, fun us hus => ?_, fun us hus => ?_⟩
  · rcases List.prefix_cons_iff.mp hus with rfl | ⟨us', rfl, hus'⟩
    · exact ⟨_, rfl, .refl s⟩
    · rcases List.prefix_concat_iff.mp hus' with rfl | hinner
      · exact ⟨_, hgroup, Stacks.under_pushValue s v⟩
      · obtain ⟨m₁, -, hm₁⟩ := hinside us' hinner
        exact ⟨_, hm₁, (Stacks.under_above _ _).of_pushPending⟩
  · obtain ⟨m₁, hstart, hm₁⟩ := hinside us hus
    refine ⟨_, hm₁, Stacks.under_above _ _, fun hexpects test u htest hu => ?_⟩
    have hcomplete := (Machine.invariant_of_steps hstart).complete hexpects
    obtain ⟨u', hu', rfl⟩ := hu.of_above htest.opened hcomplete
    obtain ⟨a, b, vs, o, ops, rfl⟩ := hu'.reducible htest.opened hcomplete
    exact ⟨a, b, _, o, _, rfl, Stacks.under_above ⟨vs, ops⟩ _⟩

/-- `( 1 + 3 * x )` after `2 ^`: the power binds more strongly than what is inside, and it waits. -/
theorem group_isolated_after_power :
    Machine.start.steps 5 [.number 2, .op .power] = .ok ⟨⟨[2], [.op .power]⟩, true⟩ ∧
    Machine.steps 5 ⟨⟨[2], [.op .power]⟩, true⟩
        [.opening, .number 1, .op .add, .number 3, .op .multiply, .var, .closing] =
      .ok ⟨⟨[BinOp.add.apply 1 (BinOp.multiply.apply 3 5), 2], [.op .power]⟩, false⟩ :=
  have h : Expr.evaluateTokens 5 [.number 1, .op .add, .number 3, .op .multiply, .var] =
      .ok (BinOp.add.apply 1 (BinOp.multiply.apply 3 5)) := by
    decide +kernel
  ⟨by decide +kernel, (group_isolated h (m := ⟨⟨[2], [.op .power]⟩, true⟩) rfl).1⟩

end Reckon
