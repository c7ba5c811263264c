import Reckon.Proofs.Expr.Stacks
import Reckon.Proofs.Expr.Tokens

/-!
# The invariant of the stacks

After every accepted run of tokens there is a value for every waiting operator, and one more where an
operator has to come next; every open parenthesis of the tokens waits on the stack; between open parentheses
the waiting operators bind ever more strongly towards the top; and the stacks together are no larger than
the tokens are many. `Machine.Invariant` says so, `Invariant.step` is the step and `invariant_of_steps` the
run.

The consequence is that the machine never meets the faults it guards against when it carries out an
operator. `ReducesAt` names the stacks at which a loop asks for a reduction, and `ReducesAt.reducible` finds
an operator and two values on each of them. With the loops known to succeed, `Invariant.step_failsWith`
and `Invariant.finish_failsWith` say of every token and of the end, by what waits on the stack alone,
whether it is accepted and with which fault it is refused.
-/

namespace Reckon

/-! ## Ascending operators -/

/-- Between open parentheses, precedences strictly increase from bottom to top. -/
def Ascending (ops : List Pending) : Prop :=
  ∀ segment, segment <:+: ops → .opened ∉ segment →
    segment.Pairwise fun above below => below.precedence < above.precedence

theorem ascending_nil : Ascending [] := by
  intro segment hseg _
  rw [List.infix_nil.mp hseg]
  exact .nil

theorem Ascending.of_suffix {ops ops' : List Pending} (h : Ascending ops) (hs : ops' <:+ ops) :
    Ascending ops' :=
  fun segment hseg => h segment (hseg.trans hs.isInfix)

theorem Ascending.opened {ops : List Pending} (h : Ascending ops) : Ascending (.opened :: ops) := by
  intro segment hseg hno
  rcases List.infix_cons_iff.mp hseg with hpre | hin
  · rcases List.prefix_cons_iff.mp hpre with rfl | ⟨rest, rfl, -⟩
    · exact .nil
    · exact absurd List.mem_cons_self hno
  · exact h segment hin hno

/-- An operator may come to lie on what binds less. -/
theorem Ascending.op {ops : List Pending} {o : BinOp} (h : Ascending ops) (hb : Below o.precedence ops) :
    Ascending (.op o :: ops) := by
  intro segment hseg hno
  rcases List.infix_cons_iff.mp hseg with hpre | hin
  · rcases List.prefix_cons_iff.mp hpre with rfl | ⟨rest, rfl, hrest⟩
    · exact .nil
    · have hpair := h rest hrest.isInfix fun hmem => hno (List.mem_cons_of_mem _ hmem)
      refine List.pairwise_cons.mpr ⟨fun p hp => ?_, hpair⟩
      -- the top of the rest binds less than `o`, and all below it less than that
      cases rest with
      | nil => cases hp
      | cons top rest =>
          obtain ⟨below, rfl⟩ := hrest
          have htop : top.precedence < o.precedence := below_cons.mp hb
          rcases List.mem_cons.mp hp with rfl | hp
          · exact htop
          · exact Nat.lt_trans (List.rel_of_pairwise_cons hpair hp) htop
  · exact h segment hin hno

/-! ## Stacks after a complete operand -/

namespace Stacks

/-- There is one value more than waiting operators. -/
def Complete (s : Stacks) : Prop :=
  s.values.length = s.ops.countP (· != .opened) + 1

theorem Complete.reducible {vs : List Float} {o : BinOp} {ops : List Pending}
    (h : Complete ⟨vs, .op o :: ops⟩) : ∃ a b rest, vs = b :: a :: rest := by
  rcases vs with _ | ⟨b, _ | ⟨a, rest⟩⟩
  · simp [Complete] at h
  · simp [Complete] at h
  · exact ⟨a, b, rest, rfl⟩

theorem Complete.carry {a b v : Float} {vs : List Float} {o : BinOp} {ops : List Pending}
    (h : Complete ⟨b :: a :: vs, .op o :: ops⟩) : Complete ⟨v :: vs, ops⟩ := by
  simp only [Complete, List.length_cons, List.countP_cons] at h ⊢
  simp only [show ((Pending.op o) != .opened) = true from rfl, if_true] at h
  omega

/-! ## What a loop asks for -/

/-- The loop with this test, run from the first stacks, asks for a reduction of the second. -/
inductive ReducesAt (test : Pending → Bool) : Stacks → Stacks → Prop
  | here {s : Stacks} {top : Pending} {ops : List Pending} (hs : s.ops = top :: ops)
      (ht : test top = true) : ReducesAt test s s
  | later {s s₁ s' : Stacks} {top : Pending} {ops : List Pending} (hs : s.ops = top :: ops)
      (ht : test top = true) (hr : s.reduce = .ok s₁) (h : ReducesAt test s₁ s') :
      ReducesAt test s s'

/-- The tests of the loops: that of an operator, and that of a closing parenthesis and of the end. -/
inductive LoopTest : (Pending → Bool) → Prop
  | operator (o : BinOp) : LoopTest fun p => o.precedence ≤ p.precedence
  | parenthesis : LoopTest (· != .opened)

theorem LoopTest.opened {test : Pending → Bool} (h : LoopTest test) : test .opened = false := by
  cases h with
  | operator o => exact decide_eq_false (Nat.not_le.mpr o.one_le_precedence)
  | parenthesis => rfl

/-- A loop that fails does so by a reduction that it asks for. -/
theorem exists_reducesAt {test : Pending → Bool} {s : Stacks} {f : Fault}
    (h : s.reduceWhile test = .error f) : ∃ s', ReducesAt test s s' ∧ s'.reduce = .error f := by
  fun_induction reduceWhile test s with
  | case1 s hs => cases h
  | case2 s top ops hs htop e he =>
      cases h
      exact ⟨s, .here hs htop, he⟩
  | case3 s top ops hs htop s₁ hs₁ _ ih =>
      obtain ⟨s', hs', hf⟩ := ih h
      exact ⟨s', .later hs htop hs₁ hs', hf⟩
  | case4 s top ops hs htop => cases h

/-- After a complete operand, an operator and two values are there for every reduction. -/
theorem ReducesAt.reducible {test : Pending → Bool} (ht : test .opened = false) {s s' : Stacks}
    (h : ReducesAt test s s') (hc : s.Complete) :
    ∃ a b vs o ops, s' = ⟨b :: a :: vs, .op o :: ops⟩ := by
  induction h with
  | @here s top ops hs htop =>
      obtain ⟨vs, _⟩ := s
      subst hs
      cases top with
      | opened => rw [ht] at htop; cases htop
      | op o =>
          obtain ⟨a, b, rest, rfl⟩ := hc.reducible
          exact ⟨a, b, rest, o, ops, rfl⟩
  | later _ _ hr _ ih =>
      obtain ⟨a, b, vs, o, ops, rfl, rfl⟩ := reduce_eq_ok hr
      exact ih hc.carry

/-- From a level above that of open parentheses on, the loop comes to its end. -/
theorem Complete.exists_settles {k : Nat} (hk : 0 < k) {s : Stacks} (h : s.Complete) :
    ∃ s', Settles k s s' := by
  cases hs : s.settle k with
  | ok s' => exact ⟨s', settle_eq_ok.mp hs⟩
  | error f =>
      obtain ⟨s', hat, hf⟩ := exists_reducesAt hs
      obtain ⟨a, b, vs, o, ops, rfl⟩ := hat.reducible (decide_eq_false (Nat.not_le.mpr hk)) h
      cases hf

/-! ## What the loop keeps -/

namespace Settles

variable {k : Nat} {s s' : Stacks}

theorem complete (h : Settles k s s') (hc : s.Complete) : s'.Complete := by
  induction h with
  | stop _ => exact hc
  | carry _ _ ih => exact ih hc.carry

theorem suffix_ops (h : Settles k s s') : s'.ops <:+ s.ops := by
  rw [h.ops_eq]
  exact List.dropWhile_suffix _

theorem count_opened (h : Settles k s s') : s'.ops.count .opened = s.ops.count .opened := by
  induction h with
  | stop _ => rfl
  | carry _ _ ih => simpa using ih

/-- Settling at the lowest level uncovers an open parenthesis wherever there is one. -/
theorem opened_mem_iff (h : Settles 1 s s') : .opened ∈ s.ops ↔ s'.ops ≠ [] := by
  rw [← List.count_pos_iff, ← h.count_opened, List.count_pos_iff]
  obtain ⟨vs, ops⟩ := s'
  cases ops with
  | nil => simp
  | cons p ops =>
      obtain rfl := h.top_eq
      simp

theorem size_le (h : Settles k s s') :
    s'.values.length + s'.ops.length ≤ s.values.length + s.ops.length := by
  induction h with
  | stop _ => exact Nat.le_refl _
  | carry _ _ ih => simp only [List.length_cons] at ih ⊢; omega

end Settles

end Stacks

namespace Machine

open Stacks

/-! ## The invariant -/

/-- What the tokens `ts` leave behind when all of them are accepted. -/
structure Invariant (ts : List Token) (m : Machine) : Prop where
  values : m.values.length = m.ops.countP (· != .opened) + if m.expectsOperand then 0 else 1
  opened : (m.ops.count .opened : Int) = Token.depth ts
  ascending : Ascending m.ops
  size : m.values.length + m.ops.length ≤ ts.length

theorem Invariant.complete {ts : List Token} {m : Machine} (h : m.Invariant ts)
    (he : m.expectsOperand = false) : m.toStacks.Complete := by
  have hvalues := h.values
  rwa [he] at hvalues

theorem invariant_start : start.Invariant [] :=
  ⟨rfl, rfl, ascending_nil, Nat.le_refl _⟩

theorem Invariant.operand {ts : List Token} {s : Stacks} {t : Token} (h : Invariant ts ⟨s, true⟩)
    (v : Float) (ht : Token.depth [t] = 0) : Invariant (ts ++ [t]) ⟨s.pushValue v, false⟩ where
  values := by simpa using h.values
  opened := by simpa [ht] using h.opened
  ascending := h.ascending
  size := by
    have hsize := h.size
    simp only [values_pushValue, ops_pushValue, List.length_cons, List.length_append,
      List.length_nil] at hsize ⊢
    omega

theorem Invariant.step {x : Float} {ts : List Token} {m m' : Machine} {t : Token}
    (h : m.Invariant ts) (hs : Step x m t m') : m'.Invariant (ts ++ [t]) := by
  have hsize := h.size
  have hopened := h.opened
  cases hs with
  | number v => exact h.operand v (Token.depth_number v)
  | var => exact h.operand x Token.depth_var
  | opening =>
      refine ⟨?_, ?_, h.ascending.opened, ?_⟩
      · simpa using h.values
      · simpa using hopened
      · simp only [values_pushPending, ops_pushPending, List.length_cons, List.length_append]
          at hsize ⊢
        omega
  | closing hs =>
      refine ⟨?_, ?_, ?_, ?_⟩
      · simpa [Complete] using hs.complete (h.complete rfl)
      · rw [← hs.count_opened] at hopened
        simp only [ops_pushPending, List.count_cons_self] at hopened
        simp only [Token.depth_append, Token.depth_closing]
        omega
      · exact h.ascending.of_suffix ((List.suffix_cons _ _).trans hs.suffix_ops)
      · have hle := hs.size_le
        simp only [values_pushPending, ops_pushPending, List.length_cons, List.length_append,
          List.length_nil] at hle hsize ⊢
        omega
  | op hs =>
      refine ⟨?_, ?_, ?_, ?_⟩
      · simpa [Complete] using hs.complete (h.complete rfl)
      · rw [← hs.count_opened] at hopened
        simpa using hopened
      · exact (h.ascending.of_suffix hs.suffix_ops).op hs.below_ops
      · have hle := hs.size_le
        simp only [values_pushPending, ops_pushPending, List.length_cons, List.length_append,
          List.length_nil] at hle hsize ⊢
        omega

theorem invariant_of_steps {x : Float} {ts : List Token} {m : Machine}
    (h : start.steps x ts = .ok m) : m.Invariant ts :=
  steps_induction (P := fun ts m => m.Invariant ts) invariant_start Invariant.step h

/-! ## Refusals -/

/-- The fault with which a token is refused, if it is, by what waits on the stack. -/
def refusal (m : Machine) (t : Token) : Option Fault :=
  if m.expectsOperand then
    if t.startsOperand then none else some (.operandExpected t)
  else if t.startsOperand then some (.operatorExpected t)
  else if t = .closing ∧ .opened ∉ m.ops then some .unmatchedClosing
  else none

/-- The fault at the end, if there is one, by what waits on the stack. -/
def finishFault (m : Machine) : Option Fault :=
  if m.expectsOperand then
    match m.ops with
    | .op o :: _ => some (.missingOperand o)
    | .opened :: _ => some .unmatchedOpening
    | [] => some .noValue
  else if .opened ∈ m.ops then some .unmatchedOpening
  else none

theorem Invariant.step_failsWith {ts : List Token} {m : Machine} (h : m.Invariant ts) (x : Float)
    (t : Token) : FailsWith (m.refusal t) (m.step x t) := by
  obtain ⟨s, expects⟩ := m
  cases expects with
  | true => cases t <;> constructor
  | false =>
      have hc : s.Complete := h.complete rfl
      cases t with
      | number v => exact .error _
      | var => exact .error _
      | opening => exact .error _
      | op o =>
          obtain ⟨s', hs'⟩ := hc.exists_settles o.one_le_precedence
          rw [step_eq_ok.mpr (.op hs')]
          exact .ok _
      | closing =>
          obtain ⟨⟨vs, ops⟩, hs'⟩ := hc.exists_settles Nat.one_pos
          cases ops with
          | nil =>
              have hno : .opened ∉ s.ops := fun hmem => hs'.opened_mem_iff.mp hmem rfl
              have hstep : Machine.step x ⟨s, false⟩ .closing = .error .unmatchedClosing := by
                show (s.close >>= fun s' => (.ok ⟨s', false⟩ : Except Fault Machine)) = _
                rw [close_of_settles hs']
                rfl
              simp only [hstep, refusal, Token.startsOperand, hno, not_false_eq_true, and_self,
                if_true, Bool.false_eq_true, if_false]
              exact .error _
          | cons p ops =>
              obtain rfl := hs'.top_eq
              have hmem : .opened ∈ s.ops := hs'.opened_mem_iff.mpr nofun
              have hstep : Step x ⟨s, false⟩ .closing ⟨⟨vs, ops⟩, false⟩ := .closing hs'
              rw [step_eq_ok.mpr hstep]
              simp only [refusal, Token.startsOperand, hmem, not_true_eq_false, and_false,
                Bool.false_eq_true, if_false]
              exact .ok _

theorem Invariant.finish_failsWith {ts : List Token} {m : Machine} (h : m.Invariant ts) :
    FailsWith m.finishFault m.finish := by
  obtain ⟨⟨values, waiting⟩, expects⟩ := m
  cases expects with
  | true => rcases waiting with _ | ⟨_ | o, rest⟩ <;> constructor
  | false =>
      have hc : Complete ⟨values, waiting⟩ := h.complete rfl
      obtain ⟨⟨vs, ops⟩, hs'⟩ := hc.exists_settles Nat.one_pos
      cases ops with
      | nil =>
          have hno : .opened ∉ waiting := fun hmem => hs'.opened_mem_iff.mp hmem rfl
          obtain ⟨v, rfl⟩ := List.length_eq_one_iff.mp (hs'.complete hc)
          have hfinish : Machine.finish ⟨⟨values, waiting⟩, false⟩ = .ok v := result_eq_ok.mpr hs'
          simp only [hfinish, finishFault, hno, Bool.false_eq_true, if_false]
          exact .ok v
      | cons p ops =>
          have hmem : .opened ∈ waiting := hs'.opened_mem_iff.mpr nofun
          have hfinish : Machine.finish ⟨⟨values, waiting⟩, false⟩ = .error .unmatchedOpening :=
            result_of_settles hs'
          simp only [hfinish, finishFault, hmem, Bool.false_eq_true, if_false, if_true]
          exact .error _

end Machine

/-! ## Faults that never occur -/

/-- The faults by which the stacks guard themselves. -/
def Fault.isDefensive : Fault → Bool
  | .operatorUnderflow | .operandUnderflow _ | .valuesLeft _ => true
  | _ => false

namespace Machine

theorem isDefensive_of_refusal {m : Machine} {t : Token} {f : Fault} (h : m.refusal t = some f) :
    f.isDefensive = false := by
  unfold refusal at h
  split at h <;> split at h <;> try split at h
  all_goals cases h
  all_goals rfl

theorem isDefensive_of_finishFault {m : Machine} {f : Fault} (h : m.finishFault = some f) :
    f.isDefensive = false := by
  unfold finishFault at h
  split at h <;> split at h
  all_goals cases h
  all_goals rfl

end Machine

namespace Expr

theorem isDefensive_of_evaluateTokens {x : Float} {ts : List Token} {f : Fault}
    (h : evaluateTokens x ts = .error f) : f.isDefensive = false := by
  unfold evaluateTokens at h
  cases hrun : Machine.start.steps x ts with
  | error e =>
      rw [hrun] at h
      cases h
      obtain ⟨us, t, vs, m, -, hus, ht⟩ := Machine.exists_step_of_error hrun
      have hstep := (Machine.invariant_of_steps hus).step_failsWith x t
      exact Machine.isDefensive_of_refusal (hstep.eq_some ht)
  | ok m =>
      rw [hrun] at h
      have hfinish := (Machine.invariant_of_steps hrun).finish_failsWith
      exact Machine.isDefensive_of_finishFault (hfinish.eq_some h)

theorem isDefensive_of_value {s : String} {x : Float} {f : Fault} (h : value s x = .error f) :
    f.isDefensive = false := by
  unfold value at h
  cases ht : tokenize s with
  | error e =>
      rw [ht] at h
      cases h
      rfl
  | ok ts =>
      rw [ht] at h
      exact isDefensive_of_evaluateTokens h

end Expr

/-! ## The headline theorem -/

/-- **Nothing is ever missing on the stacks.** Every state that a run of tokens reaches meets the
invariant; every reduction that one of its loops asks for finds an operator and two values; an end
without open parentheses finds one value; and so no text is refused by a guard of the stacks. -/
theorem reached_stacks_sound :
    (∀ (x : Float) (ts : List Token) (m : Machine), Machine.start.steps x ts = .ok m →
      m.Invariant ts ∧
      (m.expectsOperand = false →
        (∀ (test : Pending → Bool) (s : Stacks), Stacks.LoopTest test →
          Stacks.ReducesAt test m.toStacks s →
          ∃ a b vs o ops, s = ⟨b :: a :: vs, .op o :: ops⟩) ∧
        (∀ s : Stacks, m.toStacks.reduceWhile (· != .opened) = .ok s → s.ops = [] →
          ∃ v, s.values = [v]))) ∧
    ∀ (s : String) (x : Float) (e : Malformed),
      (Expr.evaluate s x).outcome = .error e → e.fault.isDefensive = false := by
  refine ⟨fun x ts m hm => ?_, fun s x e he => ?_⟩
  · have hinv := Machine.invariant_of_steps hm
    refine ⟨hinv, fun hexpects => ⟨fun test s htest hs => ?_, fun s hs hops => ?_⟩⟩
    · exact hs.reducible htest.opened (hinv.complete hexpects)
    · rw [← Stacks.settle_one, Stacks.settle_eq_ok] at hs
      have hc := hs.complete (hinv.complete hexpects)
      rw [Stacks.Complete, hops] at hc
      exact List.length_eq_one_iff.mp hc
  · rw [Expr.outcome_evaluate] at he
    cases hv : Expr.value s x with
    | ok v => rw [hv] at he; cases he
    | error f =>
        rw [hv] at he
        cases he
        exact Expr.isDefensive_of_value hv

/-- `2 * x + ( 3 ^ 4`: a product is carried out on the way, and two operators wait. -/
theorem reached_stacks_sound_nested :
    Machine.start.steps 5 [.number 2, .op .multiply, .var, .op .add, .opening, .number 3,
        .op .power, .number 4] =
      .ok ⟨⟨[4, 3, BinOp.multiply.apply 2 5], [.op .power, .opened, .op .add]⟩, false⟩ ∧
    Machine.Invariant [.number 2, .op .multiply, .var, .op .add, .opening, .number 3,
        .op .power, .number 4]
      ⟨⟨[4, 3, BinOp.multiply.apply 2 5], [.op .power, .opened, .op .add]⟩, false⟩ :=
  have h : Machine.start.steps 5 [.number 2, .op .multiply, .var, .op .add, .opening, .number 3,
        .op .power, .number 4] =
      .ok ⟨⟨[4, 3, BinOp.multiply.apply 2 5], [.op .power, .opened, .op .add]⟩, false⟩ := by
    decide +kernel
  ⟨h, (reached_stacks_sound.1 _ _ _ h).1⟩

end Reckon
