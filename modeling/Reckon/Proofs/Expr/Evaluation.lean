import Reckon.Proofs.Expr.Grammar
import Reckon.Proofs.Expr.Stacks

/-!
# Evaluation follows the grammar

The machine builds no tree, yet the texts that it accepts are those with a derivation, and the value that it
leaves is the value of the derivation.

- **Every derivation is accepted.** The tokens of a derivation, taken on top of anything that binds less than
  its nonterminal, leave stacks that settle to one value more than before, and this is the value of the
  derivation (`Derivation.steps_yield`). The induction is on the derivation: it is there that an operator
  that comes too early to be carried out meets the one that carries it out.
- **Everything accepted is derived.** What waits on the stack after some tokens is a derivation of them with
  its right edge missing: `Waiting` has a left operand for every waiting operator, and `Machine.Parses` adds
  the atom that was read last. Values play no role here, and `Waiting.settles` is the one place where the
  loop is looked at: it wraps the operators that it carries out around this atom.

Together with the uniqueness of derivations this is the headline theorem.
-/

namespace Reckon

open Stacks

/-! ## Every derivation is accepted -/

namespace Derivation

theorem steps_yield (x : Float) {n : Nonterminal} (d : Derivation n) (s : Stacks)
    (h : Below n.level s.ops) :
    ∃ s', Machine.steps x ⟨s, true⟩ d.yield = .ok ⟨s', false⟩ ∧
      Settles n.level s' (s.pushValue (d.value x)) := by
  induction d generalizing s with
  | @operand n m hm d ih =>
      have hlevel := Nonterminal.level_of_operand hm
      obtain ⟨s', hs', hsettles⟩ := ih s (h.mono (by omega))
      exact ⟨s', hs', hsettles.trans (by omega) (.stop h)⟩
  | @operation n m hm left o ho right ihl ihr =>
      have hlevel := Nonterminal.level_of_operand hm
      have hprec := Nonterminal.precedence_of_mem ho
      obtain ⟨s₁, hs₁, hsettles₁⟩ := ihl s h
      have hop : Machine.Step x ⟨s₁, false⟩ (.op o)
          ⟨(s.pushValue (left.value x)).pushPending (.op o), true⟩ := .op (hprec ▸ hsettles₁)
      obtain ⟨s₂, hs₂, hsettles₂⟩ := ihr ((s.pushValue (left.value x)).pushPending (.op o))
        (below_cons.mpr (by rw [Pending.precedence]; omega))
      refine ⟨s₂, ?_, hsettles₂.trans (by omega) (.carry (by omega) (.stop h))⟩
      rw [yield, Machine.steps_append_of_ok hs₁, hop.steps_cons]
      exact hs₂
  | number v => exact ⟨s.pushValue v, rfl, .stop h⟩
  | var => exact ⟨s.pushValue x, rfl, .stop h⟩
  | group d ih =>
      obtain ⟨s', hs', hsettles⟩ := ih (s.pushPending .opened) (below_cons.mpr Nat.one_pos)
      have hclose : Machine.Step x ⟨s', false⟩ .closing ⟨s.pushValue (d.value x), false⟩ :=
        .closing hsettles
      refine ⟨s.pushValue (d.value x), ?_, .stop h⟩
      rw [yield, Machine.Step.opening.steps_cons, Machine.steps_append_of_ok hs', hclose.steps_cons]
      rfl

theorem evaluateTokens_yield (x : Float) (d : Derivation .expression) :
    Expr.evaluateTokens x d.yield = .ok (d.value x) := by
  obtain ⟨s', hs', hsettles⟩ := d.steps_yield x ⟨[], []⟩ (below_nil _)
  exact Expr.evaluateTokens_iff.mpr ⟨s', hs', hsettles⟩

end Derivation

/-! ## Everything accepted is derived -/

/-- What the waiting operators are made of: before each open parenthesis and each operator stands what
waits below it, and before an operator also its left operand. -/
inductive Waiting : List Pending → List Token → Prop
  | start : Waiting [] []
  | opened {ops : List Pending} {ts : List Token} (h : Waiting ops ts) :
      Waiting (.opened :: ops) (ts ++ [.opening])
  | op {ops : List Pending} {ts : List Token} {n : Nonterminal} {o : BinOp} (h : Waiting ops ts)
      (left : Derivation n) (ho : o ∈ n.operators) (hb : Below n.level ops) :
      Waiting (.op o :: ops) (ts ++ left.yield ++ [.op o])

/-- The loop wraps what it carries out around the operand read last. -/
theorem Waiting.settles {n m : Nonterminal} {s s' : Stacks} {ts : List Token}
    (h : Settles m.level s s') (hw : Waiting s.ops ts) (d : Derivation n) (hb : Below n.level s.ops)
    (hle : m.level ≤ n.level) :
    ∃ us, ∃ d' : Derivation m, Waiting s'.ops us ∧ us ++ d'.yield = ts ++ d.yield := by
  induction h generalizing n ts with
  | stop _ =>
      obtain ⟨d', hd'⟩ := d.exists_yield_eq hle
      exact ⟨ts, d', hw, by rw [hd']⟩
  | @carry a b values o ops s' hk _ ih =>
      cases hw with
      | @op _ us n' _ hw left ho hb' =>
          obtain ⟨m', hm'⟩ := Nonterminal.operand_of_mem ho
          have hlevel := Nonterminal.level_of_operand hm'
          have hprec := Nonterminal.precedence_of_mem ho
          have hlt : o.precedence < n.level := below_cons.mp hb
          obtain ⟨right, hright⟩ : ∃ right : Derivation m', right.yield = d.yield :=
            d.exists_yield_eq (by omega)
          obtain ⟨vs, d', hvs, heq⟩ := ih hw (.operation hm' left o ho right) hb' (by omega)
          refine ⟨vs, d', hvs, heq.trans ?_⟩
          simp [Derivation.yield, hright]

namespace Machine

/-- The tokens `ts` up to the state that they lead to. -/
inductive Parses : List Token → Machine → Prop
  | operand {s : Stacks} {ts : List Token} (h : Waiting s.ops ts) : Parses ts ⟨s, true⟩
  | operator {s : Stacks} {ts : List Token} (h : Waiting s.ops ts) (d : Derivation .atom) :
      Parses (ts ++ d.yield) ⟨s, false⟩

theorem Parses.step {x : Float} {ts : List Token} {m m' : Machine} {t : Token} (h : Parses ts m)
    (hs : Step x m t m') : Parses (ts ++ [t]) m' := by
  cases hs with
  | @number s v =>
      cases h with
      | operand hw => exact .operator (s := s.pushValue v) hw (.number v)
  | @var s =>
      cases h with
      | operand hw => exact .operator (s := s.pushValue x) hw .var
  | @opening s =>
      cases h with
      | operand hw => exact .operand (s := s.pushPending .opened) hw.opened
  | @closing s s' hs =>
      cases h with
      | operator hw d =>
          obtain ⟨us, d', hus, heq⟩ := hw.settles (m := .expression) hs d (below_four _) (by decide)
          cases hus with
          | @opened _ us hw' =>
              have hgroup := Parses.operator (s := s') hw' (.group d')
              rw [← heq]
              simpa [Derivation.yield] using hgroup
  | @op s s' o hs =>
      cases h with
      | operator hw d =>
          obtain ⟨n, m, -, ho⟩ := Nonterminal.exists_mem_operators o
          rw [Nonterminal.precedence_of_mem ho] at hs
          obtain ⟨us, d', hus, heq⟩ := hw.settles hs d (below_four _) n.level_le_four
          rw [← heq]
          exact .operand (hus.op d' ho hs.below_ops)

theorem parses_of_steps {x : Float} {ts : List Token} {m : Machine}
    (h : start.steps x ts = .ok m) : Parses ts m :=
  steps_induction (P := Parses) (.operand .start) Parses.step h

theorem Parses.finish {ts : List Token} {m : Machine} {v : Float} (h : Parses ts m)
    (hf : m.finish = .ok v) : ∃ d : Derivation .expression, d.yield = ts := by
  obtain ⟨hexpects, hs⟩ := finish_eq_ok.mp hf
  cases h with
  | operand hw => cases hexpects
  | operator hw d =>
      obtain ⟨us, d', hus, heq⟩ := hw.settles (m := .expression) hs d (below_four _) (by decide)
      cases hus with
      | start => exact ⟨d', heq⟩

end Machine

namespace Expr

theorem exists_derivation {x v : Float} {ts : List Token} (h : evaluateTokens x ts = .ok v) :
    ∃ d : Derivation .expression, d.yield = ts := by
  obtain ⟨m, hrun, hfinish⟩ := bind_eq_ok.mp h
  exact (Machine.parses_of_steps hrun).finish hfinish

theorem evaluateTokens_eq_ok {x v : Float} {ts : List Token} :
    evaluateTokens x ts = .ok v ↔ ∃ d : Derivation .expression, d.yield = ts ∧ d.value x = v := by
  constructor
  · intro h
    obtain ⟨d, rfl⟩ := exists_derivation h
    rw [d.evaluateTokens_yield] at h
    exact ⟨d, rfl, Except.ok.inj h⟩
  · rintro ⟨d, rfl, rfl⟩
    exact d.evaluateTokens_yield x

/-- A text stands for a value: its tokens have a derivation, and this has the value. -/
def Denotes (s : String) (x v : Float) : Prop :=
  ∃ ts, tokenize s = .ok ts ∧ ∃ d : Derivation .expression, d.yield = ts ∧ d.value x = v

theorem value_eq_ok {s : String} {x v : Float} : value s x = .ok v ↔ Denotes s x v := by
  simp only [value, Denotes, bind_eq_ok, mapError_eq_ok, evaluateTokens_eq_ok]

end Expr

/-! ## The headline theorem -/

/-- **Evaluation follows the grammar.** A text is evaluated, with or without a record of the request, to the
value of a derivation of its tokens, and there is a value whenever there is a derivation. No tokens have two
derivations. -/
theorem evaluate_iff_derivation :
    (∀ (s : String) (x v : Float),
      ((Expr.evaluate s x).outcome = .ok v ↔ Expr.Denotes s x v) ∧
      ((Expr.run s x).outcome = .ok v ↔ Expr.Denotes s x v)) ∧
    ∀ d d' : Derivation .expression, d.yield = d'.yield → d = d' := by
  refine ⟨fun s x v => ?_, fun d d' h => Derivation.yield_injective h⟩
  rw [Expr.outcome_evaluate, Expr.outcome_run, mapError_eq_ok]
  exact ⟨Expr.value_eq_ok, Expr.value_eq_ok⟩

end Reckon
