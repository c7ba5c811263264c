import Reckon.Proofs.Expr.Substitution

/-!
# Pipelines

A pipeline carries out arithmetic operations one after the other. Each can be written behind an expression, by
its tag and its operand, so that a pipeline is also one expression: `Pipeline.nested` puts parentheses around
everything before a stage, and `Pipeline.chained` leaves them out.

Operations and expressions have arithmetic of their own. `Arithmetic.operator` is the operator to which a kind
corresponds: its tag is the symbol of this operator (`Arithmetic.tag_eq`), and with the value on the left and the
operand on the right the operator computes the same (`Arithmetic.apply_eq`). So the pipeline and its nested text have
the same value. Without parentheses this holds as long as no stage binds more strongly than one before it: a stage
that comes then finds everything before it carried out down to one value (`Machine.steps_stage`), whatever the
machine has left waiting so far.
-/

namespace Reckon

open Stacks Text

/-! ## Kinds and operators -/

namespace Arithmetic

/-- The operator of expressions to which a kind corresponds. -/
def operator : Arithmetic → BinOp
  | add => .add
  | subtract => .subtract
  | multiply => .multiply
  | divide => .divide
  | power => .power

/-- A kind goes by the symbol of its operator. -/
theorem tag_eq (a : Arithmetic) : a.tag = a.operator.symbol.toString := by
  cases a <;> rfl

/-- The value is the left operand of the operator. -/
theorem apply_eq (a : Arithmetic) (v b : Float) : a.apply v b = a.operator.apply v b := by
  cases a <;> rfl

end Arithmetic

/-! ## Stages -/

/-- An arithmetic operation with its operand as it is written. -/
structure Stage where
  kind : Arithmetic
  literal : String
  operand : Float
  reads : tokenize literal = .ok [.number operand]

namespace Stage

def operation (st : Stage) : Operation :=
  .structured (.arithmetic st.kind) st.operand

/-- What is written behind an expression to have the operation carried out on its value. -/
def text (st : Stage) : String :=
  (Kind.arithmetic st.kind).tag ++ st.literal

/-- The operator that the text of the stage is read as. -/
def op (st : Stage) : BinOp :=
  st.kind.operator

def tokens (st : Stage) : List Token :=
  [.op st.op, .number st.operand]

theorem outcome_apply_operation (st : Stage) (v : Float) :
    (st.operation.apply v).outcome = .ok (st.op.apply v st.operand) :=
  congrArg Except.ok (st.kind.apply_eq v st.operand)

end Stage

namespace Pipeline

/-- Each operation works on the value that the one before it gave. -/
def perform (p : List Stage) (v : Float) : Attempt Malformed Float :=
  p.foldlM (fun w st => st.operation.apply w) v

def value (p : List Stage) (v : Float) : Float :=
  p.foldl (fun w st => st.op.apply w st.operand) v

def nested (p : List Stage) : String :=
  p.foldl (fun e st => "(" ++ e ++ ")" ++ st.text) "x"

def chained (p : List Stage) : String :=
  p.foldl (fun e st => e ++ st.text) "x"

theorem value_concat (p : List Stage) (st : Stage) (v : Float) :
    value (p ++ [st]) v = st.op.apply (value p v) st.operand :=
  List.foldl_concat _ _ _ _

theorem nested_concat (p : List Stage) (st : Stage) :
    nested (p ++ [st]) = "(" ++ nested p ++ ")" ++ st.text :=
  List.foldl_concat _ _ _ _

theorem chained_concat (p : List Stage) (st : Stage) : chained (p ++ [st]) = chained p ++ st.text :=
  List.foldl_concat _ _ _ _

theorem outcome_perform (p : List Stage) (v : Float) : (perform p v).outcome = .ok (value p v) := by
  induction p generalizing v with
  | nil => rfl
  | cons st p ih =>
      rw [perform, List.foldlM_cons, Attempt.outcome_bind, st.outcome_apply_operation]
      exact ih (st.op.apply v st.operand)

end Pipeline

/-! ## Tokens -/

theorem tokenize_var : tokenize "x" = .ok [.var] := by
  have hsingle := Cursor.tokens_single .var [] 0
  rwa [Cursor.tokens_nil] at hsingle

theorem tokenize_group {e : String} {ts : List Token} (h : tokenize e = .ok ts) :
    tokenize ("(" ++ e ++ ")") = .ok (.opening :: (ts ++ [.closing])) :=
  Cursor.tokens_group h 0

namespace Stage

theorem toList_text (st : Stage) : st.text.toList = st.op.symbol :: st.literal.toList := by
  simp [text, Kind.tag, Arithmetic.tag_eq, op]

/-- A stage begins with its operator, which ends any number before it. -/
theorem tokenize_append {e : String} {ts : List Token} (h : tokenize e = .ok ts) (st : Stage) :
    tokenize (e ++ st.text) = .ok (ts ++ st.tokens) := by
  have hapart : Apart e.toList st.text.toList := by
    right
    rw [toList_text]
    exact stops_cons.mpr (Token.WrittenAs.op st.op).apart.2
  have hliteral : Cursor.tokens ⟨st.literal.toList, 0 + 1⟩ = .ok [.number st.operand] := by
    have hzero : Cursor.tokens ⟨st.literal.toList, 0⟩ = .ok [.number st.operand] := st.reads
    rw [Cursor.tokens_add, hzero]
    rfl
  have htext : tokenize st.text = .ok st.tokens := by
    rw [tokenize, Cursor.start, toList_text, Cursor.tokens_single (.op st.op), hliteral]
    rfl
  rw [tokenize_append_apart hapart, h, htext]
  rfl

end Stage

namespace Pipeline

theorem tokenize_chained (p : List Stage) :
    tokenize (chained p) = .ok (.var :: p.flatMap Stage.tokens) := by
  induction p using List.reverseRecOn with
  | nil => exact tokenize_var
  | append_singleton p st ih =>
      rw [chained_concat]
      simpa using st.tokenize_append ih

end Pipeline

/-! ## Steps -/

namespace Machine

variable {x w : Float} {s : Stacks} {k : Nat}

/-- A stage that binds at most as strongly as all that still waits has the rest carried out first. -/
theorem steps_stage (x : Float) (st : Stage) (h : Settles k s ⟨[w], []⟩) (hk : st.op.precedence ≤ k) :
    ∃ s', steps x ⟨s, false⟩ st.tokens = .ok ⟨s', false⟩ ∧
      Settles st.op.precedence s' ⟨[st.op.apply w st.operand], []⟩ := by
  have hrest : Settles st.op.precedence s ⟨[w], []⟩ := h.trans hk (.stop (below_nil _))
  have hop : Step x ⟨s, false⟩ (.op st.op) ⟨⟨[w], [.op st.op]⟩, true⟩ := .op hrest
  refine ⟨⟨[st.operand, w], [.op st.op]⟩, ?_, .carry (Nat.le_refl _) (.stop (below_nil _))⟩
  rw [Stage.tokens, hop.steps_cons]
  rfl

theorem steps_chained (x : Float) (p : List Stage) (h : Settles k s ⟨[w], []⟩) (hk : 1 ≤ k)
    (hle : ∀ st ∈ p, st.op.precedence ≤ k)
    (hp : p.Pairwise fun st st' => st'.op.precedence ≤ st.op.precedence) :
    ∃ s', steps x ⟨s, false⟩ (p.flatMap Stage.tokens) = .ok ⟨s', false⟩ ∧
      Settles 1 s' ⟨[Pipeline.value p w], []⟩ := by
  induction p generalizing s k w with
  | nil => exact ⟨s, rfl, h.trans hk (.stop (below_nil _))⟩
  | cons st p ih =>
      obtain ⟨hfirst, hp⟩ := List.pairwise_cons.mp hp
      obtain ⟨s₁, hs₁, hsettles⟩ := steps_stage x st h (hle st List.mem_cons_self)
      obtain ⟨s', hs', hvalue⟩ := ih hsettles st.op.one_le_precedence hfirst hp
      refine ⟨s', ?_, hvalue⟩
      rw [List.flatMap_cons, steps_append_of_ok hs₁]
      exact hs'

end Machine

namespace Expr

/-- What is inside the parentheses is one value when the stage comes. -/
theorem evaluateTokens_stage {x w : Float} {ts : List Token} (h : evaluateTokens x ts = .ok w) (st : Stage) :
    evaluateTokens x (.opening :: (ts ++ [.closing]) ++ st.tokens) = .ok (st.op.apply w st.operand) := by
  have hgroup : Machine.start.steps x (.opening :: (ts ++ [.closing])) = .ok ⟨⟨[w], []⟩, false⟩ :=
    Machine.steps_group h ⟨[], []⟩
  have hsettled : Settles st.op.precedence ⟨[w], []⟩ ⟨[w], []⟩ := .stop (below_nil _)
  obtain ⟨s', hs', hvalue⟩ := Machine.steps_stage x st hsettled (Nat.le_refl _)
  refine evaluateTokens_iff.mpr ⟨s', ?_, hvalue.trans st.op.one_le_precedence (.stop (below_nil _))⟩
  rw [Machine.steps_append_of_ok hgroup]
  exact hs'

theorem outcome_evaluate_of_tokens {s : String} {x v : Float} {ts : List Token} (hts : tokenize s = .ok ts)
    (h : evaluateTokens x ts = .ok v) : (evaluate s x).outcome = .ok v := by
  rw [outcome_evaluate, mapError_eq_ok, value, hts]
  exact h

end Expr

namespace Pipeline

theorem exists_tokens_nested (p : List Stage) (v : Float) :
    ∃ ts, tokenize (nested p) = .ok ts ∧ Expr.evaluateTokens v ts = .ok (value p v) := by
  induction p using List.reverseRecOn with
  | nil =>
      have hvar : Settles 1 ⟨[v], []⟩ ⟨[v], []⟩ := .stop (below_nil _)
      exact ⟨[.var], tokenize_var, Expr.evaluateTokens_iff.mpr ⟨_, rfl, hvar⟩⟩
  | append_singleton p st ih =>
      obtain ⟨ts, hts, hvalue⟩ := ih
      rw [nested_concat, value_concat]
      exact ⟨_, st.tokenize_append (tokenize_group hts), Expr.evaluateTokens_stage hvalue st⟩

theorem outcome_evaluate_nested (p : List Stage) (v : Float) :
    (Expr.evaluate (nested p) v).outcome = .ok (value p v) := by
  obtain ⟨ts, hts, hvalue⟩ := exists_tokens_nested p v
  exact Expr.outcome_evaluate_of_tokens hts hvalue

theorem outcome_evaluate_chained {p : List Stage}
    (hp : p.Pairwise fun st st' => st'.op.precedence ≤ st.op.precedence) (v : Float) :
    (Expr.evaluate (chained p) v).outcome = .ok (value p v) := by
  have hvar : Settles 3 ⟨[v], []⟩ ⟨[v], []⟩ := .stop (below_nil _)
  obtain ⟨s', hs', hvalue⟩ :=
    Machine.steps_chained v p hvar (by decide) (fun st _ => st.op.precedence_le_three) hp
  have hsteps : Machine.start.steps v (.var :: p.flatMap Stage.tokens) = .ok ⟨s', false⟩ := by
    rw [Machine.start, Machine.Step.var.steps_cons]
    exact hs'
  exact Expr.outcome_evaluate_of_tokens (tokenize_chained p) (Expr.evaluateTokens_iff.mpr ⟨s', hsteps, hvalue⟩)

end Pipeline

/-! ## The headline theorem -/

/-- **A pipeline is an expression.** Arithmetic operations carried out one after the other give the value of the
one expression in which each stands behind all before it, in parentheses; and of the same expression without any
parentheses, if no stage binds more strongly than one before it. -/
theorem pipeline_eq_expression (p : List Stage) (v : Float) :
    ∃ w, (Pipeline.perform p v).outcome = .ok w ∧
      (Expr.evaluate (Pipeline.nested p) v).outcome = .ok w ∧
      (p.Pairwise (fun st st' => st'.op.precedence ≤ st.op.precedence) →
        (Expr.evaluate (Pipeline.chained p) v).outcome = .ok w) := by
  refine ⟨Pipeline.value p v, Pipeline.outcome_perform p v, Pipeline.outcome_evaluate_nested p v, ?_⟩
  intro hp
  exact Pipeline.outcome_evaluate_chained hp v

/-- Powers group to the left, so that two of them need no parentheses; blanks around an operand do no harm. -/
theorem pipeline_eq_expression_powers :
    ∃ p : List Stage, Pipeline.nested p = "(((x)^3)^ 2.)-.5" ∧ Pipeline.chained p = "x^3^ 2.-.5" ∧
      p.Pairwise (fun st st' => st'.op.precedence ≤ st.op.precedence) ∧
      ∃ w, (Pipeline.perform p 4).outcome = .ok w ∧ (Expr.evaluate "(((x)^3)^ 2.)-.5" 4).outcome = .ok w ∧
        (Expr.evaluate "x^3^ 2.-.5" 4).outcome = .ok w := by
  have hthree : tokenize "3" = .ok [.number 3] := by decide +kernel
  have htwo : tokenize " 2." = .ok [.number 2] := by decide +kernel
  have hhalf : tokenize ".5" = .ok [.number 0.5] := by decide +kernel
  let p : List Stage := [⟨.power, "3", 3, hthree⟩, ⟨.power, " 2.", 2, htwo⟩, ⟨.subtract, ".5", 0.5, hhalf⟩]
  have hp : p.Pairwise (fun st st' => st'.op.precedence ≤ st.op.precedence) := by
    simp [p, Stage.op, Arithmetic.operator, BinOp.precedence]
  have hnested : Pipeline.nested p = "(((x)^3)^ 2.)-.5" := by
    simp [p, Pipeline.nested, Stage.text, Kind.tag, Arithmetic.tag]
  have hchained : Pipeline.chained p = "x^3^ 2.-.5" := by
    simp [p, Pipeline.chained, Stage.text, Kind.tag, Arithmetic.tag]
  obtain ⟨w, hperform, hn, hc⟩ := pipeline_eq_expression p 4
  rw [hnested] at hn
  have hc := hc hp
  rw [hchained] at hc
  exact ⟨p, hnested, hchained, hp, w, hperform, hn, hc⟩

end Reckon
