import Reckon.Proofs.Expr.Invariant

/-!
# What is wrong with a text

A refused text is refused for a reason that can be read off its tokens without evaluating anything: from the
token before a place, from the number of parentheses that are open there, and from the last token.
`Diagnosis.reasonAt` and `Diagnosis.reasonAtEnd` say so for one place and for the end, and `Diagnosis.ofText`
takes the first reason from the left. An unreadable token comes before all of these.

The machine decides by its stacks instead. `Machine.Invariant` gives the number of open parentheses on them,
and `Machine.Follows` what the last token leaves on top; with both, a state and a place agree on the reason
(`Diagnosis.refusal_message`, `Diagnosis.finishFault_message`). `FailsWith.bind` puts the places together in
the order in which they are reached.
-/

namespace Reckon

/-! ## Reasons by position -/

namespace Diagnosis

open Token

/-- An operand has to come at a place: at the beginning, and after an operator or an opening parenthesis. -/
def operandDue (ts : List Token) (i : Nat) : Bool :=
  i == 0 || ts[i - 1]?.any wantsOperand

/-- What is wrong with the token at a place. -/
def reasonAt (ts : List Token) (i : Nat) : Option String :=
  match ts[i]? with
  | none => none
  | some t =>
    if operandDue ts i then
      if t.startsOperand then none else some ("expected an operand, found '" ++ t.text ++ "'")
    else if t.startsOperand then some ("expected an operator, found '" ++ t.text ++ "'")
    else if t = closing ∧ depth (ts.take i) = 0 then some "unmatched ')'"
    else none

/-- What is wrong at the end of tokens with which nothing else is wrong. -/
def reasonAtEnd (ts : List Token) : Option String :=
  match ts.getLast? with
  | none => some "no value"
  | some (op o) => some ("missing operand for '" ++ o.symbol.toString ++ "'")
  | some opening => some "unmatched '('"
  | some _ => if 0 < depth ts then some "unmatched '('" else none

/-- The reason at the first place that has one, or else the reason at the end. -/
def ofTokens (ts : List Token) : Option String :=
  ((List.range ts.length).findSome? (reasonAt ts)).or (reasonAtEnd ts)

def ofText (s : String) : Option String :=
  match tokenize s with
  | .error e => some e.message
  | .ok ts => ofTokens ts

end Diagnosis

/-! ## What the last token leaves on top -/

/-- What a token that asks for an operand leaves waiting. -/
def Token.pending? : Token → Option Pending
  | op o => some (.op o)
  | opening => some .opened
  | number _ | var | closing => none

namespace Machine

structure Follows (ts : List Token) (m : Machine) : Prop where
  expects : m.expectsOperand = ts.getLast?.all Token.wantsOperand
  top : m.expectsOperand = true → m.ops.head? = ts.getLast?.bind Token.pending?

theorem follows_start : Follows [] start where
  expects := rfl
  top _ := rfl

theorem Step.follows {x : Float} {m m' : Machine} {t : Token} (h : Step x m t m') (ts : List Token) :
    Follows (ts ++ [t]) m' := by
  cases h <;> constructor <;> simp [Token.wantsOperand, Token.pending?]

theorem follows_of_steps {x : Float} {ts : List Token} {m : Machine} (h : start.steps x ts = .ok m) :
    Follows ts m :=
  steps_induction (P := Follows) follows_start (fun _ hs => hs.follows _) h

end Machine

/-! ## A state and its place agree -/

namespace Diagnosis

open Machine

theorem operandDue_eq (ts : List Token) {i : Nat} (h : i ≤ ts.length) :
    operandDue ts i = (ts.take i).getLast?.all Token.wantsOperand := by
  cases i with
  | zero => rfl
  | succ i => simp [operandDue, List.getLast?_take, List.getElem?_eq_getElem h]

theorem opened_mem_iff {m : Machine} {ts : List Token} (h : m.Invariant ts) :
    .opened ∈ m.ops ↔ 0 < Token.depth ts := by
  rw [← h.opened, ← List.count_pos_iff]
  omega

theorem refusal_message {m : Machine} {ts : List Token} {i : Nat} (h : i < ts.length)
    (hinv : m.Invariant (ts.take i)) (hfollows : m.Follows (ts.take i)) :
    (m.refusal ts[i]).map Fault.message = reasonAt ts i := by
  have hdue : operandDue ts i = m.expectsOperand := by
    rw [operandDue_eq ts (Nat.le_of_lt h), hfollows.expects]
  have hdepth : .opened ∉ m.ops ↔ Token.depth (ts.take i) = 0 := by
    rw [opened_mem_iff hinv, ← hinv.opened]
    omega
  simp only [refusal, reasonAt, List.getElem?_eq_getElem h, hdue, hdepth]
  split <;> split <;> try split
  all_goals rfl

theorem finishFault_message {m : Machine} {ts : List Token} (hinv : m.Invariant ts)
    (hfollows : m.Follows ts) : m.finishFault.map Fault.message = reasonAtEnd ts := by
  have hopened := opened_mem_iff hinv
  obtain ⟨hexpects, htop⟩ := hfollows
  obtain ⟨⟨values, waiting⟩, expects⟩ := m
  have hoperator : (finishFault ⟨⟨values, waiting⟩, false⟩).map Fault.message =
      if 0 < Token.depth ts then some "unmatched '('" else none := by
    simp only [finishFault, Bool.false_eq_true, if_false, hopened]
    split <;> rfl
  cases hlast : ts.getLast? with
  | none =>
      rw [hlast] at hexpects htop
      obtain rfl : expects = true := hexpects
      obtain rfl : waiting = [] := List.head?_eq_none_iff.mp (htop rfl)
      rw [reasonAtEnd, hlast]
      rfl
  | some t =>
      rw [hlast] at hexpects htop
      rw [reasonAtEnd, hlast]
      cases t with
      | op o =>
          obtain rfl : expects = true := hexpects
          obtain ⟨rest, rfl⟩ := List.head?_eq_some_iff.mp (htop rfl)
          rfl
      | opening =>
          obtain rfl : expects = true := hexpects
          obtain ⟨rest, rfl⟩ := List.head?_eq_some_iff.mp (htop rfl)
          rfl
      | number _ | var | closing =>
          obtain rfl : expects = false := hexpects
          exact hoperator

/-! ## The first reason -/

theorem steps_take (x : Float) (ts : List Token) {i : Nat} (h : i ≤ ts.length) :
    FailsWith ((List.range i).findSome? (reasonAt ts))
      ((start.steps x (ts.take i)).mapError Fault.message) := by
  induction i with
  | zero => exact .ok start
  | succ i ih =>
      rw [List.range_succ, List.findSome?_append, ← List.take_append_getElem h, steps_append, mapError_bind]
      refine (ih (Nat.le_of_lt h)).bind fun m hm => ?_
      have hm := mapError_eq_ok.mp hm
      have hinv := invariant_of_steps hm
      rw [steps_singleton, List.findSome?_singleton, ← refusal_message h hinv (follows_of_steps hm)]
      exact (hinv.step_failsWith x ts[i]).mapError _

theorem evaluateTokens_failsWith (x : Float) (ts : List Token) :
    FailsWith (ofTokens ts) ((Expr.evaluateTokens x ts).mapError Fault.message) := by
  have hsteps := steps_take x ts (Nat.le_refl _)
  rw [List.take_length] at hsteps
  rw [Expr.evaluateTokens, mapError_bind]
  refine hsteps.bind fun m hm => ?_
  have hm := mapError_eq_ok.mp hm
  have hinv := invariant_of_steps hm
  rw [← finishFault_message hinv (follows_of_steps hm)]
  exact hinv.finish_failsWith.mapError _

/-- An operator without its operand comes before an open parenthesis. -/
example : ofTokens [.opening, .number 1, .op .add] = some "missing operand for '+'" := rfl

theorem value_failsWith (s : String) (x : Float) :
    FailsWith (ofText s) ((Expr.value s x).mapError Fault.message) := by
  unfold ofText Expr.value
  cases tokenize s with
  | error e => exact .error _
  | ok ts => exact evaluateTokens_failsWith x ts

end Diagnosis

/-! ## The headline theorem -/

/-- **The reason is the first one.** A text is refused exactly if there is something wrong with it, for the
reason that comes first, and with the text in the error. -/
theorem evaluate_diagnosis (s : String) (x : Float) :
    (Expr.evaluate s x).outcome = (Expr.run s x).outcome ∧
    match Diagnosis.ofText s with
    | some reason => ∃ e, (Expr.evaluate s x).outcome = .error e ∧ e.expression = s ∧ e.reason = reason
    | none => ∃ v, (Expr.evaluate s x).outcome = .ok v := by
  refine ⟨Expr.outcome_evaluate_eq_run s x, ?_⟩
  have h := Diagnosis.value_failsWith s x
  rw [Expr.outcome_evaluate]
  cases hv : Expr.value s x with
  | error f =>
      rw [hv] at h
      rw [h.eq_some rfl]
      exact ⟨⟨s, f⟩, rfl, rfl, rfl⟩
  | ok v =>
      rw [hv] at h
      rw [h.eq_none rfl]
      exact ⟨v, rfl⟩

end Reckon
