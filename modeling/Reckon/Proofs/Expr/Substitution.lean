import Reckon.Operation.Perform
import Reckon.Proofs.Expr.Frame
import Reckon.Proofs.Expr.Lockstep
import Reckon.Proofs.Expr.Pieces

/-!
# Substitution of texts

`Expr.substitute f e` is the text `e` with `(f)` in place of every `x`. If `f` has the value `v` at `x`, then
`substitute f e` has the values at `x` that `e` has at `v`, whatever `e` is. There are two layers.

- **Tokens.** The tokens of `substitute f e` are those of `e` with the tokens of `(f)` in place of every
  variable, or neither text has tokens (`Cursor.tokens_substitute`). The induction is on the pieces of `e`:
  an `x` is a piece by itself, and the parentheses keep `f` apart from what stands next to it.
- **Steps.** From every state, also one that no accepted text leads to, the machine takes the tokens of `(f)`
  as it takes a variable that stands for `v` (`Machine.steps_substitute`). `Machine.steps_group` says what they
  do on top of any stacks.

That `f` has a value by itself is needed: `1)+(2` has none, yet `(1)+(2)` is an expression, and one whose
operator lies outside of the parentheses.
-/

namespace Reckon

open Text

/-! ## Texts -/

namespace Expr

/-- What stands for a character once `f` stands for the variable. -/
def substituteChar (f : String) (c : Char) : List Char :=
  if c = 'x' then ("(" ++ f ++ ")").toList else [c]

/-- The text `e` with `f`, in parentheses, for every `x`. -/
def substitute (f e : String) : String :=
  String.ofList (e.toList.flatMap (substituteChar f))

theorem substituteChar_x (f : String) : substituteChar f 'x' = '(' :: (f.toList ++ [')']) := by
  simp [substituteChar]

theorem substituteChar_of_ne {f : String} {c : Char} (h : c ≠ 'x') : substituteChar f c = [c] :=
  if_neg h

theorem substituteChar_ne_nil (f : String) (c : Char) : substituteChar f c ≠ [] := by
  by_cases hx : c = 'x'
  · rw [hx, substituteChar_x]
    exact List.cons_ne_nil _ _
  · rw [substituteChar_of_ne hx]
    exact List.cons_ne_nil _ _

theorem flatMap_substituteChar {f : String} {cs : List Char} (h : 'x' ∉ cs) :
    cs.flatMap (substituteChar f) = cs := by
  have hchar (c : Char) (hc : c ∈ cs) : substituteChar f c = [c] := by
    refine substituteChar_of_ne ?_
    rintro rfl
    exact h hc
  rw [List.flatMap_congr hchar, List.flatMap_singleton']

theorem substitute_ne_empty {f e : String} (h : e ≠ "") : substitute f e ≠ "" := by
  intro hs
  obtain ⟨c, cs, hcs⟩ := List.exists_cons_of_ne_nil (mt String.toList_eq_nil_iff.mp h)
  have hnil := congrArg String.toList hs
  rw [substitute, String.toList_ofList, hcs, List.flatMap_cons, String.toList_empty,
    List.append_eq_nil_iff] at hnil
  exact substituteChar_ne_nil f c hnil.1

end Expr

/-- Texts that are apart stay so. -/
theorem Apart.substitute {a b : List Char} (h : Apart a b) (f : String) :
    Apart (a.flatMap (Expr.substituteChar f)) (b.flatMap (Expr.substituteChar f)) := by
  refine h.imp (fun hlast => ?_) fun hstops => ?_
  · induction a using List.reverseRecOn with
    | nil => nofun
    | append_singleton a c _ =>
        intro d hd
        rw [List.flatMap_append, List.flatMap_singleton] at hd
        by_cases hx : c = 'x'
        · rw [hx, Expr.substituteChar_x, ← List.cons_append, ← List.append_assoc,
            List.getLast?_concat] at hd
          cases hd
          decide
        · rw [Expr.substituteChar_of_ne hx] at hd
          refine hlast d ?_
          rwa [List.getLast?_concat] at hd ⊢
  · cases b with
    | nil => exact stops_nil _
    | cons c cs =>
        rw [List.flatMap_cons]
        by_cases hx : c = 'x'
        · rw [hx, Expr.substituteChar_x]
          exact stops_cons.mpr (by decide)
        · rw [Expr.substituteChar_of_ne hx]
          exact stops_cons.mpr (stops_cons.mp hstops)

/-! ## Tokens -/

/-- What stands for a token once the tokens `fs` stand for the variable. -/
def Token.substitute (fs : List Token) : Token → List Token
  | var => opening :: (fs ++ [closing])
  | t => [t]

theorem Token.substitute_of_ne {fs : List Token} {t : Token} (h : t ≠ var) : t.substitute fs = [t] := by
  cases t with
  | var => exact absurd rfl h
  | number v => rfl
  | op o => rfl
  | opening => rfl
  | closing => rfl

variable {f : String} {fs : List Token}

theorem Cursor.tokens_group (h : tokenize f = .ok fs) (p : Nat) :
    tokens ⟨Expr.substituteChar f 'x', p⟩ = .ok (.opening :: (fs ++ [.closing])) := by
  have hf : tokens ⟨f.toList, p + 1⟩ = .ok fs := by
    have hzero : tokens ⟨f.toList, 0⟩ = .ok fs := h
    rw [← Nat.zero_add (p + 1), tokens_add, hzero]
    rfl
  have hclosing : tokens ⟨[')'], p + 1 + f.toList.length⟩ = .ok [.closing] := by
    rw [tokens_single .closing, tokens_nil]
    rfl
  have hapart : Apart f.toList [')'] := .inr (stops_cons.mpr (by decide))
  rw [Expr.substituteChar_x, tokens_single .opening, tokens_append hapart, hf, hclosing]
  rfl

/-- A piece without the variable has the same tokens wherever it lies, and none of them is the variable. -/
theorem Piece.read_of_not_mem {q : Piece} (hx : 'x' ∉ q.chars) (p p' : Nat) :
    Lockstep False (fun ts us => us = ts.flatMap (Token.substitute fs)) (q.read p) (q.read p') := by
  cases q with
  | blanks cs ne all => exact .ok rfl
  | run cs ne all =>
      rw [read, read]
      cases Decimal.ofText? (String.ofList cs) with
      | some v => exact .ok rfl
      | none => exact .error False.elim
  | single c blank number =>
      rw [read, read]
      cases hc : Token.ofChar? c with
      | none => exact .error False.elim
      | some t =>
          have hvar : t ≠ .var := by
            rintro rfl
            cases Token.ofChar?_eq_some.mp hc
            exact hx List.mem_cons_self
          refine .ok ?_
          rw [List.flatMap_singleton, Token.substitute_of_ne hvar]

theorem Piece.tokens_substitute (h : tokenize f = .ok fs) (q : Piece) (p p' : Nat) :
    Lockstep False (fun ts us => us = ts.flatMap (Token.substitute fs))
      (q.read p) (Cursor.tokens ⟨q.chars.flatMap (Expr.substituteChar f), p'⟩) := by
  by_cases hx : 'x' ∈ q.chars
  · cases q with
    | blanks cs ne all => exact absurd (all 'x' hx) (by decide)
    | run cs ne all => exact absurd (all 'x' hx) (by decide)
    | single c blank number =>
        obtain rfl : 'x' = c := List.mem_singleton.mp hx
        rw [chars, List.flatMap_singleton, Cursor.tokens_group h]
        exact .ok (List.append_nil _).symm
  · rw [Expr.flatMap_substituteChar hx, Cursor.tokens_chars]
    exact read_of_not_mem hx p p'

/-- To put a text for the variable is to put its tokens for the variable. -/
theorem Cursor.tokens_substitute (h : tokenize f = .ok fs) (cs : List Char) (p p' : Nat) :
    Lockstep False (fun ts us => us = ts.flatMap (Token.substitute fs))
      (tokens ⟨cs, p⟩) (tokens ⟨cs.flatMap (Expr.substituteChar f), p'⟩) := by
  obtain ⟨ps, hps⟩ := exists_decomposes cs
  induction hps generalizing p p' with
  | nil =>
      rw [List.flatMap_nil, tokens_nil, tokens_nil]
      exact .ok rfl
  | cons q hps hmax ih =>
      have hapart := Piece.apart hmax
      rw [List.flatMap_append, tokens_piece q hapart, tokens_append (hapart.substitute f)]
      refine (q.tokens_substitute h p p').bind fun ts us hus => ?_
      refine (ih _ _).bind fun ts' us' hus' => ?_
      refine .ok ?_
      rw [List.flatMap_append, hus, hus']

/-! ## Steps -/

namespace Machine

variable {x v : Float}

/-- Only the variable has the value of the variable read. -/
theorem step_of_ne {t : Token} (ht : t ≠ .var) (m : Machine) (x v : Float) :
    m.step v t = m.step x t := by
  obtain ⟨s, expects⟩ := m
  cases t with
  | var => exact absurd rfl ht
  | number w => cases expects <;> rfl
  | op o => cases expects <;> rfl
  | opening => cases expects <;> rfl
  | closing => cases expects <;> rfl

theorem step_substitute (h : Expr.evaluateTokens x fs = .ok v) (m : Machine) (t : Token) :
    Lockstep False Eq (m.step v t) (m.steps x (t.substitute fs)) := by
  by_cases ht : t = .var
  · subst ht
    obtain ⟨s, expects⟩ := m
    cases expects with
    | true =>
        rw [Token.substitute, steps_group h]
        exact .ok rfl
    | false => exact .error False.elim
  · rw [Token.substitute_of_ne ht, steps_singleton, step_of_ne ht m x v]
    cases m.step x t with
    | ok m' => exact .ok rfl
    | error e => exact .error False.elim

/-- Where a variable stands for `v`, the tokens of an expression of value `v` may stand instead. -/
theorem steps_substitute (h : Expr.evaluateTokens x fs = .ok v) (m : Machine) (ts : List Token) :
    Lockstep False Eq (m.steps v ts) (m.steps x (ts.flatMap (Token.substitute fs))) := by
  induction ts generalizing m with
  | nil => exact .ok rfl
  | cons t ts ih =>
      rw [steps_cons, List.flatMap_cons, steps_append]
      refine (step_substitute h m t).bind ?_
      rintro m₁ _ rfl
      exact ih m₁

end Machine

namespace Expr

variable {x v : Float}

theorem evaluateTokens_substitute (h : evaluateTokens x fs = .ok v) (ts : List Token) :
    Lockstep False Eq (evaluateTokens v ts) (evaluateTokens x (ts.flatMap (Token.substitute fs))) := by
  refine (Machine.steps_substitute h Machine.start ts).bind ?_
  rintro m _ rfl
  cases m.finish with
  | ok w => exact .ok rfl
  | error e => exact .error False.elim

theorem value_substitute (h : value f x = .ok v) (e : String) :
    Lockstep False Eq (value e v) (value (substitute f e) x) := by
  obtain ⟨fs, hfs, hv⟩ := bind_eq_ok.mp h
  have htokens : Lockstep False (fun ts us => us = ts.flatMap (Token.substitute fs))
      (tokenize e) (tokenize (substitute f e)) := by
    rw [tokenize, tokenize, Cursor.start, Cursor.start, substitute, String.toList_ofList]
    exact Cursor.tokens_substitute (mapError_eq_ok.mp hfs) e.toList 0 0
  rw [value, value]
  generalize tokenize e = a at htokens ⊢
  generalize tokenize (substitute f e) = b at htokens ⊢
  cases htokens with
  | error _ => exact .error False.elim
  | @ok ts us hus =>
      subst hus
      exact evaluateTokens_substitute hv ts

theorem evaluate_substitute_lockstep (h : (evaluate f x).outcome = .ok v) (e : String) :
    Lockstep False Eq (evaluate e v).outcome (evaluate (substitute f e) x).outcome := by
  rw [outcome_evaluate, mapError_eq_ok] at h
  rw [outcome_evaluate, outcome_evaluate]
  exact (value_substitute h e).mapError _ _

theorem ne_empty_of_evaluate (h : (evaluate f x).outcome = .ok v) : f ≠ "" := by
  rintro rfl
  rw [outcome_evaluate, mapError_eq_ok] at h
  obtain ⟨ts, hts, hv⟩ := bind_eq_ok.mp h
  have hnil : tokenize "" = .ok [] := Cursor.tokens_nil 0
  rw [hnil] at hts
  cases hts
  cases hv

end Expr

/-! ## Operations -/

theorem Operation.apply_expression {text : String} (h : text ≠ "") (x : Float) :
    (expression text).apply x = Expr.evaluate text x := by
  have hempty : text.isEmpty = false := by simpa using h
  rw [expression, hempty]
  rfl

/-! ## The headline theorem -/

/-- **A text may be put for the variable.** If `f` has the value `v` at `x`, then `e` with `(f)` for the
variable has the values at `x` that `e` has at `v`: two expressions carried out one after the other are one
expression. Whether the composed text is malformed hangs on `e` alone, at all values of the variable.

The text `e` must not be empty for operations, since no text at all is the identity there. -/
theorem evaluate_substitute {f : String} {x v : Float} (h : (Expr.evaluate f x).outcome = .ok v)
    (e : String) :
    (∀ w, (Expr.evaluate (Expr.substitute f e) x).outcome = .ok w ↔ (Expr.evaluate e v).outcome = .ok w) ∧
    (e ≠ "" → ∀ w,
      ((Operation.expression f).apply x >>= (Operation.expression e).apply).outcome = .ok w ↔
        ((Operation.expression (Expr.substitute f e)).apply x).outcome = .ok w) ∧
    ∀ y z, (∃ err, (Expr.evaluate (Expr.substitute f e) y).outcome = .error err) ↔
      ∃ err, (Expr.evaluate e z).outcome = .error err := by
  have hlock := Expr.evaluate_substitute_lockstep h e
  refine ⟨fun w => (hlock.eq_ok_iff w).symm, fun he w => ?_, fun y z => ?_⟩
  · have hf : ((Operation.expression f).apply x).outcome = .ok v := by
      rw [Operation.apply_expression (Expr.ne_empty_of_evaluate h)]
      exact h
    rw [Attempt.outcome_bind, hf, Operation.apply_expression (Expr.substitute_ne_empty he)]
    show ((Operation.expression e).apply v).outcome = .ok w ↔ _
    rw [Operation.apply_expression he]
    exact hlock.eq_ok_iff w
  · have hcomposed := (Expr.evaluate_lockstep (Expr.substitute f e) y x).exists_error_iff
    have hplain := (Expr.evaluate_lockstep e v z).exists_error_iff
    exact hcomposed.trans (hlock.exists_error_iff.symm.trans hplain)

/-- `x-1` for the variable of `2*x`: without the parentheses it would be another value. -/
theorem evaluate_substitute_difference :
    Expr.substitute "x-1" "2*x" = "2*(x-1)" ∧
    (Expr.evaluate "x-1" 5).outcome = .ok (BinOp.subtract.apply 5 1) ∧
    ∀ w, (Expr.evaluate "2*(x-1)" 5).outcome = .ok w ↔
      (Expr.evaluate "2*x" (BinOp.subtract.apply 5 1)).outcome = .ok w := by
  have hs : Expr.substitute "x-1" "2*x" = "2*(x-1)" := by decide +kernel
  have h : (Expr.evaluate "x-1" 5).outcome = .ok (BinOp.subtract.apply 5 1) := by
    rw [Expr.outcome_evaluate]
    decide +kernel
  refine ⟨hs, h, ?_⟩
  have hcomposed := (evaluate_substitute h "2*x").1
  rwa [hs] at hcomposed

end Reckon
