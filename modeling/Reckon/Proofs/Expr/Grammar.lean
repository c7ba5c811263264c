import Reckon.Proofs.Expr.Tokens

/-!
# The grammar of expressions

What an expression is, apart from any machine that reads one: a derivation in the grammar

    E → T | E + T | E - T
    T → F | T * F | T / F
    F → A | F ^ A
    A → number | x | ( E )

`Derivation` is the type of its derivation trees, with one row of the table above for each `Nonterminal`.
`Derivation.yield` reads the tokens off a tree and `Derivation.value` computes with it.

The grammar is unambiguous (`Derivation.yield_injective`). The tokens of a tree are balanced, so a token of
them lies inside parentheses or outside of all; and an operator outside of all parentheses binds at least
as strongly as the nonterminal of the tree says (`Derivation.level_le_precedence`). The operator at the root
of a tree is therefore the last one outside of all parentheses that binds as weakly as it does.
-/

namespace Reckon

/-! ## Nonterminals -/

/-- Sums, products, powers and what these are made of. -/
inductive Nonterminal where
  | expression | term | factor | atom
deriving DecidableEq, Repr

namespace Nonterminal

/-- What the right operand of an operator of a nonterminal is. An atom has no operators. -/
def operand? : Nonterminal → Option Nonterminal
  | expression => some term
  | term => some factor
  | factor => some atom
  | atom => none

def operators : Nonterminal → List BinOp
  | expression => [.add, .subtract]
  | term => [.multiply, .divide]
  | factor => [.power]
  | atom => []

/-- The weakest operator outside of all parentheses binds as strongly as this, or more strongly. -/
def level : Nonterminal → Nat
  | expression => 1
  | term => 2
  | factor => 3
  | atom => 4

variable {n m : Nonterminal} {o : BinOp}

theorem precedence_of_mem (h : o ∈ n.operators) : o.precedence = n.level := by
  revert o
  cases n <;> decide

theorem level_of_operand (h : n.operand? = some m) : m.level = n.level + 1 := by
  cases n <;> cases h <;> rfl

theorem level_injective (h : n.level = m.level) : n = m := by
  revert h
  cases n <;> cases m <;> decide

theorem level_le_four (n : Nonterminal) : n.level ≤ 4 := by
  cases n <;> decide

/-- Only atoms are not made with operators. -/
theorem exists_operand (h : n ≠ atom) : ∃ m, n.operand? = some m := by
  cases n with
  | expression => exact ⟨term, rfl⟩
  | term => exact ⟨factor, rfl⟩
  | factor => exact ⟨atom, rfl⟩
  | atom => exact absurd rfl h

theorem operand_of_mem (h : o ∈ n.operators) : ∃ m, n.operand? = some m := by
  apply exists_operand
  rintro rfl
  cases h

/-- Every operator belongs to a nonterminal. -/
theorem exists_mem_operators (o : BinOp) :
    ∃ n m : Nonterminal, n.operand? = some m ∧ o ∈ n.operators := by
  cases o with
  | add => exact ⟨expression, term, rfl, by decide⟩
  | subtract => exact ⟨expression, term, rfl, by decide⟩
  | multiply => exact ⟨term, factor, rfl, by decide⟩
  | divide => exact ⟨term, factor, rfl, by decide⟩
  | power => exact ⟨factor, atom, rfl, by decide⟩

end Nonterminal

/-! ## Derivations -/

/-- The derivation trees of a nonterminal. For the nonterminals with operators there are two productions:
the operand alone, and an operator between a tree of the same nonterminal and an operand. -/
inductive Derivation : Nonterminal → Type where
  | operand {n m : Nonterminal} (hm : n.operand? = some m) (d : Derivation m) : Derivation n
  | operation {n m : Nonterminal} (hm : n.operand? = some m) (left : Derivation n) (o : BinOp)
      (ho : o ∈ n.operators) (right : Derivation m) : Derivation n
  | number (v : Float) : Derivation .atom
  | var : Derivation .atom
  | group (d : Derivation .expression) : Derivation .atom

namespace Derivation

/-- The tokens that are derived, from left to right. -/
def yield {n : Nonterminal} : Derivation n → List Token
  | operand _ d => d.yield
  | operation _ left o _ right => left.yield ++ .op o :: right.yield
  | number v => [.number v]
  | var => [.var]
  | group d => .opening :: (d.yield ++ [.closing])

/-- The value of a tree with the variable standing for `x`. -/
def value (x : Float) {n : Nonterminal} : Derivation n → Float
  | operand _ d => d.value x
  | operation _ left o _ right => o.apply (left.value x) (right.value x)
  | number v => v
  | var => x
  | group d => d.value x

/-- What binds strongly enough for one nonterminal also serves as one that asks for less. -/
theorem exists_yield_eq {n m : Nonterminal} (d : Derivation n) (h : m.level ≤ n.level) :
    ∃ d' : Derivation m, d'.yield = d.yield := by
  rcases Nat.lt_or_eq_of_le h with hlt | heq
  · have hne : m ≠ .atom := by
      rintro rfl
      exact absurd n.level_le_four (Nat.not_le.mpr hlt)
    obtain ⟨m', hm'⟩ := Nonterminal.exists_operand hne
    have hlevel := Nonterminal.level_of_operand hm'
    obtain ⟨d', hd'⟩ : ∃ d' : Derivation m', d'.yield = d.yield := exists_yield_eq d (by omega)
    exact ⟨.operand hm' d', hd'⟩
  · obtain rfl := Nonterminal.level_injective heq
    exact ⟨d, rfl⟩
termination_by n.level - m.level

/-! ## Operators outside of all parentheses -/

variable {n m : Nonterminal}

theorem balanced_yield (d : Derivation n) : Token.Balanced d.yield := by
  induction d with
  | operand _ _ ih => exact ih
  | operation _ _ o _ _ ihl ihr => exact ihl.append ((Token.balanced_singleton (Token.depth_op o)).append ihr)
  | number v => exact Token.balanced_singleton (Token.depth_number v)
  | var => exact Token.balanced_singleton Token.depth_var
  | group _ ih => exact ih.enclosed

theorem level_le_precedence (d : Derivation n) {us vs : List Token} {o : BinOp}
    (h : d.yield = us ++ .op o :: vs) (hus : Token.depth us = 0) : n.level ≤ o.precedence := by
  induction d generalizing us vs with
  | @operand n m hm d ih =>
      have hlevel := Nonterminal.level_of_operand hm
      have := ih h hus
      omega
  | @operation n m hm left o' ho right ihl ihr =>
      have hlevel := Nonterminal.level_of_operand hm
      rcases Token.cut_cases h with ⟨as, hl, -⟩ | ⟨-, ho', -⟩ | ⟨as, rfl, hr⟩
      · exact ihl hl hus
      · cases ho'
        exact Nat.le_of_eq (Nonterminal.precedence_of_mem ho).symm
      · have := ihr hr (by simpa [left.balanced_yield.depth_eq] using hus)
        omega
  | number v =>
      rcases List.singleton_eq_append_iff.mp h with ⟨-, h⟩ | ⟨-, h⟩ <;> cases h
  | var =>
      rcases List.singleton_eq_append_iff.mp h with ⟨-, h⟩ | ⟨-, h⟩ <;> cases h
  | group d ih =>
      -- between the outer parentheses the depth is 1 or more
      cases us with
      | nil => cases h
      | cons u us =>
          obtain ⟨rfl, hin⟩ := List.cons.inj h
          rcases Token.cut_cases hin with ⟨as, hd, -⟩ | ⟨-, ho, -⟩ | ⟨as, -, hnil⟩
          · have hnonneg := d.balanced_yield.prefix_nonneg ⟨_, hd.symm⟩
            rw [Token.depth_cons, Token.depth_opening] at hus
            omega
          · cases ho
          · simp at hnil

/-- An operand has no operator of its nonterminal outside of all parentheses. -/
theorem not_mem_operators {d : Derivation m} {us vs : List Token} {o : BinOp}
    (hm : n.operand? = some m) (h : d.yield = us ++ .op o :: vs) (hus : Token.depth us = 0) :
    o ∉ n.operators := by
  intro ho
  have hle := d.level_le_precedence h hus
  rw [Nonterminal.level_of_operand hm, Nonterminal.precedence_of_mem ho] at hle
  omega

/-! ## The headline theorem -/

/-- **The grammar is unambiguous.** Tokens have at most one derivation. -/
theorem yield_injective {d d' : Derivation n} (h : d.yield = d'.yield) : d = d' := by
  induction d with
  | @operand n m hm d ih =>
      cases d' with
      | operand hm' d' =>
          cases hm.symm.trans hm'
          rw [ih h]
      | operation hm' left o ho right =>
          exact absurd ho (not_mem_operators hm h left.balanced_yield.depth_eq)
      | number v => cases hm
      | var => cases hm
      | group d' => cases hm
  | @operation n m hm left o ho right ihl ihr =>
      cases d' with
      | operand hm' d' =>
          exact absurd ho (not_mem_operators hm' h.symm left.balanced_yield.depth_eq)
      | operation hm' left' o' ho' right' =>
          cases hm.symm.trans hm'
          have hleft := left.balanced_yield.depth_eq
          have hleft' := left'.balanced_yield.depth_eq
          -- were the roots at two places, the later one would lie in the right operand of the other
          rcases Token.cut_cases h with ⟨as, hl, hr'⟩ | ⟨hl, heq, hr⟩ | ⟨as, hl', hr⟩
          · refine absurd ho (not_mem_operators hm hr' ?_)
            simpa [hl, hleft'] using hleft
          · cases heq
            rw [ihl hl, ihr hr]
          · refine absurd ho' (not_mem_operators hm hr ?_)
            simpa [hl', hleft] using hleft'
      | number v => cases hm
      | var => cases hm
      | group d' => cases hm
  | number v =>
      cases d' with
      | operand hm' d' => cases hm'
      | operation hm' left' o' ho' right' => cases hm'
      | number v' =>
          cases h
          rfl
      | var => cases h
      | group d' => cases h
  | var =>
      cases d' with
      | operand hm' d' => cases hm'
      | operation hm' left' o' ho' right' => cases hm'
      | number v' => cases h
      | var => rfl
      | group d' => cases h
  | group d ih =>
      cases d' with
      | operand hm' d' => cases hm'
      | operation hm' left' o' ho' right' => cases hm'
      | number v' => cases h
      | var => cases h
      | group d' =>
          have hin := List.append_cancel_right (List.cons.inj h).2
          rw [ih hin]

end Derivation

end Reckon
