import Reckon.Expr.Token

/-!
# Tokens in a row

What can be said of a row of tokens without evaluating it: which tokens begin an operand and which ask for
one, how many parentheses are open at the end of a row (`depth`), and what is left of a token when the value
of its number is forgotten (`kind`).
-/

namespace Reckon

namespace Token

/-- Numbers, the variable and opening parentheses begin an operand. -/
def startsOperand : Token → Bool
  | number _ | var | opening => true
  | op _ | closing => false

/-- After an operator and after an opening parenthesis an operand has to come. -/
def wantsOperand : Token → Bool
  | op _ | opening => true
  | number _ | var | closing => false

/-- A token without the value of its number. -/
def kind : Token → Option Token
  | number _ => none
  | t => some t

/-- How many parentheses more are opened than closed. -/
def depth (ts : List Token) : Int :=
  ts.count opening - ts.count closing

@[simp] theorem depth_nil : depth [] = 0 := rfl

@[simp] theorem depth_append (ts us : List Token) : depth (ts ++ us) = depth ts + depth us := by
  simp only [depth, List.count_append]
  omega

@[simp] theorem depth_opening : depth [opening] = 1 := rfl

@[simp] theorem depth_closing : depth [closing] = -1 := rfl

@[simp] theorem depth_number (v : Float) : depth [number v] = 0 := rfl

@[simp] theorem depth_var : depth [var] = 0 := rfl

@[simp] theorem depth_op (o : BinOp) : depth [op o] = 0 := rfl

theorem depth_cons (t : Token) (ts : List Token) : depth (t :: ts) = depth [t] + depth ts :=
  depth_append [t] ts

@[simp] theorem depth_op_cons (o : BinOp) (ts : List Token) : depth (op o :: ts) = depth ts := by
  rw [depth_cons, depth_op, Int.zero_add]

/-! ## Balanced rows -/

/-- As many parentheses are closed as opened, and none before it is opened. -/
structure Balanced (ts : List Token) : Prop where
  depth_eq : depth ts = 0
  prefix_nonneg {us : List Token} (h : us <+: ts) : 0 ≤ depth us

theorem balanced_singleton {t : Token} (h : depth [t] = 0) : Balanced [t] where
  depth_eq := h
  prefix_nonneg hus := by
    rcases List.prefix_cons_iff.mp hus with rfl | ⟨vs, rfl, hvs⟩
    · exact Int.le_refl _
    · obtain rfl := List.prefix_nil.mp hvs
      exact Int.le_of_eq h.symm

theorem Balanced.append {ts us : List Token} (ht : Balanced ts) (hu : Balanced us) :
    Balanced (ts ++ us) where
  depth_eq := by rw [depth_append, ht.depth_eq, hu.depth_eq]; rfl
  prefix_nonneg hvs := by
    rcases List.prefix_or_prefix_of_prefix hvs (List.prefix_append ts us) with hvs' | ⟨vs, rfl⟩
    · exact ht.prefix_nonneg hvs'
    · have := hu.prefix_nonneg ((List.prefix_append_right_inj ts).mp hvs)
      rw [depth_append, ht.depth_eq]
      omega

theorem Balanced.enclosed {ts : List Token} (h : Balanced ts) :
    Balanced (opening :: (ts ++ [closing])) where
  depth_eq := by rw [depth_cons, depth_append, h.depth_eq]; rfl
  prefix_nonneg hus := by
    rcases List.prefix_cons_iff.mp hus with rfl | ⟨vs, rfl, hvs⟩
    · exact Int.le_refl _
    · rw [depth_cons, depth_opening]
      rcases List.prefix_concat_iff.mp hvs with rfl | hvs'
      · rw [depth_append, h.depth_eq, depth_closing]
        decide
      · have := h.prefix_nonneg hvs'
        omega

/-! ## Cutting a row in two ways -/

/-- A row is cut at one token and at another: the second lies before the first, is the first, or lies
behind it. -/
theorem cut_cases {ls rs us vs : List Token} {t u : Token} (h : ls ++ t :: rs = us ++ u :: vs) :
    (∃ as, ls = us ++ u :: as ∧ vs = as ++ t :: rs) ∨ (ls = us ∧ t = u ∧ rs = vs) ∨
      ∃ as, us = ls ++ t :: as ∧ rs = as ++ u :: vs := by
  rcases List.append_eq_append_iff.mp h with ⟨as, hus, htu⟩ | ⟨as, hls, hut⟩
  · cases as with
    | nil =>
        obtain ⟨rfl, rfl⟩ := List.cons.inj htu
        exact .inr (.inl ⟨by rw [hus, List.append_nil], rfl, rfl⟩)
    | cons a as =>
        obtain ⟨rfl, rfl⟩ := List.cons.inj htu
        exact .inr (.inr ⟨as, hus, rfl⟩)
  · cases as with
    | nil =>
        obtain ⟨rfl, rfl⟩ := List.cons.inj hut
        exact .inr (.inl ⟨by rw [hls, List.append_nil], rfl, rfl⟩)
    | cons a as =>
        obtain ⟨rfl, rfl⟩ := List.cons.inj hut
        exact .inl ⟨as, hls, rfl⟩

end Token

end Reckon
