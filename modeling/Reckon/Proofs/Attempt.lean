import Reckon.Log

/-!
# What becomes of an attempt

Steps on plain `Except` are taken apart by `bind_eq_ok` where they succeed. `FailsWith` says which fault they
fail with, if any; of several steps in a row the first fault counts (`FailsWith.bind`).

The outcome of an attempt does not hang on its records: it is computed by the same steps on plain `Except`.
-/

namespace Reckon

theorem bind_eq_ok {ε α β : Type} {a : Except ε α} {f : α → Except ε β} {b : β} :
    (a >>= f) = .ok b ↔ ∃ v, a = .ok v ∧ f v = .ok b := by
  cases a with
  | error e =>
      constructor
      · intro h; cases h
      · rintro ⟨v, h, -⟩; cases h
  | ok v =>
      constructor
      · intro h; exact ⟨v, rfl, h⟩
      · rintro ⟨v', h, hf⟩; cases h; exact hf

theorem ok_bind {ε α β : Type} (v : α) (f : α → Except ε β) : (Except.ok v >>= f) = f v := rfl

theorem mapError_eq_ok {ε ε' α : Type} {f : ε → ε'} {a : Except ε α} {v : α} :
    a.mapError f = .ok v ↔ a = .ok v := by
  cases a with
  | error e =>
      constructor
      · intro h; cases h
      · intro h; cases h
  | ok w =>
      constructor
      · intro h; cases h; rfl
      · intro h; cases h; rfl

theorem map_eq_ok {ε α β : Type} {f : α → β} {a : Except ε α} {b : β} :
    a.map f = .ok b ↔ ∃ v, a = .ok v ∧ f v = b := by
  cases a with
  | error e => simp [Except.map]
  | ok v => simp [Except.map]

theorem map_eq_error {ε α β : Type} {f : α → β} {a : Except ε α} {e : ε} : a.map f = .error e ↔ a = .error e := by
  cases a with
  | error e' => simp [Except.map]
  | ok v => simp [Except.map]

theorem map_mapError {ε ε' α β : Type} (f : ε → ε') (g : α → β) (a : Except ε α) :
    (a.mapError f).map g = (a.map g).mapError f := by
  cases a with
  | error e => rfl
  | ok v => rfl

theorem mapError_bind {ε ε' α β : Type} (f : ε → ε') (a : Except ε α) (g : α → Except ε β) :
    (a >>= g).mapError f = a.mapError f >>= fun v => (g v).mapError f := by
  cases a with
  | error e => rfl
  | ok v => rfl

/-! ## Which fault it is -/

/-- An attempt that fails with exactly this fault, or else succeeds. -/
inductive FailsWith {ε α : Type} : Option ε → Except ε α → Prop
  | error (e : ε) : FailsWith (some e) (.error e)
  | ok (v : α) : FailsWith none (.ok v)

namespace FailsWith

variable {ε ε' α β : Type} {o o' : Option ε} {e : ε} {a : Except ε α} {v : α}

theorem eq_some (h : FailsWith o a) (ha : a = .error e) : o = some e := by
  cases h with
  | error e => cases ha; rfl
  | ok v => cases ha

theorem eq_none (h : FailsWith o a) (ha : a = .ok v) : o = none := by
  cases h with
  | error e => cases ha
  | ok v => rfl

theorem exists_ok (h : FailsWith none a) : ∃ v, a = .ok v := by
  cases h with
  | ok v => exact ⟨v, rfl⟩

theorem eq_error_iff (h : FailsWith o a) : a = .error e ↔ o = some e := by
  refine ⟨h.eq_some, fun ho => ?_⟩
  subst ho
  cases h with
  | error e => rfl

theorem mapError (h : FailsWith o a) (f : ε → ε') : FailsWith (o.map f) (a.mapError f) := by
  cases h with
  | error e => exact .error (f e)
  | ok v => exact .ok v

/-- Of two attempts in a row the first fault counts. -/
theorem bind {f : α → Except ε β} (h : FailsWith o a) (hf : ∀ v, a = .ok v → FailsWith o' (f v)) :
    FailsWith (o.or o') (a >>= f) := by
  cases h with
  | error e => exact .error e
  | ok v => exact hf v rfl

end FailsWith

/-! ## Attempts with records -/

namespace Attempt

variable {ε ε' α β : Type}

@[simp] theorem outcome_pure (a : α) : (pure a : Attempt ε α).outcome = .ok a := rfl

@[simp] theorem outcome_bind (a : Attempt ε α) (f : α → Attempt ε β) :
    (a >>= f).outcome = a.outcome >>= fun v => (f v).outcome :=
  match a with
  | ⟨.ok _, _⟩ => rfl
  | ⟨.error _, _⟩ => rfl

theorem outcome_write_bind (r : Record) (a : Attempt ε α) : (write r >>= fun _ => a).outcome = a.outcome := rfl

@[simp] theorem outcome_map (f : α → β) (a : Attempt ε α) : (f <$> a).outcome = a.outcome.map f :=
  match a with
  | ⟨.ok _, _⟩ => rfl
  | ⟨.error _, _⟩ => rfl

/-- What follows an attempt is asked for the results that the attempt can have. -/
theorem bind_congr {a : Attempt ε α} {f g : α → Attempt ε β} (h : ∀ v, a.outcome = .ok v → f v = g v) :
    a >>= f = a >>= g :=
  match a, h with
  | ⟨.ok v, log⟩, h => congrArg (fun b : Attempt ε β => (⟨b.outcome, log ++ b.log⟩ : Logged (Except ε β))) (h v rfl)
  | ⟨.error _, _⟩, _ => rfl

@[simp] theorem outcome_mapError (f : ε → ε') (a : Attempt ε α) :
    (a.mapError f).outcome = a.outcome.mapError f := rfl

end Attempt

end Reckon
