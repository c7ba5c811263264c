import Reckon.Decimal.Layout

/-!
# What numbers are written with

The shortest digits of a double are digits, wherever they are found (`exists_ofScaled`). A layout puts zeros, a point,
signs and an exponent mark around them, and behind a whole number what it says itself; nothing else occurs in the text
of a number (`Layout.mem_ofFinite`).
-/

namespace Reckon.Decimal

variable {c : Char}

theorem isDigit_of_mem_ofScaled {n : Nat} {e : Int} (h : c ∈ (Digits.ofScaled n e).digits) : c.isDigit = true := by
  have hmem : c ∈ (Nat.toDigits 10 n).reverse.dropWhile (· == '0') := List.mem_reverse.mp h
  have hdigits := List.mem_reverse.mp ((List.dropWhile_sublist _).mem hmem)
  exact Nat.isDigit_of_mem_toDigits (by decide) (by decide) hdigits

/-- The digits come from a grid, or from the whole expansion. -/
theorem exists_ofScaled (tie : Tie) (b : Nat) : ∃ n e, shortest tie b = .ofScaled n e := by
  rw [shortest]
  cases hfound : (List.range 17).findSome? fun (n : Nat) =>
      onGrid? tie b ((Fraction.ofMagnitude b).log10 - n) with
  | none => exact ⟨_, _, rfl⟩
  | some d =>
      obtain ⟨k, -, hgrid⟩ := List.exists_of_findSome?_eq_some hfound
      obtain ⟨n, -, rfl⟩ := Option.map_eq_some_iff.mp hgrid
      exact ⟨n, _, rfl⟩

theorem isDigit_of_mem_shortest {tie : Tie} {b : Nat} (h : c ∈ (shortest tie b).digits) : c.isDigit = true := by
  obtain ⟨n, e, hshortest⟩ := exists_ofScaled tie b
  rw [hshortest] at h
  exact isDigit_of_mem_ofScaled h

namespace Layout

variable {l : Layout} {d : Digits}

theorem mem_positional (hd : ∀ c ∈ d.digits, c.isDigit = true) (h : c ∈ l.positional d) :
    c.isDigit = true ∨ c = '.' ∨ c ∈ l.wholeEnd := by
  have hzero : Char.isDigit '0' = true := by decide
  unfold positional at h
  split at h
  · simp only [List.mem_append, List.mem_cons, List.not_mem_nil, or_false, List.mem_replicate] at h
    rcases h with ((rfl | rfl) | ⟨-, rfl⟩) | hmem
    · exact .inl hzero
    · exact .inr (.inl rfl)
    · exact .inl hzero
    · exact .inl (hd c hmem)
  · dsimp only at h
    split at h
    · simp only [List.mem_append, List.mem_replicate] at h
      rcases h with (hmem | ⟨-, rfl⟩) | hend
      · exact .inl (hd c hmem)
      · exact .inl hzero
      · exact .inr (.inr hend)
    · simp only [List.mem_append, List.mem_cons] at h
      rcases h with hmem | rfl | hmem
      · exact .inl (hd c (List.mem_of_mem_take hmem))
      · exact .inr (.inl rfl)
      · exact .inl (hd c (List.mem_of_mem_drop hmem))

theorem mem_scientific (hd : ∀ c ∈ d.digits, c.isDigit = true) (h : c ∈ scientific d) :
    c.isDigit = true ∨ c ∈ ['.', 'e', '+', '-'] := by
  simp only [scientific, List.mem_append] at h
  rcases h with (((hmem | hpoint) | hmem) | hmark) | hexponent
  · exact .inl (hd c (List.mem_of_mem_take hmem))
  · split at hpoint
    · obtain rfl := List.mem_singleton.mp hpoint
      exact .inr (by decide)
    · cases hpoint
  · exact .inl (hd c (List.mem_of_mem_drop hmem))
  · right
    have hmark : c = 'e' ∨ c = if d.exponent < 0 then '-' else '+' := by simpa using hmark
    rcases hmark with rfl | rfl
    · decide
    · split <;> decide
  · exact .inl (Nat.isDigit_of_mem_toDigits (by decide) (by decide) hexponent)

theorem mem_ofFinite {x : Float} (h : c ∈ l.ofFinite x) :
    c.isDigit = true ∨ c ∈ ['.', 'e', '+', '-'] ∨ c ∈ l.wholeEnd := by
  have hd : ∀ c ∈ (shortest l.tie (magnitude x)).digits, c.isDigit = true := fun c => isDigit_of_mem_shortest
  rcases List.mem_append.mp h with hsign | hmagnitude
  · split at hsign
    · obtain rfl := List.mem_singleton.mp hsign
      exact .inr (.inl (by decide))
    · cases hsign
  · unfold ofMagnitude at hmagnitude
    split at hmagnitude
    · rcases List.mem_cons.mp hmagnitude with rfl | hend
      · exact .inl (by decide)
      · exact .inr (.inr hend)
    · dsimp only at hmagnitude
      split at hmagnitude
      · rcases mem_positional hd hmagnitude with hdigit | rfl | hend
        · exact .inl hdigit
        · exact .inr (.inl (by decide))
        · exact .inr (.inr hend)
      · rcases mem_scientific hd hmagnitude with hdigit | hmark
        · exact .inl hdigit
        · exact .inr (.inl hmark)

end Layout

end Reckon.Decimal
