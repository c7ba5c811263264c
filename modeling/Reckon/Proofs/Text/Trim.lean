import Mathlib.Data.List.DropRight
import Reckon.Proofs.Text.Runs
import Reckon.Text.Blank

/-!
# Trimmed texts

Trimming leaves a text alone that has no blank at either end, and leaves nothing of a text of blanks only. What it
takes off a text are blanks (`exists_eq_trimmed`), and blanks around a text do not change what is left of it
(`trimmed_surround`).
-/

namespace Reckon.Text

variable {us ws : List Char}

theorem trim_of_stops {cs : List Char} (h : Stops isBlank cs) (hreverse : Stops isBlank cs.reverse) :
    trim cs = cs := by
  rw [trim, dropWhile_of_stops h, trimEnd, dropWhile_of_stops hreverse, List.reverse_reverse]

theorem trim_eq_nil {cs : List Char} : trim cs = [] ↔ ∀ c ∈ cs, isBlank c = true := by
  rw [trim, trimEnd, List.reverse_eq_nil_iff, List.dropWhile_eq_nil_iff]
  simp only [List.mem_reverse]
  constructor
  · intro h
    -- what follows the first blanks does not begin with one, so it is empty
    rw [← List.dropWhile_eq_nil_iff]
    cases hrest : cs.dropWhile isBlank with
    | nil => rfl
    | cons c rest =>
        have hc := h c (hrest ▸ List.mem_cons_self)
        have hstops := stops_dropWhile isBlank cs
        rw [hrest, stops_cons, hc] at hstops
        cases hstops
  · intro h c hc
    exact h c ((List.dropWhile_sublist _).mem hc)

theorem trimEnd_append_blanks (cs : List Char) (hws : ∀ c ∈ ws, isBlank c = true) :
    trimEnd (cs ++ ws) = trimEnd cs := by
  have hreverse : ∀ c ∈ ws.reverse, isBlank c = true := fun c hc => hws c (List.mem_reverse.mp hc)
  rw [trimEnd, List.reverse_append, List.dropWhile_append_of_pos hreverse, trimEnd]

theorem trim_surround (cs : List Char) (hus : ∀ c ∈ us, isBlank c = true) (hws : ∀ c ∈ ws, isBlank c = true) :
    trim (us ++ cs ++ ws) = trim cs := by
  rw [List.append_assoc, trim, List.dropWhile_append_of_pos hus, List.dropWhile_append, trim]
  split
  next hempty =>
    -- the text itself is blank, so that the blanks behind it go with those before it
    rw [List.dropWhile_eq_nil_iff.mpr hws, List.isEmpty_iff.mp hempty]
  next => exact trimEnd_append_blanks _ hws

theorem exists_eq_trimEnd (cs : List Char) : ∃ ws, cs = trimEnd cs ++ ws ∧ ∀ c ∈ ws, isBlank c = true :=
  ⟨cs.rtakeWhile isBlank, List.rdropWhile_append_rtakeWhile.symm, fun _ hc => List.mem_rtakeWhile_imp hc⟩

theorem exists_eq_trim (cs : List Char) :
    ∃ us ws, cs = us ++ trim cs ++ ws ∧ (∀ c ∈ us, isBlank c = true) ∧ ∀ c ∈ ws, isBlank c = true := by
  obtain ⟨ws, hcut, hws⟩ := exists_eq_trimEnd (cs.dropWhile isBlank)
  refine ⟨cs.takeWhile isBlank, ws, ?_, fun c hc => List.mem_takeWhile_imp hc, hws⟩
  rw [List.append_assoc, trim, ← hcut, List.takeWhile_append_dropWhile]

/-! ## Strings -/

variable {u w : String}

theorem trimmed_surround (s : String) (hu : ∀ c ∈ u.toList, isBlank c = true)
    (hw : ∀ c ∈ w.toList, isBlank c = true) : trimmed (u ++ s ++ w) = trimmed s := by
  rw [trimmed, String.toList_append, String.toList_append, trim_surround s.toList hu hw, trimmed]

theorem exists_eq_trimmed (s : String) :
    ∃ u w, s = u ++ trimmed s ++ w ∧ (∀ c ∈ u.toList, isBlank c = true) ∧ ∀ c ∈ w.toList, isBlank c = true := by
  obtain ⟨us, ws, hcut, hus, hws⟩ := exists_eq_trim s.toList
  refine ⟨String.ofList us, String.ofList ws, ?_, by rwa [String.toList_ofList], by rwa [String.toList_ofList]⟩
  rw [trimmed, ← String.ofList_append, ← String.ofList_append, ← hcut, String.ofList_toList]

theorem isEmpty_trimmed {s : String} : (trimmed s).isEmpty = true ↔ ∀ c ∈ s.toList, isBlank c = true := by
  rw [String.isEmpty_iff, trimmed, ← trim_eq_nil, ← String.toList_eq_nil_iff, String.toList_ofList]

end Reckon.Text
