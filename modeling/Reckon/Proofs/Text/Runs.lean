import Mathlib.Data.List.TakeWhile
import Reckon.Text.Blank

/-!
# Runs of a class

A reader of texts takes the characters of a class as long as they come. `Stops p cs` says that nothing of
the class comes first, so that a run before `cs` is over; then `takeWhile_append` and `dropWhile_append` cut
a text between the run and what follows it.
-/

namespace Reckon.Text

variable {p : Char → Bool} {run rest : List Char}

/-- No character of the class comes first. -/
def Stops (p : Char → Bool) (cs : List Char) : Prop :=
  ∀ c ∈ cs.head?, p c = false

theorem stops_nil (p : Char → Bool) : Stops p [] := fun _ h => nomatch h

@[simp] theorem stops_cons {c : Char} : Stops p (c :: rest) ↔ p c = false := by
  simp [Stops]

theorem stops_dropWhile (p : Char → Bool) (cs : List Char) : Stops p (cs.dropWhile p) := by
  intro c hc
  have hhead := List.head?_dropWhile_not p cs
  rw [Option.mem_def.mp hc] at hhead
  exact hhead

theorem takeWhile_of_stops (h : Stops p rest) : rest.takeWhile p = [] := by
  cases rest with
  | nil => rfl
  | cons c rest => exact List.takeWhile_cons_of_neg (Bool.not_eq_true _ ▸ stops_cons.mp h)

theorem dropWhile_of_stops (h : Stops p rest) : rest.dropWhile p = rest := by
  cases rest with
  | nil => rfl
  | cons c rest => exact List.dropWhile_cons_of_neg (Bool.not_eq_true _ ▸ stops_cons.mp h)

theorem takeWhile_append (hrun : ∀ c ∈ run, p c = true) (hrest : Stops p rest) :
    (run ++ rest).takeWhile p = run := by
  rw [List.takeWhile_append_of_pos hrun, takeWhile_of_stops hrest, List.append_nil]

theorem dropWhile_append (hrun : ∀ c ∈ run, p c = true) (hrest : Stops p rest) :
    (run ++ rest).dropWhile p = rest := by
  rw [List.dropWhile_append_of_pos hrun, dropWhile_of_stops hrest]

/-- A run is over before blanks, if no blank is of the class. -/
theorem stops_blanks_append {bs : List Char} (hp : ∀ {c}, p c = true → isBlank c = false)
    (hbs : ∀ c ∈ bs, isBlank c = true) (hrest : bs = [] → Stops p rest) : Stops p (bs ++ rest) := by
  cases bs with
  | nil => exact hrest rfl
  | cons b bs => exact stops_cons.mpr (eq_false_of_isBlank hp (hbs b List.mem_cons_self))

theorem stops_of_blanks {bs : List Char} (hp : ∀ {c}, p c = true → isBlank c = false)
    (hbs : ∀ c ∈ bs, isBlank c = true) : Stops p bs :=
  List.append_nil bs ▸ stops_blanks_append hp hbs fun _ => stops_nil p

/-! A run that may go on to the end of `cs` is over there if nothing of the class follows. -/

theorem takeWhile_append_of_stops (cs : List Char) (hrest : Stops p rest) :
    (cs ++ rest).takeWhile p = cs.takeWhile p := by
  induction cs with
  | nil => exact takeWhile_of_stops hrest
  | cons c cs ih => rw [List.cons_append, List.takeWhile_cons, List.takeWhile_cons, ih]

theorem dropWhile_append_of_stops (cs : List Char) (hrest : Stops p rest) :
    (cs ++ rest).dropWhile p = cs.dropWhile p ++ rest := by
  induction cs with
  | nil => exact dropWhile_of_stops hrest
  | cons c cs ih =>
      rw [List.cons_append, List.dropWhile_cons, List.dropWhile_cons, ih]
      split <;> rfl

end Reckon.Text
