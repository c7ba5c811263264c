import Mathlib.Logic.Relation
import Reckon.Proofs.Expr.Lockstep
import Reckon.Proofs.Expr.Pieces

/-!
# Texts behind each other, and blanks between them

Two texts with no run of digits and points across the seam are read behind each other as each is read alone
(`tokenize_append_apart`): first the tokens of the one and then those of the other, up to the first error, and an
error in the second text lies as many characters further on as the first one is long.

A run of blanks has no tokens, and nothing goes on across it. So it may be put into a text wherever it parts no run
of digits and points, and taken out wherever it keeps none apart (`InsertsBlanks`). What changes is where an error
lies, and no more. `Respaced` relates the texts that any number of such edits lead between; the value of an expression
is the same on all of them.
-/

namespace Reckon

open Text

/-! ## Blanks between two texts -/

theorem Apart.blanks_append {a b w : List Char} (h : Apart a b) (hw : ∀ c ∈ w, isBlank c = true) :
    Apart a (w ++ b) :=
  Or.imp_right (fun hb => stops_blanks_append not_isBlank_of_isNumberChar hw fun _ => hb) h

theorem Cursor.tokens_blanks_between {a b w : List Char} (h : Apart a b) (hw : ∀ c ∈ w, isBlank c = true)
    (p : Nat) :
    tokens ⟨a ++ (w ++ b), p⟩ = do
      let ts ← tokens ⟨a, p⟩
      let us ← (tokens ⟨b, p + a.length⟩).mapError (·.shift w.length)
      return ts ++ us := by
  rw [tokens_append (h.blanks_append hw), tokens_blanks hw, tokens_add b]

/-- The second text is the first one with a run of blanks put into it, at a place where it parts no run of digits
and points. -/
inductive InsertsBlanks : String → String → Prop
  | between (a w b : String) (hw : ∀ c ∈ w.toList, isBlank c = true) (h : Apart a.toList b.toList) :
      InsertsBlanks (a ++ b) (a ++ w ++ b)

/-- One text comes from the other by runs of blanks that are put in or taken out, one after the other. -/
def Respaced : String → String → Prop :=
  Relation.EqvGen InsertsBlanks

variable {s t : String}

theorem InsertsBlanks.tokenize_lockstep (h : InsertsBlanks s t) :
    Lockstep False Eq (tokenize s) (tokenize t) := by
  obtain ⟨a, w, b, hw, h⟩ := h
  rw [tokenize, tokenize, Cursor.start, Cursor.start, String.toList_append, String.toList_append,
    String.toList_append, List.append_assoc, Cursor.tokens_append h, Cursor.tokens_blanks_between h hw]
  cases Cursor.tokens ⟨a.toList, 0⟩ with
  | error e => exact .error False.elim
  | ok ts =>
      cases Cursor.tokens ⟨b.toList, 0 + a.toList.length⟩ with
      | error e => exact .error False.elim
      | ok us => exact .ok rfl

theorem Respaced.tokenize_eq_ok (h : Respaced s t) (ts : List Token) :
    tokenize s = .ok ts ↔ tokenize t = .ok ts := by
  induction h with
  | rel s t h => exact h.tokenize_lockstep.eq_ok_iff ts
  | refl s => exact Iff.rfl
  | symm s t _ ih => exact ih.symm
  | trans s t u _ _ ih ih' => exact ih.trans ih'

theorem Respaced.outcome_evaluate_eq_ok (h : Respaced s t) (x v : Float) :
    (Expr.evaluate s x).outcome = .ok v ↔ (Expr.evaluate t x).outcome = .ok v := by
  simp only [Expr.outcome_evaluate, mapError_eq_ok, Expr.value, bind_eq_ok, h.tokenize_eq_ok]

/-! ## The headline theorem -/

/-- **Texts are read one behind the other.** Let no run of digits and points go across the seam of two texts. The
first error of the two is the error of both together, in the second text further on by the length of the first; and
without an error the tokens of both together are those of the first and then those of the second. So it changes
neither whether a text has a value nor which, at any value of the variable, to put blanks in or take them out so that
no run of digits and points is parted or joined. -/
theorem tokenize_homomorphism :
    (∀ a b : String, Apart a.toList b.toList →
      (∀ e, tokenize a = .error e → tokenize (a ++ b) = .error e) ∧
      (∀ ts us, tokenize a = .ok ts → tokenize b = .ok us → tokenize (a ++ b) = .ok (ts ++ us)) ∧
      ∀ ts e, tokenize a = .ok ts → tokenize b = .error e →
        tokenize (a ++ b) = .error (e.shift a.length)) ∧
    ∀ s t : String, Respaced s t → ∀ x v : Float,
      (Expr.evaluate s x).outcome = .ok v ↔ (Expr.evaluate t x).outcome = .ok v := by
  refine ⟨fun a b h => ⟨fun e he => ?_, fun ts us hts hus => ?_, fun ts e hts he => ?_⟩,
    fun s t h => h.outcome_evaluate_eq_ok⟩
  · rw [tokenize_append_apart h, he]
    rfl
  · rw [tokenize_append_apart h, hts, hus]
    rfl
  · rw [tokenize_append_apart h, hts, he]
    rfl

/-- The run `1.2.3` is refused where it stands, and what looks like its beginning is not taken for a number. Blanks of
two sorts around the second operand do no harm. -/
theorem tokenize_homomorphism_seams :
    tokenize "x * 1.2.3" = .error (.invalidNumber "1.2.3" 4) ∧
    ∀ x v : Float, (Expr.evaluate "2*x +1" x).outcome = .ok v ↔ (Expr.evaluate "2*\u2003x\t+1" x).outcome = .ok v := by
  have hapart : Apart "x * ".toList "1.2.3".toList := by
    left
    rintro c ⟨⟩
    rfl
  have hfirst : tokenize "x * " = .ok [.var, .op .multiply] := by decide +kernel
  have hsecond : tokenize "1.2.3" = .error (.invalidNumber "1.2.3" 0) := by decide +kernel
  have hspace : InsertsBlanks "2*x+1" "2*x +1" :=
    .between "2*x" " " "+1" (List.all_eq_true.mp rfl) (.inr (stops_cons.mpr rfl))
  have htab : InsertsBlanks "2*x+1" "2*x\t+1" :=
    .between "2*x" "\t" "+1" (List.all_eq_true.mp rfl) (.inr (stops_cons.mpr rfl))
  have hwide : InsertsBlanks "2*x\t+1" "2*\u2003x\t+1" :=
    .between "2*" "\u2003" "x\t+1" (List.all_eq_true.mp rfl) (.inr (stops_cons.mpr rfl))
  have hrespaced : Respaced "2*x +1" "2*\u2003x\t+1" :=
    .trans _ _ _ (.symm _ _ (.rel _ _ hspace)) (.trans _ _ _ (.rel _ _ htab) (.rel _ _ hwide))
  exact ⟨(tokenize_homomorphism.1 _ _ hapart).2.2 _ _ hfirst hsecond, tokenize_homomorphism.2 _ _ hrespaced⟩

end Reckon
