import Reckon.Json.Reader
import Reckon.Proofs.Json.Spaced
import Reckon.Text.Blank

/-!
# Blanks around a JSON text

Two notions of a blank meet at the ends of a text: the four spaces that may stand around a lexeme
(`isSpace`), and all the characters that are trimmed (`Text.isBlank`).

No lexeme begins with a blank, and a blank at the end of a text is never part of its last lexeme: it
does not go on with a word or a number, and it neither closes a string nor completes an escape
(`lexeme?_append_blanks`). Hence blanks at the ends of a text do nothing if they are spaces, and otherwise leave it
without lexemes and without a value (`parse?_surround`).
-/

namespace Reckon

open Text

namespace Json

variable {c : Char} {cs ws : List Char}

/-! ## What is no blank -/

theorem not_isBlank_of_isNumberChar (h : isNumberChar c = true) : isBlank c = false := by
  simp only [isNumberChar, Bool.or_eq_true, beq_iff_eq] at h
  rcases h with ((((hdigit | rfl) | rfl) | rfl) | rfl) | rfl
  · exact not_isBlank_of_isDigit hdigit
  all_goals decide

theorem not_isBlank_of_range {a z : Char} (h : a ≤ c ∧ c ≤ z) (ha : 0x20 < a.toNat) (hz : z.toNat < 0x7F) :
    isBlank c = false :=
  not_isBlank_of_visible (Nat.lt_of_lt_of_le ha h.1) (Nat.lt_of_le_of_lt h.2 hz)

theorem not_isBlank_of_isAlpha (h : c.isAlpha = true) : isBlank c = false := by
  rcases Bool.or_eq_true_iff.mp h with hupper | hlower
  · have hrange : 'A' ≤ c ∧ c ≤ 'Z' := of_decide_eq_true hupper
    exact not_isBlank_of_range hrange (by decide) (by decide)
  · obtain ⟨hlow, hhigh⟩ := Bool.and_eq_true_iff.mp hlower
    have hrange : 'a' ≤ c ∧ c ≤ 'z' := ⟨of_decide_eq_true hlow, of_decide_eq_true hhigh⟩
    exact not_isBlank_of_range hrange (by decide) (by decide)

theorem not_isBlank_of_ofChar? {m : Mark} (h : Mark.ofChar? c = some m) : isBlank c = false := by
  obtain rfl : m.char = c := by simpa using List.find?_some h
  cases m <;> decide

theorem not_isBlank_of_unescape? {d : Char} (h : unescape? c = some d) : isBlank c = false := by
  unfold unescape? at h
  split at h
  case h_9 => cases h
  all_goals decide

theorem not_isBlank_of_hexDigit? {n : Nat} (h : hexDigit? c = some n) : isBlank c = false := by
  unfold hexDigit? at h
  split_ifs at h with hdigit hlower hupper
  · exact not_isBlank_of_range hdigit (by decide) (by decide)
  · exact not_isBlank_of_range hlower (by decide) (by decide)
  · exact not_isBlank_of_range hupper (by decide) (by decide)

theorem not_isBlank_of_unhex4? {a b c d : Char} {n : Nat} (h : unhex4? a b c d = some n) :
    ∀ x ∈ [a, b, c, d], isBlank x = false := by
  simp only [unhex4?, Option.bind_eq_bind, Option.bind_eq_some_iff] at h
  obtain ⟨_, ha, _, hb, _, hc, _, hd, -⟩ := h
  simp [not_isBlank_of_hexDigit? ha, not_isBlank_of_hexDigit? hb, not_isBlank_of_hexDigit? hc,
    not_isBlank_of_hexDigit? hd]

theorem eq_none_of_isBlank {α : Type} {f : Char → Option α} (hf : ∀ {c a}, f c = some a → isBlank c = false)
    (hc : isBlank c = true) : f c = none := by
  by_contra hsome
  obtain ⟨a, ha⟩ := Option.ne_none_iff_exists'.mp hsome
  rw [hf ha] at hc
  cases hc

/-! ## Blanks behind a lexeme -/

theorem readString?_plain (hquote : c ≠ '"') (hbackslash : c ≠ '\\') (cs : List Char) :
    readString? (c :: cs) =
      if c.toNat < 0x20 then none else (readString? cs).map fun (ns, rest) => (c.toNat :: ns, rest) := by
  rw [readString?.eq_5 c cs hquote (fun _ _ _ _ _ h => absurd h hbackslash) fun _ _ h => absurd h hbackslash]
  simp [hbackslash]

/-- Blanks do not close a string. -/
theorem readString?_of_blanks (hws : ∀ c ∈ ws, isBlank c = true) : readString? ws = none := by
  induction ws with
  | nil => rfl
  | cons b ws ih =>
      have hb : isBlank b = true := hws b List.mem_cons_self
      have hquote : b ≠ '"' := by rintro rfl; cases hb
      have hbackslash : b ≠ '\\' := by rintro rfl; cases hb
      rw [readString?_plain hquote hbackslash, ih fun c hc => hws c (List.mem_cons_of_mem b hc)]
      exact ite_self none

/-- No escape begins with a blank. -/
theorem readString?_backslash (hws : ∀ c ∈ ws, isBlank c = true) : readString? ('\\' :: ws) = none := by
  cases ws with
  | nil => rfl
  | cons b ws =>
      have hb : isBlank b = true := hws b List.mem_cons_self
      have hu : b ≠ 'u' := by rintro rfl; cases hb
      have hnone : unescape? b = none := eq_none_of_isBlank not_isBlank_of_unescape? hb
      rw [readString?.eq_4 _ _ fun _ _ _ _ _ h => absurd h hu, hnone]
      rfl

/-- The four digits of an escape are no blanks. -/
theorem exists_digits_of_readString? {r : List Nat × List Char} (h : readString? ('\\' :: 'u' :: cs) = some r) :
    ∃ a b c d rest, cs = [a, b, c, d] ++ rest ∧ ∀ x ∈ [a, b, c, d], isBlank x = false := by
  unfold readString? at h
  split at h
  case h_1 heq => cases heq
  case h_2 heq => cases heq
  case h_3 a b c d rest heq =>
    obtain ⟨n, hn, -⟩ := Option.bind_eq_some_iff.mp h
    cases heq
    exact ⟨a, b, c, d, rest, rfl, not_isBlank_of_unhex4? hn⟩
  case h_4 heq =>
    cases heq
    cases h
  case h_5 hescape heq =>
    cases heq
    exact absurd rfl (hescape 'u' cs rfl)

/-- Blanks do not complete an escape. -/
theorem readString?_unfinished (hcs : ∀ a b c d rest, cs ≠ a :: b :: c :: d :: rest)
    (hws : ∀ c ∈ ws, isBlank c = true) : readString? ('\\' :: 'u' :: (cs ++ ws)) = none := by
  by_contra hsome
  obtain ⟨r, hr⟩ := Option.ne_none_iff_exists'.mp hsome
  obtain ⟨a, b, c, d, rest, heq, hdigits⟩ := exists_digits_of_readString? hr
  rcases List.append_eq_append_iff.mp heq with ⟨tail, hdigits', hws'⟩ | ⟨tail, hcs', -⟩
  · cases tail with
    | nil => exact hcs a b c d [] (by rw [hdigits', List.append_nil])
    | cons x tail =>
        have hblank : isBlank x = true := hws x (by simp [hws'])
        have hdigit : isBlank x = false := hdigits x (by simp [hdigits'])
        rw [hblank] at hdigit
        cases hdigit
  · exact hcs a b c d tail hcs'

theorem readString?_append_blanks (cs : List Char) (hws : ∀ c ∈ ws, isBlank c = true) :
    readString? (cs ++ ws) = (readString? cs).map fun (ns, rest) => (ns, rest ++ ws) := by
  fun_induction readString? cs with
  | case1 => exact readString?_of_blanks hws
  | case2 rest => rfl
  | case3 a b c d rest ih =>
      simp only [List.cons_append, readString?, ih]
      cases unhex4? a b c d with
      | none => rfl
      | some n => simp [Function.comp_def]
  | case4 c rest hshort ih =>
      by_cases hu : c = 'u'
      · -- four digits are wanted, and the string ends before them
        subst hu
        exact readString?_unfinished (fun a b c d tail => hshort a b c d tail rfl) hws
      · rw [List.cons_append, List.cons_append, readString?.eq_4 _ _ fun _ _ _ _ _ h => absurd h hu, ih]
        cases unescape? c with
        | none => rfl
        | some d => simp [Function.comp_def]
  | case5 c rest hquote hunicode hescape hcontrol =>
      by_cases hbackslash : c = '\\'
      · subst hbackslash
        cases rest with
        | nil => exact readString?_backslash hws
        | cons d rest => exact absurd rfl (hescape d rest rfl)
      · rw [List.cons_append, readString?_plain hquote hbackslash, if_pos (by simpa [hbackslash] using hcontrol)]
        rfl
  | case6 c rest hquote hunicode hescape hplain ih =>
      simp only [Bool.or_eq_true, decide_eq_true_eq, beq_iff_eq, not_or] at hplain
      rw [List.cons_append, readString?_plain hquote hplain.2, if_neg hplain.1, ih, Option.map_map, Option.map_map]
      rfl

/-- A lexeme does not reach into the blanks behind it. -/
theorem lexeme?_append_blanks (c : Char) (cs : List Char) (hws : ∀ c ∈ ws, isBlank c = true) :
    lexeme? c (cs ++ ws) = (lexeme? c cs).map fun (l, rest) => (l, rest ++ ws) := by
  unfold lexeme?
  cases Mark.ofChar? c with
  | some m => rfl
  | none =>
      dsimp only
      split
      next =>
        rw [readString?_append_blanks cs hws]
        cases readString? cs with
        | none => rfl
        | some r =>
            simp only [Option.map_some, Option.bind_some, Option.map_map]
            rfl
      next =>
        have hnumber : Stops isNumberChar ws := stops_of_blanks not_isBlank_of_isNumberChar hws
        have hword : Stops Char.isAlpha ws := stops_of_blanks not_isBlank_of_isAlpha hws
        split
        next =>
          rw [takeWhile_append_of_stops cs hnumber, dropWhile_append_of_stops cs hnumber, Option.map_map]
          rfl
        next =>
          rw [takeWhile_append_of_stops cs hword, dropWhile_append_of_stops cs hword, Option.map_map]
          rfl

theorem lexeme?_of_blank (hc : isBlank c = true) (cs : List Char) : lexeme? c cs = none := by
  have hmark : Mark.ofChar? c = none := eq_none_of_isBlank not_isBlank_of_ofChar? hc
  have hquote : c ≠ '"' := by rintro rfl; cases hc
  have hnumber : isNumberChar c = false := eq_false_of_isBlank not_isBlank_of_isNumberChar hc
  have hword (ds : List Char) : ofWord? (c :: ds) = none := by
    rw [ofWord?, List.find?_eq_none]
    intro v hv heq
    simp only [List.mem_cons, List.not_mem_nil, or_false] at hv
    rw [beq_iff_eq] at heq
    rcases hv with rfl | rfl | rfl <;> (cases heq; cases hc)
  rw [lexeme?, hmark]
  dsimp only
  rw [if_neg (by simpa using hquote), if_neg (by simp [hnumber]), hword]
  rfl

/-! ## Blanks around all lexemes -/

theorem lexemes?_congr {cs ds : List Char} (h : cs.dropWhile isSpace = ds.dropWhile isSpace) :
    lexemes? cs = lexemes? ds := by
  cases hc : cs.dropWhile isSpace with
  | nil =>
      rw [lexemes?_of_space (List.dropWhile_eq_nil_iff.mp hc),
        lexemes?_of_space (List.dropWhile_eq_nil_iff.mp (h ▸ hc))]
  | cons c rest => rw [lexemes?_of_dropWhile hc, lexemes?_of_dropWhile (h ▸ hc)]

theorem lexemes?_blanks_append (cs : List Char) (hws : ∀ c ∈ ws, isBlank c = true) :
    lexemes? (ws ++ cs) = if ws.all isSpace then lexemes? cs else none := by
  induction ws with
  | nil => rfl
  | cons b ws ih =>
      cases hb : isSpace b with
      | true =>
          have hdrop : (b :: (ws ++ cs)).dropWhile isSpace = (ws ++ cs).dropWhile isSpace :=
            List.dropWhile_cons_of_pos hb
          rw [List.cons_append, lexemes?_congr hdrop, ih fun c hc => hws c (List.mem_cons_of_mem b hc),
            List.all_cons, hb, Bool.true_and]
      | false =>
          have hdrop : (b :: (ws ++ cs)).dropWhile isSpace = b :: (ws ++ cs) :=
            List.dropWhile_cons_of_neg (by simp [hb])
          rw [List.cons_append, lexemes?_of_dropWhile hdrop, lexeme?_of_blank (hws b List.mem_cons_self),
            List.all_cons, hb, Bool.false_and]
          rfl

theorem lexemes?_append_blanks (cs : List Char) (hws : ∀ c ∈ ws, isBlank c = true) :
    lexemes? (cs ++ ws) = if ws.all isSpace then lexemes? cs else none := by
  fun_induction lexemes? cs with
  | case1 cs hc =>
      -- nothing but spaces comes before the blanks
      have hdrop : (cs ++ ws).dropWhile isSpace = ws.dropWhile isSpace :=
        List.dropWhile_append_of_pos (List.dropWhile_eq_nil_iff.mp hc)
      have hnil : lexemes? [] = some [] := lexemes?_of_space nofun
      rw [lexemes?_congr hdrop, ← List.append_nil ws, lexemes?_blanks_append [] hws, List.append_nil, hnil]
  | case2 cs c rest hc hl =>
      have hdrop : (cs ++ ws).dropWhile isSpace = c :: (rest ++ ws) := by
        simp [List.dropWhile_append, hc]
      rw [lexemes?_of_dropWhile hdrop, lexeme?_append_blanks c rest hws, hl, ite_self]
      rfl
  | case3 cs c rest hc l rest' hl hlt ih =>
      have hdrop : (cs ++ ws).dropWhile isSpace = c :: (rest ++ ws) := by
        simp [List.dropWhile_append, hc]
      rw [lexemes?_of_dropWhile hdrop, lexeme?_append_blanks c rest hws, hl, Option.map_some, Option.bind_some]
      dsimp only
      rw [ih]
      split <;> rfl

theorem lexemes?_surround {us : List Char} (cs : List Char) (hus : ∀ c ∈ us, isBlank c = true)
    (hws : ∀ c ∈ ws, isBlank c = true) :
    lexemes? (us ++ cs ++ ws) = if (us ++ ws).all isSpace then lexemes? cs else none := by
  rw [lexemes?_append_blanks _ hws, lexemes?_blanks_append cs hus, List.all_append]
  cases us.all isSpace <;> cases ws.all isSpace <;> rfl

/-- Spaces around a text do not matter, and with any other blanks around it there is no value in it. -/
theorem parse?_surround {u w : String} (s : String) (hu : ∀ c ∈ u.toList, isBlank c = true)
    (hw : ∀ c ∈ w.toList, isBlank c = true) :
    parse? (u ++ s ++ w) = if (u ++ w).toList.all isSpace then parse? s else none := by
  rw [parse?, String.toList_append, String.toList_append, lexemes?_surround s.toList hu hw, String.toList_append]
  split <;> rfl

end Json

end Reckon
