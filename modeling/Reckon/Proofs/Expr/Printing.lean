import Reckon.Proofs.Decimal.ReadBack
import Reckon.Proofs.Expr.Pieces
import Reckon.Proofs.Expr.Refusal

/-!
# Tokens written out

The text of a token is one piece that is read as this token, if its number is finite and has no sign
(`Token.Plain.exists_piece`). So tokens may be written one behind the other with any blanks around them, and are read
as they were (`Writing.tokenize_text`); only between two numbers there has to be a blank, or their digits would run
into each other.

The numbers that reading finds have no sign and are never not-a-number (`unsigned_of_tokenize`). Without an infinity
among them, what was read may be written out and read again.
-/

namespace Reckon

open Text

/-! ## One token -/

namespace Token

def isNumber : Token → Bool
  | number _ => true
  | var | op _ | opening | closing => false

/-- A token whose number, if it is one, is finite and has no sign. -/
def Plain (t : Token) : Prop :=
  ∀ v, t = number v → v.isFinite = true ∧ Decimal.isNegative v = false

instance : DecidablePred Plain
  | number v =>
    decidable_of_iff (v.isFinite = true ∧ Decimal.isNegative v = false)
      ⟨fun h _ hv => number.inj hv ▸ h, fun h => h v rfl⟩
  | var | op _ | opening | closing => isTrue nofun

theorem WrittenAs.toList_text {t : Token} {c : Char} (h : t.WrittenAs c) : t.text.toList = [c] := by
  cases h with
  | var => rfl
  | opening => rfl
  | closing => rfl
  | op o => cases o <;> rfl

theorem exists_writtenAs_of_not_isNumber {t : Token} (h : t.isNumber = false) : ∃ c, t.WrittenAs c := by
  cases t with
  | number v => cases h
  | var => exact ⟨_, .var⟩
  | op o => exact ⟨_, .op o⟩
  | opening => exact ⟨_, .opening⟩
  | closing => exact ⟨_, .closing⟩

/-- The text of a token is one piece, which is read as this token. -/
theorem Plain.exists_piece {t : Token} (h : t.Plain) :
    ∃ q : Piece, q.chars = t.text.toList ∧ (∀ p, q.read p = .ok [t]) ∧
      (t.isNumber = false → ∀ rest, Apart q.chars rest) := by
  by_cases hnumber : t.isNumber = true
  · cases t with
    | number v =>
        obtain ⟨hfinite, hsign⟩ := h v rfl
        obtain ⟨n, hread, hn⟩ := Decimal.exists_read?_plain hfinite hsign
        have hall : ∀ c ∈ (Decimal.plain v).toList, isNumberChar c = true := by
          intro c hc
          rcases Decimal.isDigit_of_mem_plain hfinite hsign hc with hdigit | rfl
          · rw [isNumberChar, hdigit, Bool.true_or]
          · rfl
        have hne : (Decimal.plain v).toList ≠ [] := by
          intro hnil
          rw [hnil] at hread
          cases hread
        refine ⟨.run _ hne hall, rfl, fun p => ?_, fun hno => Bool.noConfusion hno⟩
        rw [Piece.read, Decimal.ofText?_run hall, hread]
        show Except.ok [number (n.toFloat false)] = _
        rw [hn]
    | var | op _ | opening | closing => cases hnumber
  · obtain ⟨c, hc⟩ := exists_writtenAs_of_not_isNumber (Bool.not_eq_true _ ▸ hnumber)
    obtain ⟨hblank, hno⟩ := hc.apart
    refine ⟨.single c hblank hno, hc.toList_text.symm, fun p => ?_, fun _ rest => .inl ?_⟩
    · rw [Piece.read, ofChar?_eq_some.mpr hc]
    · rintro d ⟨⟩
      exact hno

end Token

/-! ## Tokens in a row -/

/-- Tokens that are written out, each with what stands before it, and what stands at the end. -/
structure Writing where
  tokens : List (String × Token)
  ending : String

namespace Writing

def chars (w : Writing) : List Char :=
  w.tokens.flatMap (fun r => r.1.toList ++ r.2.text.toList) ++ w.ending.toList

/-- The whole text. -/
def text (w : Writing) : String :=
  String.ofList w.chars

/-- Nothing but blanks stands around the tokens, and two numbers in a row do not touch. -/
structure Spaced (w : Writing) : Prop where
  blank : ∀ r ∈ w.tokens, ∀ c ∈ r.1.toList, isBlank c = true
  ending : ∀ c ∈ w.ending.toList, isBlank c = true
  apart : w.tokens.IsChain fun r r' => r.2.isNumber = true → r'.2.isNumber = true → r'.1 ≠ ""

instance : DecidablePred Spaced := fun w =>
  decidable_of_iff
    ((w.tokens.all fun r => r.1.toList.all isBlank) = true ∧ w.ending.toList.all isBlank = true ∧
      w.tokens.IsChain fun r r' => r.2.isNumber = true → r'.2.isNumber = true → r'.1 ≠ "")
    (by
      simp only [List.all_eq_true]
      exact ⟨fun ⟨hblank, hending, hapart⟩ => ⟨hblank, hending, hapart⟩, fun h => ⟨h.blank, h.ending, h.apart⟩⟩)

variable {w : Writing} {r : String × Token} {rs : List (String × Token)} {e : String}

theorem chars_cons : chars ⟨r :: rs, e⟩ = r.1.toList ++ (r.2.text.toList ++ chars ⟨rs, e⟩) := by
  rw [chars, List.flatMap_cons, List.append_assoc, List.append_assoc]
  rfl

theorem Spaced.tail (h : Spaced ⟨r :: rs, e⟩) : Spaced ⟨rs, e⟩ where
  blank r' hr' := h.blank r' (List.mem_cons_of_mem r hr')
  ending := h.ending
  apart := (List.isChain_cons.mp h.apart).2

/-- What is written behind a number does not begin with a digit or a point. -/
theorem Spaced.stops (h : Spaced ⟨r :: rs, e⟩) (hr : r.2.isNumber = true) : Stops isNumberChar (chars ⟨rs, e⟩) := by
  cases rs with
  | nil => exact stops_of_blanks not_isBlank_of_isNumberChar h.ending
  | cons r' rs =>
      rw [chars_cons]
      refine stops_blanks_append not_isBlank_of_isNumberChar (h.tail.blank r' List.mem_cons_self) fun hempty => ?_
      have hno : r'.2.isNumber = false := by
        by_contra hnumber
        exact (List.isChain_cons.mp h.apart).1 r' rfl hr (Bool.not_eq_false _ ▸ hnumber)
          (String.toList_eq_nil_iff.mp hempty)
      obtain ⟨c, hc⟩ := Token.exists_writtenAs_of_not_isNumber hno
      rw [hc.toList_text]
      exact stops_cons.mpr hc.apart.2

theorem tokens_chars (h : w.Spaced) (hplain : ∀ r ∈ w.tokens, r.2.Plain) (p : ℕ) :
    Cursor.tokens ⟨w.chars, p⟩ = .ok (w.tokens.map Prod.snd) := by
  obtain ⟨rs, e⟩ := w
  induction rs generalizing p with
  | nil =>
      show Cursor.tokens ⟨e.toList, p⟩ = .ok []
      rw [← List.append_nil e.toList, Cursor.tokens_blanks h.ending, Cursor.tokens_nil]
  | cons r rs ih =>
      obtain ⟨q, hchars, hread, hapart⟩ := (hplain r List.mem_cons_self).exists_piece
      have hseam : Apart q.chars (chars ⟨rs, e⟩) := by
        by_cases hnumber : r.2.isNumber = true
        · exact .inr (h.stops hnumber)
        · exact hapart (Bool.not_eq_true _ ▸ hnumber) _
      rw [chars_cons, Cursor.tokens_blanks (h.blank r List.mem_cons_self), ← hchars, Cursor.tokens_piece q hseam, hread,
        ih _ h.tail fun r' hr' => hplain r' (List.mem_cons_of_mem r hr')]
      rfl

theorem tokenize_text (h : w.Spaced) (hplain : ∀ r ∈ w.tokens, r.2.Plain) :
    tokenize w.text = .ok (w.tokens.map Prod.snd) := by
  rw [tokenize, Cursor.start, text, String.toList_ofList, tokens_chars h hplain]

end Writing

/-! ## Tokens that were read -/

theorem Piece.Spells.unsigned {q : Piece} {v : Float} (h : q.Spells (.number v)) :
    Decimal.isNegative v = false ∧ v.isNaN = false := by
  cases h with
  | @run cs ne all v hread =>
      rw [Decimal.ofText?_run all] at hread
      obtain ⟨n, -, rfl⟩ := Option.map_eq_some_iff.mp hread
      exact ⟨n.not_isNegative_toFloat, n.not_isNaN_toFloat false⟩
  | single h => cases h

theorem unsigned_of_tokenize {s : String} {ts : List Token} (h : tokenize s = .ok ts) {v : Float}
    (hv : .number v ∈ ts) : Decimal.isNegative v = false ∧ v.isNaN = false := by
  obtain ⟨ps, hps⟩ := exists_decomposes s.toList
  have hscanned : Scanned 0 ps (tokenize s) := hps.scanned 0
  rw [h] at hscanned
  clear h
  cases hscanned with
  | accepted readable spells =>
      generalize ps.filter (!·.isBlanks) = qs at spells
      induction spells with
      | nil => cases hv
      | cons hspells _ ih =>
          rcases List.mem_cons.mp hv with rfl | hmem
          · exact hspells.unsigned
          · exact ih hmem

/-! ## The headline theorem -/

/-- **What is written is read back.** Finite numbers without a sign and the other tokens may be written one behind the
other with any blanks around them, two numbers in a row not without a blank, and the text is read as these tokens.
Numbers that are read have no sign and are never not-a-number; so if none of them is an infinity, the tokens of a text
may be written out again with any such blanks, and neither they nor the values of the expression change. -/
theorem tokenize_written :
    (∀ w : Writing, w.Spaced → (∀ r ∈ w.tokens, r.2.Plain) → tokenize w.text = .ok (w.tokens.map Prod.snd)) ∧
    ∀ (s : String) (ts : List Token), tokenize s = .ok ts →
      (∀ v, .number v ∈ ts → Decimal.isNegative v = false ∧ v.isNaN = false) ∧
      ((∀ v, .number v ∈ ts → v.isInf = false) →
        ∀ w : Writing, w.Spaced → w.tokens.map Prod.snd = ts →
          tokenize w.text = .ok ts ∧
          ∀ x v, (Expr.evaluate w.text x).outcome = .ok v ↔ (Expr.evaluate s x).outcome = .ok v) := by
  refine ⟨fun w h hplain => w.tokenize_text h hplain, fun s ts hs => ⟨fun v => unsigned_of_tokenize hs, ?_⟩⟩
  intro hfinite w hw hts
  have hplain : ∀ r ∈ w.tokens, r.2.Plain := by
    intro r hr v hv
    have hmem : .number v ∈ ts := hts ▸ List.mem_map.mpr ⟨r, hr, hv⟩
    obtain ⟨hsign, hnan⟩ := unsigned_of_tokenize hs hmem
    exact ⟨Decimal.isFinite_iff.mpr ⟨hnan, hfinite v hmem⟩, hsign⟩
  have htext : tokenize w.text = .ok ts := hts ▸ w.tokenize_text hw hplain
  refine ⟨htext, fun x v => ?_⟩
  rw [Expr.outcome_evaluate, Expr.outcome_evaluate, mapError_eq_ok, mapError_eq_ok, Expr.value, Expr.value, htext, hs]

/-- Two numbers with a wide blank between them, the first of them a small one, are read back. The literal `.50` is
read as the number that is written `0.5`, and the expression keeps its values. -/
theorem tokenize_written_small_number :
    tokenize "0.0000001\u20032^x" = .ok [.number 1e-7, .number 2, .op .power, .var] ∧
    ∀ x v : Float, (Expr.evaluate "2*x + 0.5" x).outcome = .ok v ↔ (Expr.evaluate "2*x+.50" x).outcome = .ok v := by
  constructor
  · let w : Writing := ⟨[("", .number 1e-7), ("\u2003", .number 2), ("", .op .power), ("", .var)], ""⟩
    have htext : w.text = "0.0000001\u20032^x" := by decide +kernel
    have hspaced : w.Spaced := by decide
    have hplain : ∀ r ∈ w.tokens, r.2.Plain := by decide
    rw [← htext]
    exact tokenize_written.1 w hspaced hplain
  · let w : Writing :=
      ⟨[("", .number 2), ("", .op .multiply), ("", .var), (" ", .op .add), (" ", .number 0.5)], ""⟩
    have htext : w.text = "2*x + 0.5" := by decide +kernel
    have hspaced : w.Spaced := by decide
    have hread : tokenize "2*x+.50" = .ok (w.tokens.map Prod.snd) := by decide +kernel
    have hfinite : ∀ v, .number v ∈ w.tokens.map Prod.snd → v.isInf = false := by
      intro v hv
      simp only [w, List.map_cons, List.map_nil, List.mem_cons, Token.number.injEq, reduceCtorEq, List.not_mem_nil,
        or_false, false_or] at hv
      rcases hv with rfl | rfl <;> decide
    rw [← htext]
    exact ((tokenize_written.2 _ _ hread).2 hfinite w hspaced rfl).2

end Reckon
