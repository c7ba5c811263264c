import Mathlib.Data.List.Chain
import Reckon.Json.Lexeme
import Reckon.Proofs.Decimal.Numeral

/-!
# Lexemes in a text

The text of every lexeme is read back. For a string this is so character by character: what stands for a character
is read as its code point (`readString?_escape`), and no two code points of a string are joined into one, since
none of them is a surrogate. Integers of 64 bits are read back too (`Number.readsBack_integer`), but of doubles it
has to be assumed (`Number.ReadsBack`).

A word or a number goes on for as long as it can, so that two of them need something between them. `Spaced` says
that lexemes stand in a text one after the other, with any spaces around them. If there is punctuation between any
two values (`Separated`), these are the lexemes that are found (`Spaced.lexemes?`).
-/

namespace Reckon

open Text

/-! ## Strings -/

namespace Json

theorem hexDigit?_digitChar : ∀ d < 16, hexDigit? d.digitChar = some d := by
  decide

theorem unhex4?_hex4 {n : Nat} (h : n < 0x10000) :
    ∃ a b c d, hex4 n = [a, b, c, d] ∧ unhex4? a b c d = some n := by
  refine ⟨_, _, _, _, rfl, ?_⟩
  have hmod (k : Nat) : k % 16 < 16 := Nat.mod_lt k (by decide)
  rw [unhex4?, hexDigit?_digitChar _ (hmod _), hexDigit?_digitChar _ (hmod _),
    hexDigit?_digitChar _ (hmod _), hexDigit?_digitChar _ (hmod _)]
  show some _ = some n
  congr 1
  omega

/-- The written form of a character is read as its code point. -/
theorem readString?_escape (c : Char) (cs : List Char) :
    readString? (escape c ++ cs) = (readString? cs).map fun (ns, rest) => (c.toNat :: ns, rest) := by
  unfold escape
  split
  case h_8 hquote hbackslash _ _ _ _ _ =>
    split
    next hc =>
      obtain ⟨a, b, d, e, hhex, hread⟩ := unhex4?_hex4 (n := c.toNat) (by omega)
      rw [hhex]
      simp [readString?, hread]
    next hc =>
      rw [List.singleton_append, readString?, if_neg (by simpa [hc] using hbackslash)]
      · exact hquote
      · intro _ _ _ _ _ h
        exact absurd h hbackslash
      · intro _ _ h
        exact absurd h hbackslash
  all_goals simp [readString?, unescape?]

theorem readString?_flatMap_escape (s rest : List Char) :
    readString? (s.flatMap escape ++ '"' :: rest) = some (s.map Char.toNat, rest) := by
  induction s with
  | nil => rfl
  | cons c s ih => rw [List.flatMap_cons, List.append_assoc, readString?_escape, ih]; rfl

theorem joinSurrogates?_map_toNat (s : List Char) : joinSurrogates? (s.map Char.toNat) = some s := by
  induction s with
  | nil => rfl
  | cons c s ih =>
      have hvalid : c.toNat < 0xD800 ∨ 0xDFFF < c.toNat ∧ c.toNat < 0x110000 := c.valid
      rw [List.map_cons, joinSurrogates?.eq_def]
      dsimp only
      rw [if_pos (by simp; omega), ih, Option.map_some, Char.ofNat_toNat]

theorem lexeme?_string (s : String) (rest : List Char) :
    lexeme? '"' (s.toList.flatMap escape ++ '"' :: rest) = some (.scalar (.string s), rest) := by
  have hmark : Mark.ofChar? '"' = none := by decide
  simp [lexeme?, hmark, readString?_flatMap_escape, joinSurrogates?_map_toNat]

end Json

/-! ## Numbers -/

namespace Decimal

theorem mem_splitSign {cs : List Char} {c : Char} (hc : c ∈ cs) :
    c = '-' ∨ c = '+' ∨ c ∈ (splitSign cs).2 := by
  unfold splitSign
  split
  · rcases List.mem_cons.mp hc with rfl | hc
    · exact .inl rfl
    · exact .inr (.inr hc)
  · rcases List.mem_cons.mp hc with rfl | hc
    · exact .inr (.inl rfl)
    · exact .inr (.inr hc)
  · exact .inr (.inr hc)

/-- A numeral is written with digits, a point, and an exponent. -/
theorem isNumberChar_of_readExponent? {cs : List Char} {e : Int} (h : readExponent? cs = some e) :
    ∀ c ∈ cs, Json.isNumberChar c = true := by
  have hdigits : ∀ c ∈ (splitSign cs).2, c.isDigit = true := by
    simp only [readExponent?, Option.ite_none_left_eq_some, Bool.or_eq_true, not_or,
      Bool.not_eq_true', Bool.not_eq_false, List.all_eq_true] at h
    exact h.1.2
  intro c hc
  rcases mem_splitSign hc with rfl | rfl | hc
  · decide
  · decide
  · simp [Json.isNumberChar, hdigits c hc]

namespace Numeral

theorem isNumberChar_of_finish? {whole : List Char} {fraction : Option (List Char)} {cs : List Char}
    {n : Numeral} (h : finish? whole fraction cs = some n) : ∀ c ∈ cs, Json.isNumberChar c = true := by
  cases cs with
  | nil => nofun
  | cons d ds =>
      rw [finish?] at h
      split at h
      next hd =>
        obtain ⟨e, he, -⟩ := Option.map_eq_some_iff.mp h
        have hmark : Json.isNumberChar d = true := by
          simp only [Bool.or_eq_true, beq_iff_eq] at hd
          rcases hd with rfl | rfl
          · decide
          · decide
        exact List.forall_mem_cons.mpr ⟨hmark, isNumberChar_of_readExponent? he⟩
      next => cases h

theorem isNumberChar_of_read? {cs : List Char} {n : Numeral} (h : read? cs = some n) :
    ∀ c ∈ cs, Json.isNumberChar c = true := by
  have hdigit {ds : List Char} : ∀ c ∈ ds.takeWhile Char.isDigit, Json.isNumberChar c = true := by
    intro c hc
    simp [Json.isNumberChar, List.mem_takeWhile_imp hc]
  have hfinish := (Option.filter_eq_some_iff.mp h).1
  intro c hc
  rw [← List.takeWhile_append_dropWhile (p := Char.isDigit) (l := cs)] at hc
  rcases List.mem_append.mp hc with hc | hc
  · exact hdigit c hc
  · split at hfinish
    next rest hrest =>
      rw [hrest] at hc
      rcases List.mem_cons.mp hc with rfl | hc
      · decide
      · rw [← List.takeWhile_append_dropWhile (p := Char.isDigit) (l := rest)] at hc
        rcases List.mem_append.mp hc with hc | hc
        · exact hdigit c hc
        · exact isNumberChar_of_finish? hfinish c hc
    next => exact isNumberChar_of_finish? hfinish c hc

end Numeral

end Decimal

namespace Number

/-- The number is read back from its written form. -/
def ReadsBack (n : Number) : Prop :=
  read? n.text = some n

theorem read?_minus (cs : List Char) :
    read? ('-' :: cs) = ((Decimal.Numeral.read? cs).filter isStrict).bind (ofNumeral? true) := rfl

theorem read?_of_ne {cs : List Char} (h : ∀ rest, cs ≠ '-' :: rest) :
    read? cs = ((Decimal.Numeral.read? cs).filter isStrict).bind (ofNumeral? false) := by
  unfold read?
  split
  next rest heq =>
    split at heq
    next rest => exact absurd rfl (h rest)
    next => cases heq; rfl

theorem isNumberChar_of_read? {cs : List Char} {n : Number} (h : read? cs = some n) :
    cs ≠ [] ∧ ∀ c ∈ cs, Json.isNumberChar c = true := by
  have hchars {negative : Bool} {ds : List Char}
      (hds : ((Decimal.Numeral.read? ds).filter isStrict).bind (ofNumeral? negative) = some n) :
      ∀ c ∈ ds, Json.isNumberChar c = true := by
    obtain ⟨m, hm, -⟩ := Option.bind_eq_some_iff.mp hds
    exact Decimal.Numeral.isNumberChar_of_read? (Option.filter_eq_some_iff.mp hm).1
  refine ⟨?_, ?_⟩
  · rintro rfl
    cases h
  · by_cases hminus : ∃ rest, cs = '-' :: rest
    · obtain ⟨rest, rfl⟩ := hminus
      exact List.forall_mem_cons.mpr ⟨by decide, hchars (read?_minus rest ▸ h)⟩
    · rw [read?_of_ne (not_exists.mp hminus)] at h
      exact hchars h

end Number

theorem Decimal.head?_toDigits {n : Nat} (h : 0 < n) : (Nat.toDigits 10 n).head? ≠ some '0' := by
  induction n using Nat.strong_induction_on with
  | _ n ih =>
      rw [Nat.toDigits_eq_if (by decide)]
      split
      next hlt =>
        have hdigit : ∀ d < 10, 0 < d → [d.digitChar].head? ≠ some '0' := by decide
        exact hdigit n hlt h
      next hle =>
        obtain ⟨c, cs, hcs⟩ := List.exists_cons_of_ne_nil (Nat.toDigits_ne_nil (b := 10) (n := n / 10))
        have hfirst := ih (n / 10) (by omega) (by omega)
        rwa [hcs] at hfirst ⊢

namespace Number

theorem read?_toDigits (n : Nat) :
    (Decimal.Numeral.read? (Nat.toDigits 10 n)).filter isStrict = some ⟨Nat.toDigits 10 n, none, none⟩ := by
  have hdigits : ∀ c ∈ Nat.toDigits 10 n, c.isDigit = true := by
    intro c hc
    exact Nat.isDigit_of_mem_toDigits (by decide) (by decide) hc
  have hne : Nat.toDigits 10 n ≠ [] := Nat.toDigits_ne_nil
  have hstrict : isStrict ⟨Nat.toDigits 10 n, none, none⟩ = true := by
    rcases Nat.eq_zero_or_pos n with rfl | hpos
    · decide
    · simp [isStrict, hne, Decimal.head?_toDigits hpos]
  rw [Decimal.Numeral.read?_whole hdigits hne, Option.filter_some, if_pos hstrict]

theorem ofNumeral?_toDigits {n : Int} (fits : -0x8000000000000000 ≤ n ∧ n < 0x10000000000000000) {negative : Bool}
    {m : Nat} (hzero : (negative && m == 0) = false) (hvalue : (if negative then -(m : Int) else m) = n) :
    ofNumeral? negative ⟨Nat.toDigits 10 m, none, none⟩ = some (integer n fits) := by
  have hcoefficient : Decimal.Numeral.coefficient ⟨Nat.toDigits 10 m, none, none⟩ = m := by
    simp [Decimal.Numeral.coefficient, Decimal.Numeral.digits]
  have hinteger : integer? negative ⟨Nat.toDigits 10 m, none, none⟩ = some (integer n fits) := by
    rw [integer?, hcoefficient, hzero, hvalue]
    exact dif_pos fits
  rw [ofNumeral?, hinteger]
  rfl

/-- Every integer of 64 bits is read back. -/
theorem readsBack_integer (n : Int) (fits : -0x8000000000000000 ≤ n ∧ n < 0x10000000000000000) :
    (integer n fits).ReadsBack := by
  rw [ReadsBack, text]
  by_cases hneg : n < 0
  · have hzero : (n.natAbs == 0) = false := beq_eq_false_iff_ne.mpr (by omega)
    have hvalue : -(n.natAbs : Int) = n := by omega
    rw [if_pos hneg, List.singleton_append, read?_minus, read?_toDigits, Option.bind_some]
    exact ofNumeral?_toDigits fits hzero hvalue
  · have hdigit : ∀ rest, Nat.toDigits 10 n.natAbs ≠ '-' :: rest := by
      intro rest hrest
      have hminus : '-'.isDigit = true :=
        Nat.isDigit_of_mem_toDigits (n := n.natAbs) (by decide) (by decide) (hrest ▸ List.mem_cons_self)
      exact absurd hminus (by decide)
    have hvalue : (n.natAbs : Int) = n := by omega
    rw [if_neg hneg, List.nil_append, read?_of_ne hdigit, read?_toDigits, Option.bind_some]
    exact ofNumeral?_toDigits fits rfl hvalue

end Number

/-! ## One lexeme -/

namespace Json

/-- Nothing that a word or a number could go on with comes first. -/
def Delimited (cs : List Char) : Prop :=
  Stops (fun c => c.isAlpha || isNumberChar c) cs

theorem Delimited.isAlpha {cs : List Char} (h : Delimited cs) : Stops Char.isAlpha cs := by
  intro c hc
  have hno := h c hc
  simp only [Bool.or_eq_false_iff] at hno
  exact hno.1

theorem Delimited.isNumberChar {cs : List Char} (h : Delimited cs) : Stops Json.isNumberChar cs := by
  intro c hc
  have hno := h c hc
  simp only [Bool.or_eq_false_iff] at hno
  exact hno.2

end Json

/-- A number that is part of the lexeme is read back. -/
def Lexeme.ReadsBack (l : Lexeme) : Prop :=
  ∀ n, l = .scalar (.number n) → n.ReadsBack

namespace Json

theorem ofChar?_of_isNumberChar {c : Char} (h : isNumberChar c = true) :
    Mark.ofChar? c = none ∧ c ≠ '"' := by
  refine ⟨List.find?_eq_none.mpr ?_, ?_⟩
  · intro m _ hm
    obtain rfl : m.char = c := by simpa using hm
    revert h
    cases m <;> decide
  · rintro rfl
    revert h
    decide

theorem lexeme?_number {c : Char} {cs rest : List Char} {n : Number}
    (hchars : ∀ d ∈ c :: cs, isNumberChar d = true) (hread : Number.read? (c :: cs) = some n)
    (hrest : Stops isNumberChar rest) : lexeme? c (cs ++ rest) = some (.scalar (.number n), rest) := by
  have hc := hchars c List.mem_cons_self
  have hcs : ∀ d ∈ cs, isNumberChar d = true := fun d hd => hchars d (List.mem_cons_of_mem c hd)
  obtain ⟨hmark, hquote⟩ := ofChar?_of_isNumberChar hc
  rw [lexeme?, hmark]
  dsimp only
  rw [if_neg (by simpa using hquote), if_pos hc, takeWhile_append hcs hrest, hread, dropWhile_append hcs hrest]
  rfl

theorem lexeme?_word {c : Char} {cs rest : List Char} {v : Scalar} (hmark : Mark.ofChar? c = none)
    (hquote : c ≠ '"') (hnumber : isNumberChar c = false) (hcs : ∀ d ∈ cs, d.isAlpha = true)
    (hword : ofWord? (c :: cs) = some v) (hrest : Stops Char.isAlpha rest) :
    lexeme? c (cs ++ rest) = some (.scalar v, rest) := by
  rw [lexeme?, hmark]
  dsimp only
  rw [if_neg (by simpa using hquote), if_neg (by simp [hnumber]), takeWhile_append hcs hrest, hword,
    dropWhile_append hcs hrest]
  rfl

/-- A lexeme is read back where it ends. Punctuation and strings end by themselves. -/
theorem lexeme?_text {l : Lexeme} (hl : l.ReadsBack) {rest : List Char}
    (hrest : (∃ v, l = .scalar v) → Delimited rest) :
    ∃ c cs, l.text = c :: cs ∧ isSpace c = false ∧ lexeme? c (cs ++ rest) = some (l, rest) := by
  rcases l with m | _ | b | n | s
  · refine ⟨m.char, [], rfl, ?_, ?_⟩
    · cases m <;> decide
    · simp [lexeme?, Mark.ofChar?_char]
  · exact ⟨'n', ['u', 'l', 'l'], rfl, rfl, lexeme?_word rfl (by decide) rfl (List.all_eq_true.mp rfl) rfl
      (hrest ⟨_, rfl⟩).isAlpha⟩
  · cases b with
    | true =>
        exact ⟨'t', ['r', 'u', 'e'], rfl, rfl, lexeme?_word rfl (by decide) rfl (List.all_eq_true.mp rfl) rfl
          (hrest ⟨_, rfl⟩).isAlpha⟩
    | false =>
        exact ⟨'f', ['a', 'l', 's', 'e'], rfl, rfl, lexeme?_word rfl (by decide) rfl
          (List.all_eq_true.mp rfl) rfl (hrest ⟨_, rfl⟩).isAlpha⟩
  · have hread : Number.read? n.text = some n := hl n rfl
    obtain ⟨hne, hchars⟩ := Number.isNumberChar_of_read? hread
    obtain ⟨c, cs, hcs⟩ := List.exists_cons_of_ne_nil hne
    rw [hcs] at hread hchars
    refine ⟨c, cs, hcs, ?_, lexeme?_number hchars hread (hrest ⟨_, rfl⟩).isNumberChar⟩
    have hc := hchars c List.mem_cons_self
    by_contra hspace
    simp only [isSpace, Bool.or_eq_true, beq_iff_eq, Bool.not_eq_false] at hspace
    rcases hspace with ((rfl | rfl) | rfl) | rfl <;> revert hc <;> decide
  · refine ⟨'"', s.toList.flatMap escape ++ ['"'], rfl, rfl, ?_⟩
    rw [List.append_assoc]
    exact lexeme?_string s rest

/-! ## All lexemes -/

theorem lexemes?_of_space {cs : List Char} (h : ∀ c ∈ cs, isSpace c = true) : lexemes? cs = some [] := by
  have hdrop : cs.dropWhile isSpace = [] := List.dropWhile_eq_nil_iff.mpr h
  rw [lexemes?]
  split
  next => rfl
  next c rest hc => rw [hdrop] at hc; cases hc

/-- The first lexeme of a text is the one that begins where the spaces end. -/
theorem lexemes?_of_dropWhile {cs rest : List Char} {c : Char} (hc : cs.dropWhile isSpace = c :: rest) :
    lexemes? cs = (lexeme? c rest).bind fun (l, rest') => (lexemes? rest').map (l :: ·) := by
  rw [lexemes?]
  split
  next hnil => rw [hnil] at hc; cases hc
  next d ds hds =>
    rw [hds] at hc
    cases hc
    split
    next hnone => rw [hnone, Option.bind_none]
    next l rest' hsome => simp only [hsome, Option.bind_some]

theorem lexemes?_cons {cs rest rest' : List Char} {c : Char} {l : Lexeme}
    (hc : cs.dropWhile isSpace = c :: rest) (hl : lexeme? c rest = some (l, rest')) :
    lexemes? cs = (lexemes? rest').map (l :: ·) := by
  rw [lexemes?_of_dropWhile hc, hl]
  rfl

/-- The lexemes stand in the text one after the other, with any spaces before, between and behind them. -/
inductive Spaced : List Lexeme → List Char → Prop
  | nil {bs : List Char} (space : ∀ c ∈ bs, isSpace c = true) : Spaced [] bs
  | cons {bs cs : List Char} {ls : List Lexeme} (space : ∀ c ∈ bs, isSpace c = true) (l : Lexeme)
      (h : Spaced ls cs) : Spaced (l :: ls) (bs ++ (l.text ++ cs))

/-- Two values without punctuation between them would run into each other. -/
def Separated (ls : List Lexeme) : Prop :=
  ls.IsChain fun l l' => (∃ m, l = .mark m) ∨ ∃ m, l' = .mark m

theorem delimited_of_space {bs cs : List Char} (hbs : ∀ c ∈ bs, isSpace c = true) (hcs : Delimited cs) :
    Delimited (bs ++ cs) := by
  cases bs with
  | nil => exact hcs
  | cons b bs =>
      have hspace := hbs b List.mem_cons_self
      simp only [isSpace, Bool.or_eq_true, beq_iff_eq] at hspace
      rw [List.cons_append, Delimited, stops_cons]
      rcases hspace with ((rfl | rfl) | rfl) | rfl <;> decide

theorem Spaced.delimited {ls : List Lexeme} {cs : List Char} (h : Spaced ls cs)
    (hmark : ∀ l ∈ ls.head?, ∃ m, l = .mark m) : Delimited cs := by
  cases h with
  | nil space => exact List.append_nil cs ▸ delimited_of_space space (stops_nil _)
  | cons space l h =>
      obtain ⟨m, rfl⟩ := hmark l rfl
      refine delimited_of_space space ?_
      rw [Lexeme.text, List.singleton_append, Delimited, stops_cons]
      cases m <;> decide

/-- The lexemes are found in the text. -/
theorem Spaced.lexemes? {ls : List Lexeme} {cs : List Char} (h : Spaced ls cs) (hsep : Separated ls)
    (hl : ∀ l ∈ ls, l.ReadsBack) : Json.lexemes? cs = some ls := by
  induction h with
  | nil space => exact lexemes?_of_space space
  | @cons bs cs ls space l h ih =>
      have hrest : (∃ v, l = .scalar v) → Delimited cs := by
        rintro ⟨v, rfl⟩
        refine h.delimited fun l' hl' => ?_
        have hfirst := (List.isChain_cons.mp hsep).1 l' hl'
        exact hfirst.resolve_left nofun
      obtain ⟨c, ds, htext, hspace, hlexeme⟩ := lexeme?_text (hl l List.mem_cons_self) hrest
      have hdrop : (bs ++ (l.text ++ cs)).dropWhile isSpace = c :: (ds ++ cs) := by
        rw [htext, List.cons_append]
        exact dropWhile_append space (stops_cons.mpr hspace)
      rw [lexemes?_cons hdrop hlexeme, ih (List.isChain_cons.mp hsep).2
        fun l' hl' => hl l' (List.mem_cons_of_mem l hl')]
      rfl

end Json

end Reckon
