import Reckon.Expr.Lexer
import Reckon.Proofs.Decimal.Numeral

/-!
# Scanning

What the cursor makes of a text that begins in a given way: with blanks, with a character that is a token by
itself, with a run of digits and points, or with any other character. The three classes of characters are
apart (`isNumberChar_of_isBlank`, `Token.WrittenAs.apart`), and which runs of digits and points are numbers
is settled by counting (`Decimal.Numeral.isSome_read?`).

`Cursor.tokens` is only opened here. All that later files use of it are the equations at the end, one for
each way in which a text can begin.
-/

namespace Reckon

open Text

/-! ## Classes of characters -/

theorem not_isBlank_of_isNumberChar {c : Char} (h : isNumberChar c = true) : isBlank c = false := by
  simp only [isNumberChar, Bool.or_eq_true, beq_iff_eq] at h
  rcases h with hdigit | rfl
  · exact not_isBlank_of_isDigit hdigit
  · decide

theorem isNumberChar_of_isBlank {c : Char} (h : isBlank c = true) : isNumberChar c = false :=
  eq_false_of_isBlank not_isBlank_of_isNumberChar h

namespace Token

/-- How the tokens are written that are one character each. -/
inductive WrittenAs : Token → Char → Prop
  | var : WrittenAs .var 'x'
  | opening : WrittenAs .opening '('
  | closing : WrittenAs .closing ')'
  | op (o : BinOp) : WrittenAs (.op o) o.symbol

theorem ofChar?_eq_some {c : Char} {t : Token} : ofChar? c = some t ↔ t.WrittenAs c := by
  constructor
  · intro h
    unfold ofChar? at h
    split at h
    · cases h; exact .var
    · cases h; exact .opening
    · cases h; exact .closing
    · obtain ⟨o, ho, rfl⟩ := Option.map_eq_some_iff.mp h
      have hsymbol := List.find?_some ho
      obtain rfl : o.symbol = c := by simpa using hsymbol
      exact .op o
  · intro h
    cases h with
    | var => rfl
    | opening => rfl
    | closing => rfl
    | op o => cases o <;> rfl

/-- A character that is a token begins nothing else. -/
theorem WrittenAs.apart {t : Token} {c : Char} (h : t.WrittenAs c) :
    isBlank c = false ∧ isNumberChar c = false := by
  cases h with
  | var => decide
  | opening => decide
  | closing => decide
  | op o => cases o <;> decide

theorem exists_writtenAs {c : Char} :
    (∃ t : Token, t.WrittenAs c) ↔ c ∈ ['x', '+', '-', '*', '/', '^', '(', ')'] := by
  constructor
  · rintro ⟨t, h⟩
    cases h with
    | var => decide
    | opening => decide
    | closing => decide
    | op o => cases o <;> decide
  · intro h
    simp only [List.mem_cons, List.not_mem_nil, or_false] at h
    rcases h with rfl | rfl | rfl | rfl | rfl | rfl | rfl | rfl
    · exact ⟨_, .var⟩
    · exact ⟨_, .op .add⟩
    · exact ⟨_, .op .subtract⟩
    · exact ⟨_, .op .multiply⟩
    · exact ⟨_, .op .divide⟩
    · exact ⟨_, .op .power⟩
    · exact ⟨_, .opening⟩
    · exact ⟨_, .closing⟩

end Token

/-! ## Numbers -/

namespace Decimal

theorem count_point_digits {ds : List Char} (h : ∀ c ∈ ds, c.isDigit = true) : ds.count '.' = 0 := by
  rw [List.count_eq_zero]
  intro hmem
  have := h _ hmem
  revert this
  decide

/-- A run of digits and points is made of digits only or has a first point. -/
theorem digits_or_point {cs : List Char} (h : ∀ c ∈ cs, isNumberChar c = true) :
    (∀ c ∈ cs, c.isDigit = true) ∨
      ∃ ds rest, cs = ds ++ '.' :: rest ∧ (∀ c ∈ ds, c.isDigit = true) ∧
        ∀ c ∈ rest, isNumberChar c = true := by
  by_cases hmem : '.' ∈ cs
  · obtain ⟨ds, rest, rfl, hds⟩ := List.eq_append_cons_of_mem hmem
    refine .inr ⟨ds, rest, rfl, fun c hc => ?_, fun c hc => h c (by simp [hc])⟩
    have hchar := h c (by simp [hc])
    simp only [isNumberChar, Bool.or_eq_true, beq_iff_eq] at hchar
    rcases hchar with hdigit | rfl
    · exact hdigit
    · exact absurd hc hds
  · refine .inl fun c hc => ?_
    have hchar := h c hc
    simp only [isNumberChar, Bool.or_eq_true, beq_iff_eq] at hchar
    rcases hchar with hdigit | rfl
    · exact hdigit
    · exact absurd hc hmem

/-- A run of digits and points is a number if it has a digit and no second point. -/
theorem Numeral.isSome_read? {cs : List Char} (h : ∀ c ∈ cs, isNumberChar c = true) :
    (read? cs).isSome = true ↔ (∃ c ∈ cs, c.isDigit = true) ∧ cs.count '.' ≤ 1 := by
  have hexists {ds : List Char} (hds : ∀ c ∈ ds, c.isDigit = true) :
      ds ≠ [] ↔ ∃ c ∈ ds, c.isDigit = true := by
    constructor
    · intro hne
      obtain ⟨c, hc⟩ := List.exists_mem_of_ne_nil ds hne
      exact ⟨c, hc, hds c hc⟩
    · rintro ⟨c, hc, -⟩
      exact List.ne_nil_of_mem hc
  rcases digits_or_point h with hds | ⟨ds, rest, rfl, hds, hrest⟩
  · rw [read?_digits hds, count_point_digits hds, ← hexists hds]
    simp [Numeral.digits]
  · rw [read?_point hds, List.count_append, List.count_cons_self, count_point_digits hds]
    rcases digits_or_point hrest with hfraction | ⟨fs, rest, rfl, hfs, -⟩
    · rw [List.takeWhile_eq_self_iff.mpr hfraction, List.dropWhile_eq_nil_iff.mpr hfraction,
        count_point_digits hfraction]
      have hall : ∀ c ∈ ds ++ rest, c.isDigit = true := by
        intro c hc
        exact (List.mem_append.mp hc).elim (hds c) (hfraction c)
      have hmem : (∃ c ∈ ds ++ '.' :: rest, c.isDigit = true) ↔ ds ++ rest ≠ [] := by
        rw [hexists hall]
        simp [or_and_right, exists_or, show Char.isDigit '.' = false by decide]
      rw [hmem]
      simp [Numeral.finish?, Numeral.digits]
    · -- a second point is no exponent mark
      rw [takeWhile_append hfs (stops_isDigit_point rest),
        dropWhile_append hfs (stops_isDigit_point rest)]
      simp [Numeral.finish?]

theorem toLower_of_isNumberChar {c : Char} (h : isNumberChar c = true) : c.toLower = c := by
  simp only [isNumberChar, Bool.or_eq_true, beq_iff_eq] at h
  rcases h with hdigit | rfl
  · have hn : 48 ≤ c.toNat ∧ c.toNat ≤ 57 := Char.isDigit_iff_toNat.mp hdigit
    refine dif_neg fun hupper => ?_
    have hA : 65 ≤ c.toNat := hupper.1
    omega
  · decide

/-- Without a letter or a sign a number can only be a numeral. -/
theorem ofText?_run {cs : List Char} (h : ∀ c ∈ cs, isNumberChar c = true) :
    ofText? (String.ofList cs) = (Numeral.read? cs).map fun n => n.toFloat false := by
  have hsign : splitSign cs = (false, cs) := by
    unfold splitSign
    split
    · exact absurd (h '-' (by simp)) (by decide)
    · exact absurd (h '+' (by simp)) (by decide)
    · rfl
  have hlower : cs.map Char.toLower = cs := by
    rw [List.map_congr_left fun c hc => toLower_of_isNumberChar (h c hc), List.map_id']
  have hname (name : String) (c : Char) (hc : c ∈ name.toList) (hno : isNumberChar c = false) :
      (String.ofList cs == name) = false := by
    rw [beq_eq_false_iff_ne]
    rintro rfl
    rw [String.toList_ofList] at hc
    rw [h c hc] at hno
    cases hno
  have hnamed : named? false cs = none := by
    rw [named?, hlower]
    simp only [hname "inf" 'i' (by decide) (by decide), hname "infinity" 'i' (by decide) (by decide),
      hname "nan" 'n' (by decide) (by decide)]
    rfl
  rw [ofText?, String.toList_ofList, ofChars?, hsign]
  dsimp only
  cases Numeral.read? cs with
  | some n => rfl
  | none => rw [hnamed]; rfl

end Decimal

/-! ## One token -/

namespace Cursor

theorem read_single {c : Char} {t : Token} (h : t.WrittenAs c) (rest : List Char) (p : Nat) :
    read ⟨c :: rest, p⟩ = (.ok (some t), ⟨rest, p + 1⟩) := by
  simp [read, Token.ofChar?_eq_some.mpr h]

/-- A character that begins no token is left where it is. -/
theorem read_unexpected {c : Char} (h : Token.ofChar? c = none) (hnumber : isNumberChar c = false)
    (rest : List Char) (p : Nat) :
    read ⟨c :: rest, p⟩ = (.error (.unexpectedChar c p), ⟨c :: rest, p⟩) := by
  simp [read, h, hnumber]

/-- A run of digits and points is read as a whole, whether it is a number or not. -/
theorem read_run {run rest : List Char} (hne : run ≠ []) (hrun : ∀ c ∈ run, isNumberChar c = true)
    (hrest : Stops isNumberChar rest) (p : Nat) :
    read ⟨run ++ rest, p⟩ =
      (match Decimal.ofText? (String.ofList run) with
        | some v => .ok (some (.number v))
        | none => .error (.invalidNumber (String.ofList run) p),
      ⟨rest, p + run.length⟩) := by
  have htake := takeWhile_append hrun hrest
  have hdrop := dropWhile_append hrun hrest
  obtain ⟨c, cs, rfl⟩ := List.exists_cons_of_ne_nil hne
  have hc := hrun c List.mem_cons_self
  have hno : Token.ofChar? c = none := by
    rw [Option.eq_none_iff_forall_ne_some]
    intro t ht
    have hapart := (Token.ofChar?_eq_some.mp ht).apart.2
    rw [hc] at hapart
    cases hapart
  rw [Decimal.ofText?_run hrun, List.cons_append, read]
  simp only [hno, hc, if_true, number, skip]
  rw [List.cons_append] at htake hdrop
  rw [htake, hdrop]
  cases Decimal.Numeral.read? (c :: cs) with
  | some n => rfl
  | none => rfl

theorem next_of_stops {cs : List Char} (h : Stops isBlank cs) (p : Nat) :
    next ⟨cs, p⟩ = read ⟨cs, p⟩ := by
  rw [next, skip, takeWhile_of_stops h, dropWhile_of_stops h]
  rfl

theorem next_blanks {bs : List Char} (h : ∀ c ∈ bs, isBlank c = true) (rest : List Char) (p : Nat) :
    next ⟨bs ++ rest, p⟩ = next ⟨rest, p + bs.length⟩ := by
  simp only [next, skip, List.dropWhile_append_of_pos h, List.takeWhile_append_of_pos h,
    List.length_append, Nat.add_assoc]

/-! ## All tokens -/

theorem tokens_eq (c : Cursor) :
    c.tokens =
      match c.next with
      | (.error e, _) => .error e
      | (.ok none, _) => .ok []
      | (.ok (some t), c') => c'.tokens.map (t :: ·) := by
  rw [tokens]
  split
  next h => rw [h]
  next h => rw [h]
  next h => simp only [h]

theorem tokens_nil (p : Nat) : tokens ⟨[], p⟩ = .ok [] := by
  rw [tokens_eq]
  rfl

/-- Blanks are passed over. -/
theorem tokens_blanks {bs : List Char} (h : ∀ c ∈ bs, isBlank c = true) (rest : List Char) (p : Nat) :
    tokens ⟨bs ++ rest, p⟩ = tokens ⟨rest, p + bs.length⟩ := by
  rw [tokens_eq, next_blanks h, ← tokens_eq]

theorem tokens_single {c : Char} {t : Token} (h : t.WrittenAs c) (rest : List Char) (p : Nat) :
    tokens ⟨c :: rest, p⟩ = (tokens ⟨rest, p + 1⟩).map (t :: ·) := by
  rw [tokens_eq, next_of_stops (stops_cons.mpr h.apart.1), read_single h]

theorem tokens_unexpected {c : Char} (h : Token.ofChar? c = none) (hblank : isBlank c = false)
    (hnumber : isNumberChar c = false) (rest : List Char) (p : Nat) :
    tokens ⟨c :: rest, p⟩ = .error (.unexpectedChar c p) := by
  rw [tokens_eq, next_of_stops (stops_cons.mpr hblank), read_unexpected h hnumber]

theorem tokens_run {run rest : List Char} (hne : run ≠ []) (hrun : ∀ c ∈ run, isNumberChar c = true)
    (hrest : Stops isNumberChar rest) (p : Nat) :
    tokens ⟨run ++ rest, p⟩ =
      match Decimal.ofText? (String.ofList run) with
      | some v => (tokens ⟨rest, p + run.length⟩).map (.number v :: ·)
      | none => .error (.invalidNumber (String.ofList run) p) := by
  have hstops : Stops isBlank (run ++ rest) := by
    obtain ⟨c, cs, rfl⟩ := List.exists_cons_of_ne_nil hne
    exact stops_cons.mpr (not_isBlank_of_isNumberChar (hrun c List.mem_cons_self))
  rw [tokens_eq, next_of_stops hstops, read_run hne hrun hrest]
  cases Decimal.ofText? (String.ofList run) with
  | some v => rfl
  | none => rfl

end Cursor

end Reckon
