import Reckon.Proofs.Expr.Pieces

/-!
# Answers one after the other

A cursor may be asked for the next token again and again, whatever it has answered. `Cursor.Call` says what one call
can do: pass over blanks to the end, over blanks and the piece that the answer names, or over blanks up to a character
that begins no token and is left where it is. The end and such a character are final: they are answered ever after
(`Cursor.Call.next_eq`). Any other call goes on by one character at least, so that there are no more of them than
characters (`Cursor.exists_final`).

`Cursor.after` is the place after a number of calls. It never lies behind the end of the text or before an earlier
one, and the calls from there on are those of a cursor that is put before the rest of the text (`Cursor.after_start`).
The tokens of a text are the answers up to the end, if no error is among them, and else the first error counts
(`Cursor.tokens_eq_ok_iff`, `Cursor.tokens_eq_error_iff`).
-/

namespace Reckon

open Text

namespace Cursor

/-! ## One call -/

/-- The answers after which nothing new comes: the end, and a character that begins no token. -/
inductive Final : Except LexError (Option Token) → Prop
  | ending : Final (.ok none)
  | unexpected (c : Char) (p : ℕ) : Final (.error (.unexpectedChar c p))

/-- What a call answers, and where it leaves the cursor. -/
inductive Call : Cursor → Except LexError (Option Token) → Cursor → Prop
  | ending {bs : List Char} {p : ℕ} (blank : ∀ c ∈ bs, isBlank c = true) :
      Call ⟨bs, p⟩ (.ok none) ⟨[], p + bs.length⟩
  | token {bs cs : List Char} {p : ℕ} (blank : ∀ c ∈ bs, isBlank c = true) {q : Piece} {t : Token}
      (spells : q.Spells t) (maximal : Stops q.prolonging cs) :
      Call ⟨bs ++ (q.chars ++ cs), p⟩ (.ok (some t)) ⟨cs, p + bs.length + q.chars.length⟩
  | invalid {bs run cs : List Char} {p : ℕ} (blank : ∀ c ∈ bs, isBlank c = true) (ne : run ≠ [])
      (maximal : Stops isNumberChar cs) :
      Call ⟨bs ++ (run ++ cs), p⟩ (.error (.invalidNumber (String.ofList run) (p + bs.length)))
        ⟨cs, p + bs.length + run.length⟩
  | unexpected {bs cs : List Char} {p : ℕ} (blank : ∀ c ∈ bs, isBlank c = true) {c : Char}
      (nonblank : isBlank c = false) (number : isNumberChar c = false) (none : Token.ofChar? c = none) :
      Call ⟨bs ++ c :: cs, p⟩ (.error (.unexpectedChar c (p + bs.length))) ⟨c :: cs, p + bs.length⟩

/-- From one place to the other lie blanks and then the lexeme, which begins at position `p`. -/
structure Passes (c c' : Cursor) (lexeme : List Char) (p : ℕ) : Prop where
  ne : lexeme ≠ []
  rest : ∃ bs, (∀ b ∈ bs, isBlank b = true) ∧ c.rest = bs ++ (lexeme ++ c'.rest) ∧ p = c.position + bs.length
  position : c'.position = p + lexeme.length

theorem call_next (c : Cursor) : Call c c.next.1 c.next.2 := by
  obtain ⟨cs, p⟩ := c
  have hblank : ∀ c ∈ cs.takeWhile isBlank, isBlank c = true := fun c hc => List.mem_takeWhile_imp hc
  have hstops := stops_dropWhile isBlank cs
  rw [← List.takeWhile_append_dropWhile (p := isBlank) (l := cs)]
  generalize cs.takeWhile isBlank = bs at hblank
  generalize cs.dropWhile isBlank = rest at hstops
  rw [next_blanks hblank, next_of_stops hstops]
  cases rest with
  | nil =>
      rw [List.append_nil]
      exact .ending hblank
  | cons ch rest =>
      cases ht : Token.ofChar? ch with
      | some t =>
          have hwritten := Token.ofChar?_eq_some.mp ht
          rw [read_single hwritten]
          exact .token (q := .single ch hwritten.apart.1 hwritten.apart.2) hblank (.single hwritten) fun _ _ => rfl
      | none =>
          by_cases hnumber : isNumberChar ch = true
          · have hall : ∀ d ∈ ch :: rest.takeWhile isNumberChar, isNumberChar d = true := fun d hd =>
              (List.mem_cons.mp hd).elim (· ▸ hnumber) List.mem_takeWhile_imp
            have hmaximal := stops_dropWhile isNumberChar rest
            have hrest : ch :: rest = (ch :: rest.takeWhile isNumberChar) ++ rest.dropWhile isNumberChar := by
              rw [List.cons_append, List.takeWhile_append_dropWhile]
            rw [hrest, read_run (List.cons_ne_nil _ _) hall hmaximal]
            cases hread : Decimal.ofText? (String.ofList (ch :: rest.takeWhile isNumberChar)) with
            | some v => exact .token (q := .run _ (List.cons_ne_nil _ _) hall) hblank (.run hread) hmaximal
            | none => exact .invalid hblank (List.cons_ne_nil _ _) hmaximal
          · rw [Bool.not_eq_true] at hnumber
            rw [read_unexpected ht hnumber]
            exact .unexpected hblank (stops_cons.mp hstops) hnumber ht

namespace Call

variable {c c' : Cursor} {a : Except LexError (Option Token)}

/-- A final answer is given again. -/
theorem next_eq (h : Call c a c') (ha : Final a) : c'.next = (a, c') := by
  cases h with
  | ending blank => rfl
  | token | invalid => cases ha
  | unexpected blank nonblank number hnone =>
      rw [next_of_stops (stops_cons.mpr nonblank), read_unexpected hnone number]

/-- What a call passes over is a part of the rest, and counted. -/
theorem exists_passed (h : Call c a c') :
    ∃ cs, c.rest = cs ++ c'.rest ∧ c'.position = c.position + cs.length ∧ (cs = [] → Final a) := by
  cases h with
  | @ending bs p blank => exact ⟨bs, (List.append_nil bs).symm, rfl, fun _ => .ending⟩
  | @token bs cs p blank q t spells maximal =>
      refine ⟨bs ++ q.chars, (List.append_assoc ..).symm, ?_, fun h => ?_⟩
      · rw [List.length_append, ← Nat.add_assoc]
      · exact absurd (List.append_eq_nil_iff.mp h).2 q.chars_ne_nil
  | @invalid bs run cs p blank ne maximal =>
      refine ⟨bs ++ run, (List.append_assoc ..).symm, ?_, fun h => ?_⟩
      · rw [List.length_append, ← Nat.add_assoc]
      · exact absurd (List.append_eq_nil_iff.mp h).2 ne
  | @unexpected bs cs p blank ch nonblank number hnone => exact ⟨bs, rfl, rfl, fun _ => .unexpected ch _⟩

/-- A token is passed over as a whole. -/
theorem passes_token {t : Token} (h : Call c (.ok (some t)) c') :
    ∃ (q : Piece) (p : ℕ), q.Spells t ∧ Passes c c' q.chars p ∧ Stops q.prolonging c'.rest := by
  cases h with
  | @token bs cs p blank q t spells maximal =>
      exact ⟨q, _, spells, ⟨q.chars_ne_nil, ⟨bs, blank, rfl, rfl⟩, rfl⟩, maximal⟩

/-- So is a run of digits and points that is no number. -/
theorem passes_invalid {literal : String} {p : ℕ} (h : Call c (.error (.invalidNumber literal p)) c') :
    Passes c c' literal.toList p ∧ Stops isNumberChar c'.rest := by
  cases h with
  | @invalid bs run cs p blank ne maximal =>
      refine ⟨⟨?_, ⟨bs, blank, ?_, rfl⟩, ?_⟩, maximal⟩
      · rwa [String.toList_ofList]
      · rw [String.toList_ofList]
      · rw [String.toList_ofList]

end Call

/-! ## Many calls -/

/-- The place after a number of calls. -/
def after (c : Cursor) : ℕ → Cursor
  | 0 => c
  | n + 1 => (c.after n).next.2

/-- The answer to the next call after a number of calls. -/
def answer (c : Cursor) (n : ℕ) : Except LexError (Option Token) :=
  (c.after n).next.1

theorem call_after (c : Cursor) (n : ℕ) : Call (c.after n) (c.answer n) (c.after (n + 1)) :=
  call_next (c.after n)

theorem after_succ (c : Cursor) (n : ℕ) : c.after (n + 1) = c.next.2.after n := by
  induction n with
  | zero => rfl
  | succ n ih => rw [after, ih, after]

theorem after_add (c : Cursor) (k m : ℕ) : c.after (k + m) = (c.after k).after m := by
  induction m with
  | zero => rfl
  | succ m ih => rw [← Nat.add_assoc, after, ih, after]

theorem nexts_eq (c : Cursor) (n : ℕ) : c.nexts n = (List.range n).map c.answer := by
  induction n generalizing c with
  | zero => rfl
  | succ n ih =>
      rw [nexts, ih, List.range_succ_eq_map, List.map_cons, List.map_map]
      congr 1
      apply List.map_congr_left
      intro k _
      exact congrArg (·.next.1) (c.after_succ k).symm

theorem position_le_after (c : Cursor) {j k : ℕ} (h : j ≤ k) : (c.after j).position ≤ (c.after k).position := by
  induction h with
  | refl => exact Nat.le_refl _
  | @step k h ih =>
      obtain ⟨cs, -, hposition, -⟩ := (c.call_after k).exists_passed
      rw [Nat.succ_eq_add_one, hposition]
      exact Nat.le_add_right_of_le ih

/-- After a final answer the cursor stays where it is and gives this answer again. -/
theorem after_of_final {c : Cursor} {k : ℕ} (h : Final (c.answer k)) (d : ℕ) :
    c.after (k + 1 + d) = c.after (k + 1) ∧ c.answer (k + 1 + d) = c.answer k := by
  have hnext := (c.call_after k).next_eq h
  induction d with
  | zero => exact ⟨rfl, congrArg Prod.fst hnext⟩
  | succ d ih =>
      have hafter : c.after (k + 1 + (d + 1)) = c.after (k + 1) := by
        show (c.after (k + 1 + d)).next.2 = _
        rw [ih.1, hnext]
      refine ⟨hafter, ?_⟩
      rw [answer, hafter, hnext]

theorem answer_of_final {c : Cursor} {k m : ℕ} (h : Final (c.answer k)) (hkm : k ≤ m) : c.answer m = c.answer k := by
  rcases Nat.eq_or_lt_of_le hkm with rfl | hlt
  · rfl
  · obtain ⟨d, rfl⟩ := Nat.exists_eq_add_of_le hlt
    exact (after_of_final h d).2

/-- As long as no answer is final, each call passes over a character. -/
theorem le_position_after {c : Cursor} {k : ℕ} (h : ∀ j < k, ¬Final (c.answer j)) : k ≤ (c.after k).position := by
  induction k with
  | zero => exact Nat.zero_le _
  | succ k ih =>
      obtain ⟨cs, -, hposition, hfinal⟩ := (c.call_after k).exists_passed
      have hpos := List.length_pos_of_ne_nil (mt hfinal (h k (Nat.lt_succ_self k)))
      have := ih fun j hj => h j (Nat.lt_succ_of_lt hj)
      omega

/-- The cursor stands in the text, before the rest of it. -/
theorem after_start (s : String) (k : ℕ) :
    ((start s).after k).position ≤ s.length ∧
      ((start s).after k).rest = s.toList.drop ((start s).after k).position := by
  induction k with
  | zero => exact ⟨Nat.zero_le _, rfl⟩
  | succ k ih =>
      obtain ⟨cs, hrest, hposition, -⟩ := ((start s).call_after k).exists_passed
      obtain ⟨hle, hdrop⟩ := ih
      rw [hdrop] at hrest
      have hlength := congrArg List.length hrest
      rw [List.length_drop, List.length_append, String.length_toList] at hlength
      refine ⟨by omega, ?_⟩
      rw [hposition, ← List.drop_drop, hrest, List.drop_left]

theorem exists_final (s : String) : ∃ k ≤ s.length, Final ((start s).answer k) := by
  by_contra hnone
  have hgoes : ∀ j < s.length + 1, ¬Final ((start s).answer j) := fun j hj hfinal =>
    hnone ⟨j, Nat.le_of_lt_succ hj, hfinal⟩
  have hlow := le_position_after hgoes
  have hhigh := (after_start s (s.length + 1)).1
  omega

/-! ## All tokens -/

/-- The first answers are these tokens, and the next one is `last`. -/
def Answers (c : Cursor) (ts : List Token) (last : Except LexError (Option Token)) : Prop :=
  c.nexts (ts.length + 1) = ts.map (fun t => .ok (some t)) ++ [last]

theorem answers_nil {c : Cursor} {last : Except LexError (Option Token)} : c.Answers [] last ↔ c.next.1 = last := by
  simp [Answers, nexts]

theorem answers_cons {c : Cursor} {t : Token} {ts : List Token} {last : Except LexError (Option Token)} :
    c.Answers (t :: ts) last ↔ c.next.1 = .ok (some t) ∧ c.next.2.Answers ts last := by
  simp [Answers, nexts]

theorem answers_of_tokens (c : Cursor) :
    match c.tokens with
    | .ok ts => c.Answers ts (.ok none)
    | .error e => ∃ ts, c.Answers ts (.error e) := by
  fun_induction tokens c with
  | case1 c e c' h => exact ⟨[], answers_nil.mpr (congrArg Prod.fst h)⟩
  | case2 c c' h => exact answers_nil.mpr (congrArg Prod.fst h)
  | case3 c t c' h hlt ih =>
      have hfirst {ts : List Token} {last : Except LexError (Option Token)} (hts : c'.Answers ts last) :
          c.Answers (t :: ts) last := by
        refine answers_cons.mpr ⟨congrArg Prod.fst h, ?_⟩
        rw [h]
        exact hts
      cases htokens : c'.tokens with
      | ok ts =>
          rw [htokens] at ih
          exact hfirst ih
      | error e =>
          rw [htokens] at ih
          obtain ⟨ts, hts⟩ := ih
          exact ⟨t :: ts, hfirst hts⟩

/-- The first answer that is no token decides what the tokens are. -/
theorem tokens_of_answers {c : Cursor} {ts : List Token} {last : Except LexError (Option Token)}
    (h : c.Answers ts last) (hlast : ∀ t, last ≠ .ok (some t)) : c.tokens = last.map fun _ => ts := by
  induction ts generalizing c with
  | nil =>
      have hnext := answers_nil.mp h
      rw [tokens_eq]
      split
      next e c' he =>
        rw [← hnext, he]
        rfl
      next c' he =>
        rw [← hnext, he]
        rfl
      next t c' he => exact absurd (hnext.symm.trans (congrArg Prod.fst he)) (hlast t)
  | cons t ts ih =>
      obtain ⟨hnext, hrest⟩ := answers_cons.mp h
      have hc : c.next = (.ok (some t), c.next.2) := by rw [← hnext]
      rw [tokens_eq, hc]
      dsimp only
      rw [ih hrest]
      cases last <;> rfl

theorem tokens_eq_ok_iff {c : Cursor} {ts : List Token} : c.tokens = .ok ts ↔ c.Answers ts (.ok none) := by
  constructor
  · intro h
    have hanswers := c.answers_of_tokens
    rwa [h] at hanswers
  · intro h
    exact tokens_of_answers h nofun

theorem tokens_eq_error_iff {c : Cursor} {e : LexError} : c.tokens = .error e ↔ ∃ ts, c.Answers ts (.error e) := by
  constructor
  · intro h
    have hanswers := c.answers_of_tokens
    rwa [h] at hanswers
  · rintro ⟨ts, h⟩
    exact tokens_of_answers h nofun

end Cursor

/-! ## The headline theorem -/

section

open Cursor

variable (s : String)

/-- **The answers of a cursor go on and come to rest.** A cursor that is asked again and again never goes back and
stays in the text, and after any number of calls all further ones are those of a cursor before the rest of the text. A
call that finds a token, or a whole run of digits and points that is no number, passes over what it names. The end,
and a character that begins no token, are answered ever after, and one of the two is reached after at most as many
calls as there are characters. The tokens of the text are the answers up to the end, without an error before it, and
else the first error counts. -/
theorem answers_progress :
    (∀ n, (start s).nexts n = (List.range n).map (start s).answer) ∧
    (∀ j k, j ≤ k → ((start s).after j).position ≤ ((start s).after k).position) ∧
    (∀ k, ((start s).after k).position ≤ s.length ∧
      ∀ m, (start s).after (k + m) =
        after ⟨s.toList.drop ((start s).after k).position, ((start s).after k).position⟩ m) ∧
    (∀ k t, (start s).answer k = .ok (some t) →
      ∃ (q : Piece) (p : ℕ), q.Spells t ∧ Passes ((start s).after k) ((start s).after (k + 1)) q.chars p ∧
        Stops q.prolonging ((start s).after (k + 1)).rest) ∧
    (∀ k literal p, (start s).answer k = .error (.invalidNumber literal p) →
      Passes ((start s).after k) ((start s).after (k + 1)) literal.toList p ∧
        Stops isNumberChar ((start s).after (k + 1)).rest) ∧
    (∀ k m, Final ((start s).answer k) → k ≤ m → (start s).answer m = (start s).answer k) ∧
    (∃ k ≤ s.length, Final ((start s).answer k)) ∧
    (∀ ts, tokenize s = .ok ts ↔ (start s).Answers ts (.ok none)) ∧
    ∀ e, tokenize s = .error e ↔ ∃ ts, (start s).Answers ts (.error e) := by
  refine ⟨(start s).nexts_eq, fun j k h => (start s).position_le_after h,
    fun k => ⟨(after_start s k).1, fun m => ?_⟩, fun k t h => ?_, fun k literal p h => ?_,
    fun k m h hkm => answer_of_final h hkm, exists_final s, fun ts => tokens_eq_ok_iff,
    fun e => tokens_eq_error_iff⟩
  · rw [after_add, ← (after_start s k).2]
  · exact (h ▸ (start s).call_after k).passes_token
  · exact (h ▸ (start s).call_after k).passes_invalid

/-- `x 4..2$ `: the run is passed over as a whole, and no call gets beyond the character behind it. -/
theorem answers_progress_unexpected :
    Passes ⟨" 4..2$ ".toList, 1⟩ ⟨"$ ".toList, 6⟩ "4..2".toList 2 ∧
    ∀ m, 2 ≤ m → (start "x 4..2$ ").answer m = .error (.unexpectedChar '$' 6) := by
  obtain ⟨-, -, -, -, hinvalid, hfinal, -⟩ := answers_progress "x 4..2$ "
  have hsecond : (start "x 4..2$ ").answer 1 = .error (.invalidNumber "4..2" 2) := by decide +kernel
  have hthird : (start "x 4..2$ ").answer 2 = .error (.unexpectedChar '$' 6) := by decide +kernel
  refine ⟨(hinvalid 1 _ _ hsecond).1, fun m hm => ?_⟩
  rw [hfinal 2 m (hthird ▸ .unexpected _ _) hm, hthird]

end

end Reckon
