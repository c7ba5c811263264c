import Mathlib.Data.List.Forall2
import Reckon.Proofs.Attempt
import Reckon.Proofs.Expr.Scanning

/-!
# The pieces of a text

A text is cut, from left to right, into runs of blanks, runs of digits and points, and single other
characters. `Decomposes cs ps` says that the pieces `ps` are such a cut of `cs` in which what follows a
piece cannot prolong it; there is exactly one (`exists_decomposes`, `Decomposes.unique`).

The lexer reads a text piece by piece. `Cursor.tokens_piece` says this of one piece before a text that does
not prolong it, `Cursor.tokens_append` of any text before another one, and `Decomposes.scanned` of all pieces
of a text: it is read if every piece is readable, to one token for each piece that is not blank, and
otherwise refused at the leftmost piece that is not readable.
-/

namespace Reckon

open Text

/-- A piece of a text. -/
inductive Piece where
  | blanks (cs : List Char) (ne : cs ≠ []) (all : ∀ c ∈ cs, isBlank c = true)
  | run (cs : List Char) (ne : cs ≠ []) (all : ∀ c ∈ cs, isNumberChar c = true)
  | single (c : Char) (blank : isBlank c = false) (number : isNumberChar c = false)

namespace Piece

def chars : Piece → List Char
  | blanks cs _ _ | run cs _ _ => cs
  | single c _ _ => [c]

def isBlanks : Piece → Bool
  | blanks .. => true
  | run .. | single .. => false

/-- The characters that prolong a piece. -/
def prolonging : Piece → Char → Bool
  | blanks .. => isBlank
  | run .. => isNumberChar
  | single .. => fun _ => false

theorem chars_ne_nil (q : Piece) : q.chars ≠ [] := by
  cases q with
  | blanks cs ne all => exact ne
  | run cs ne all => exact ne
  | single c blank number => exact List.cons_ne_nil c []

/-- The piece that a text begins with. -/
def first (c : Char) (cs : List Char) : Piece :=
  if hblank : isBlank c = true then
    blanks (c :: cs.takeWhile isBlank) (List.cons_ne_nil _ _) fun _ hd =>
      (List.mem_cons.mp hd).elim (· ▸ hblank) List.mem_takeWhile_imp
  else if hnumber : isNumberChar c = true then
    run (c :: cs.takeWhile isNumberChar) (List.cons_ne_nil _ _) fun _ hd =>
      (List.mem_cons.mp hd).elim (· ▸ hnumber) List.mem_takeWhile_imp
  else single c (Bool.not_eq_true _ ▸ hblank) (Bool.not_eq_true _ ▸ hnumber)

theorem exists_chars_first (c : Char) (cs : List Char) :
    ∃ rest, c :: cs = (first c cs).chars ++ rest ∧ Stops (first c cs).prolonging rest := by
  unfold first
  split
  · refine ⟨cs.dropWhile isBlank, ?_, stops_dropWhile isBlank cs⟩
    rw [chars, List.cons_append, List.takeWhile_append_dropWhile]
  · split
    · refine ⟨cs.dropWhile isNumberChar, ?_, stops_dropWhile isNumberChar cs⟩
      rw [chars, List.cons_append, List.takeWhile_append_dropWhile]
    · exact ⟨cs, rfl, fun _ _ => rfl⟩

/-- A piece that is not prolonged is the first one. -/
theorem first_eq {q : Piece} {rest cs : List Char} {c : Char} (h : q.chars ++ rest = c :: cs)
    (hrest : Stops q.prolonging rest) : first c cs = q := by
  cases q with
  | blanks bs ne all =>
      have htake : (c :: cs).takeWhile isBlank = bs := h ▸ takeWhile_append all hrest
      obtain ⟨b, bs, rfl⟩ := List.exists_cons_of_ne_nil ne
      obtain ⟨rfl, -⟩ := List.cons.inj h
      have hb := all b List.mem_cons_self
      rw [List.takeWhile_cons_of_pos hb] at htake
      simp only [first, hb, htake, dite_true]
  | run ds ne all =>
      have htake : (c :: cs).takeWhile isNumberChar = ds := h ▸ takeWhile_append all hrest
      obtain ⟨d, ds, rfl⟩ := List.exists_cons_of_ne_nil ne
      obtain ⟨rfl, -⟩ := List.cons.inj h
      have hd := all d List.mem_cons_self
      rw [List.takeWhile_cons_of_pos hd] at htake
      simp only [first, not_isBlank_of_isNumberChar hd, hd, htake, Bool.false_eq_true, dite_true, dite_false]
  | single d blank number =>
      obtain ⟨rfl, -⟩ := List.cons.inj h
      simp only [first, blank, number, Bool.false_eq_true, dite_false]

end Piece

/-! ## The one decomposition -/

/-- The pieces of a text, each of them as long as it can be. -/
inductive Decomposes : List Char → List Piece → Prop
  | nil : Decomposes [] []
  | cons {cs : List Char} {ps : List Piece} (q : Piece) (h : Decomposes cs ps)
      (maximal : Stops q.prolonging cs) : Decomposes (q.chars ++ cs) (q :: ps)

theorem exists_decomposes (cs : List Char) : ∃ ps, Decomposes cs ps := by
  induction hn : cs.length using Nat.strong_induction_on generalizing cs with
  | _ n ih =>
      cases cs with
      | nil => exact ⟨[], .nil⟩
      | cons c cs =>
          obtain ⟨rest, hchars, hstops⟩ := Piece.exists_chars_first c cs
          have hlt : rest.length < n := by
            have hpos := List.length_pos_of_ne_nil (Piece.first c cs).chars_ne_nil
            rw [← hn, hchars, List.length_append]
            omega
          obtain ⟨ps, hps⟩ := ih rest.length hlt rest rfl
          exact ⟨Piece.first c cs :: ps, hchars ▸ .cons _ hps hstops⟩

theorem Decomposes.unique {cs : List Char} {ps qs : List Piece} (h : Decomposes cs ps)
    (h' : Decomposes cs qs) : ps = qs := by
  induction h generalizing qs with
  | nil =>
      generalize hcs : ([] : List Char) = cs at h'
      cases h' with
      | nil => rfl
      | cons q _ _ => exact absurd (List.append_eq_nil_iff.mp hcs.symm).1 q.chars_ne_nil
  | @cons cs ps q h hmax ih =>
      generalize htext : q.chars ++ cs = text at h'
      cases h' with
      | nil => exact absurd (List.append_eq_nil_iff.mp htext).1 q.chars_ne_nil
      | @cons cs' qs q' h' hmax' =>
          obtain ⟨c, rest, hc⟩ := List.exists_cons_of_ne_nil
            (List.append_ne_nil_of_left_ne_nil q.chars_ne_nil cs)
          have hq := Piece.first_eq hc hmax
          have hq' := Piece.first_eq (htext ▸ hc) hmax'
          obtain rfl : q = q' := hq.symm.trans hq'
          obtain rfl := List.append_cancel_left htext
          rw [ih h']

/-! ## Reading piece by piece -/

/-- No run of digits and points goes on from one text to the other. -/
def Apart (a b : List Char) : Prop :=
  (∀ c ∈ a.getLast?, isNumberChar c = false) ∨ Stops isNumberChar b

theorem Piece.apart {q : Piece} {cs : List Char} (h : Stops q.prolonging cs) : Apart q.chars cs := by
  cases q with
  | blanks bs ne all =>
      refine .inl fun c hc => isNumberChar_of_isBlank (all c ?_)
      exact List.mem_of_getLast? hc
  | run ds ne all => exact .inr h
  | single c blank number =>
      refine .inl fun d hd => ?_
      cases hd
      exact number

namespace Piece

/-- What the lexer makes of a piece at a position. -/
def read (p : Nat) : Piece → Except LexError (List Token)
  | blanks .. => .ok []
  | run cs _ _ =>
    match Decimal.ofText? (String.ofList cs) with
    | some v => .ok [.number v]
    | none => .error (.invalidNumber (String.ofList cs) p)
  | single c _ _ =>
    match Token.ofChar? c with
    | some t => .ok [t]
    | none => .error (.unexpectedChar c p)

end Piece

namespace Cursor

theorem tokens_piece (q : Piece) {rest : List Char} (h : Apart q.chars rest) (p : Nat) :
    tokens ⟨q.chars ++ rest, p⟩ = do
      let ts ← q.read p
      let us ← tokens ⟨rest, p + q.chars.length⟩
      return ts ++ us := by
  cases q with
  | blanks bs ne all =>
      rw [Piece.chars, tokens_blanks all, Piece.read]
      cases tokens ⟨rest, p + bs.length⟩ <;> rfl
  | run ds ne all =>
      have hrest : Stops isNumberChar rest := by
        refine h.resolve_left fun hlast => ?_
        have hmem := List.getLast?_eq_some_getLast ne
        have hno := hlast _ hmem
        rw [all _ (List.getLast_mem ne)] at hno
        cases hno
      rw [Piece.chars, tokens_run ne all hrest, Piece.read]
      cases Decimal.ofText? (String.ofList ds) with
      | none => rfl
      | some v => cases tokens ⟨rest, p + ds.length⟩ <;> rfl
  | single c blank number =>
      rw [Piece.chars, Piece.read, List.singleton_append]
      cases hc : Token.ofChar? c with
      | none =>
          rw [tokens_unexpected hc blank number]
          rfl
      | some t =>
          rw [tokens_single (Token.ofChar?_eq_some.mp hc)]
          show _ = (tokens ⟨rest, p + 1⟩ >>= fun us => pure ([t] ++ us))
          cases tokens ⟨rest, p + 1⟩ <;> rfl

theorem tokens_chars (q : Piece) (p : Nat) : tokens ⟨q.chars, p⟩ = q.read p := by
  have hpiece := tokens_piece q (.inr (stops_nil isNumberChar)) p
  rw [List.append_nil, tokens_nil] at hpiece
  rw [hpiece]
  cases q.read p with
  | error e => rfl
  | ok ts => exact congrArg Except.ok (List.append_nil ts)

/-- A text is read before another one as it is read alone. -/
theorem tokens_append {a b : List Char} (h : Apart a b) (p : Nat) :
    tokens ⟨a ++ b, p⟩ = do
      let ts ← tokens ⟨a, p⟩
      let us ← tokens ⟨b, p + a.length⟩
      return ts ++ us := by
  obtain ⟨ps, hps⟩ := exists_decomposes a
  induction hps generalizing p with
  | nil =>
      rw [tokens_nil, List.nil_append, List.length_nil, Nat.add_zero]
      cases tokens ⟨b, p⟩ <;> rfl
  | @cons cs ps q hps hmax ih =>
      have htail : Apart cs b := by
        refine h.imp_left fun hlast c hc => hlast c ?_
        rw [List.getLast?_append, Option.mem_def.mp hc]
        rfl
      have hseam : Apart q.chars (cs ++ b) := by
        cases cs with
        | nil => rwa [List.append_nil] at h
        | cons c cs => exact Piece.apart (stops_cons.mpr (stops_cons.mp hmax))
      rw [List.append_assoc, tokens_piece q hseam, tokens_piece q (Piece.apart hmax), ih htail,
        List.length_append, ← Nat.add_assoc]
      simp only [bind_assoc, pure_bind, List.append_assoc]

end Cursor

/-! ## Reading from another position -/

/-- The same error where the text lies `k` characters further on. -/
def LexError.shift (k : Nat) : LexError → LexError
  | unexpectedChar c p => unexpectedChar c (p + k)
  | invalidNumber l p => invalidNumber l (p + k)

theorem Piece.read_add (q : Piece) (p k : Nat) :
    q.read (p + k) = (q.read p).mapError (·.shift k) := by
  cases q with
  | blanks cs ne all => rfl
  | run cs ne all =>
      rw [read, read]
      cases Decimal.ofText? (String.ofList cs) <;> rfl
  | single c blank number =>
      rw [read, read]
      cases Token.ofChar? c <;> rfl

/-- Where a text lies plays no role but in the errors. -/
theorem Cursor.tokens_add (cs : List Char) (p k : Nat) :
    tokens ⟨cs, p + k⟩ = (tokens ⟨cs, p⟩).mapError (·.shift k) := by
  obtain ⟨ps, hps⟩ := exists_decomposes cs
  induction hps generalizing p with
  | nil =>
      rw [tokens_nil, tokens_nil]
      rfl
  | @cons cs ps q hps hmax ih =>
      rw [tokens_piece q (Piece.apart hmax), tokens_piece q (Piece.apart hmax), q.read_add,
        Nat.add_right_comm, ih, mapError_bind]
      congr 1
      funext ts
      rw [mapError_bind]
      rfl

/-- Two texts are read behind each other as each is read alone. -/
theorem tokenize_append_apart {a b : String} (h : Apart a.toList b.toList) :
    tokenize (a ++ b) = do
      let ts ← tokenize a
      let us ← (tokenize b).mapError (·.shift a.length)
      return ts ++ us := by
  have hshift : Cursor.tokens ⟨b.toList, 0 + a.toList.length⟩ = (tokenize b).mapError (·.shift a.length) := by
    rw [Cursor.tokens_add, String.length_toList]
    rfl
  rw [tokenize, Cursor.start, String.toList_append, Cursor.tokens_append h, hshift]
  rfl

/-! ## Readable pieces -/

namespace Piece

/-- Blanks, the characters of an expression, and runs with a digit and no second point. -/
def Readable : Piece → Prop
  | blanks .. => True
  | run cs _ _ => (∃ c ∈ cs, c.isDigit = true) ∧ cs.count '.' ≤ 1
  | single c _ _ => c ∈ ['x', '+', '-', '*', '/', '^', '(', ')']

instance : DecidablePred Readable
  | blanks .. => inferInstanceAs (Decidable True)
  | run cs _ _ =>
    decidable_of_iff (cs.any Char.isDigit = true ∧ cs.count '.' ≤ 1)
      (and_congr_left fun _ => List.any_eq_true)
  | single c _ _ => inferInstanceAs (Decidable (c ∈ ['x', '+', '-', '*', '/', '^', '(', ')']))

/-- The token that a piece is. -/
inductive Spells : Piece → Token → Prop
  | run {cs ne all v} (h : Decimal.ofText? (String.ofList cs) = some v) :
      Spells (.run cs ne all) (.number v)
  | single {c blank number t} (h : t.WrittenAs c) : Spells (.single c blank number) t

/-- The error that names a piece and its position. -/
inductive Refused (p : Nat) : Piece → LexError → Prop
  | run {cs ne all} : Refused p (.run cs ne all) (.invalidNumber (String.ofList cs) p)
  | single {c blank number} : Refused p (.single c blank number) (.unexpectedChar c p)

end Piece

/-- What the pieces `ps` from a position on are read as. -/
inductive Scanned (p : Nat) (ps : List Piece) : Except LexError (List Token) → Prop
  | accepted {ts : List Token} (readable : ∀ q ∈ ps, q.Readable)
      (spells : List.Forall₂ Piece.Spells (ps.filter (!·.isBlanks)) ts) : Scanned p ps (.ok ts)
  | refused {e : LexError} (us : List Piece) (q : Piece) (vs : List Piece) (split : ps = us ++ q :: vs)
      (readable : ∀ r ∈ us, r.Readable) (unreadable : ¬q.Readable)
      (names : q.Refused (p + (us.flatMap Piece.chars).length) e) : Scanned p ps (.error e)

namespace Piece

theorem scanned_read (q : Piece) (p : Nat) : Scanned p [q] (q.read p) := by
  have haccepted {ts : List Token} (hq : q.Readable)
      (hts : List.Forall₂ Spells ([q].filter (!·.isBlanks)) ts) : Scanned p [q] (.ok ts) :=
    .accepted (by simpa using hq) hts
  have hrefused {e : LexError} (hq : ¬q.Readable) (he : q.Refused p e) : Scanned p [q] (.error e) :=
    .refused [] q [] rfl nofun hq he
  cases q with
  | blanks bs ne all => exact haccepted trivial .nil
  | run ds ne all =>
      have hiff := Decimal.Numeral.isSome_read? all
      rw [← Option.isSome_map (f := fun n : Decimal.Numeral => n.toFloat false),
        ← Decimal.ofText?_run all] at hiff
      rw [read]
      cases hv : Decimal.ofText? (String.ofList ds) with
      | some v =>
          rw [hv] at hiff
          exact haccepted (hiff.mp rfl) (.cons (.run hv) .nil)
      | none =>
          rw [hv] at hiff
          exact hrefused (fun h => nomatch hiff.mpr h) .run
  | single c blank number =>
      rw [read]
      cases hc : Token.ofChar? c with
      | some t =>
          have ht := Token.ofChar?_eq_some.mp hc
          exact haccepted (Token.exists_writtenAs.mp ⟨t, ht⟩) (.cons (.single ht) .nil)
      | none =>
          refine hrefused (fun h => ?_) .single
          obtain ⟨t, ht⟩ := Token.exists_writtenAs.mpr h
          rw [Token.ofChar?_eq_some.mpr ht] at hc
          cases hc

end Piece

theorem Scanned.cons {p : Nat} {q : Piece} {ps : List Piece} {a b : Except LexError (List Token)}
    (ha : Scanned p [q] a) (hb : Scanned (p + q.chars.length) ps b) :
    Scanned p (q :: ps) (do
      let ts ← a
      let us ← b
      return ts ++ us) := by
  cases ha with
  | refused us r vs split readable unreadable names =>
      obtain ⟨rfl, hq⟩ | ⟨-, hnil⟩ := List.singleton_eq_append_iff.mp split
      · cases hq
        exact .refused [] q ps rfl nofun unreadable names
      · cases hnil
  | @accepted ts hq hts =>
      have hqr : q.Readable := hq q List.mem_cons_self
      cases hb with
      | @accepted us hus husp =>
          have hspells : List.Forall₂ Piece.Spells
              ([q].filter (!·.isBlanks) ++ ps.filter (!·.isBlanks)) (ts ++ us) :=
            List.rel_append hts husp
          rw [← List.filter_append, List.singleton_append] at hspells
          exact .accepted (List.forall_mem_cons.mpr ⟨hqr, hus⟩) hspells
      | refused us r vs split readable unreadable names =>
          refine .refused (q :: us) r vs (by rw [split]; rfl)
            (List.forall_mem_cons.mpr ⟨hqr, readable⟩) unreadable ?_
          rwa [List.flatMap_cons, List.length_append, ← Nat.add_assoc]

theorem Decomposes.scanned {cs : List Char} {ps : List Piece} (h : Decomposes cs ps) (p : Nat) :
    Scanned p ps (Cursor.tokens ⟨cs, p⟩) := by
  induction h generalizing p with
  | nil =>
      rw [Cursor.tokens_nil]
      exact .accepted nofun .nil
  | cons q h hmax ih =>
      rw [Cursor.tokens_piece q (Piece.apart hmax)]
      exact (q.scanned_read p).cons (ih _)

theorem Decomposes.flatMap_chars {cs : List Char} {ps : List Piece} (h : Decomposes cs ps) :
    ps.flatMap Piece.chars = cs := by
  induction h with
  | nil => rfl
  | cons q h hmax ih => rw [List.flatMap_cons, ih]

/-! ## The headline theorem -/

/-- **A text is read piece by piece.** It has one decomposition into pieces. It is read if each of them is
readable, and then to the tokens that the pieces spell, blanks apart; else it is refused with the leftmost
piece that is not readable and the number of characters before this piece. -/
theorem tokenize_pieces (s : String) :
    (∃! ps, Decomposes s.toList ps) ∧
    ∀ ps, Decomposes s.toList ps →
      ps.flatMap Piece.chars = s.toList ∧
      ((∃ ts, tokenize s = .ok ts) ↔ ∀ q ∈ ps, q.Readable) ∧
      (∀ ts, tokenize s = .ok ts → List.Forall₂ Piece.Spells (ps.filter (!·.isBlanks)) ts) ∧
      ∀ e, tokenize s = .error e →
        ∃ us q vs, ps = us ++ q :: vs ∧ (∀ r ∈ us, r.Readable) ∧ ¬q.Readable ∧
          q.Refused (us.flatMap Piece.chars).length e := by
  refine ⟨?_, fun ps hps => ⟨hps.flatMap_chars, ?_⟩⟩
  · obtain ⟨ps, hps⟩ := exists_decomposes s.toList
    exact ⟨ps, hps, fun qs hqs => hqs.unique hps⟩
  · have hscanned : Scanned 0 ps (tokenize s) := hps.scanned 0
    cases ht : tokenize s with
    | ok ts =>
        rw [ht] at hscanned
        cases hscanned with
        | accepted readable spells =>
            refine ⟨⟨fun _ => readable, fun _ => ⟨ts, rfl⟩⟩, fun us hus => ?_, nofun⟩
            cases hus
            exact spells
    | error e =>
        rw [ht] at hscanned
        cases hscanned with
        | refused us q vs split readable unreadable names =>
            rw [Nat.zero_add] at names
            refine ⟨⟨nofun, fun hall => ?_⟩, nofun, fun e' he' => ?_⟩
            · exact absurd (hall q (by rw [split]; simp)) unreadable
            · cases he'
              exact ⟨us, q, vs, split, readable, unreadable, names⟩

/-- `x 4..2`: the whole run is refused, at the character with which it begins. -/
theorem tokenize_second_point :
    Decomposes "x 4..2".toList
      [.single 'x' rfl rfl, .blanks [' '] nofun (List.all_eq_true.mp rfl),
        .run ['4', '.', '.', '2'] nofun (List.all_eq_true.mp rfl)] ∧
    tokenize "x 4..2" = .error (.invalidNumber "4..2" 2) := by
  have hps : Decomposes "x 4..2".toList
      [.single 'x' rfl rfl, .blanks [' '] nofun (List.all_eq_true.mp rfl),
        .run ['4', '.', '.', '2'] nofun (List.all_eq_true.mp rfl)] := by
    have hrun := Decomposes.cons (.run ['4', '.', '.', '2'] nofun (List.all_eq_true.mp rfl)) .nil (stops_nil _)
    have hblanks := Decomposes.cons (.blanks [' '] nofun (List.all_eq_true.mp rfl)) hrun (stops_cons.mpr rfl)
    exact .cons (.single 'x' rfl rfl) hblanks (stops_cons.mpr rfl)
  refine ⟨hps, ?_⟩
  obtain ⟨-, hok, -, herror⟩ := (tokenize_pieces "x 4..2").2 _ hps
  have hunreadable : ¬Piece.Readable (.run ['4', '.', '.', '2'] nofun (List.all_eq_true.mp rfl)) := by
    decide
  cases ht : tokenize "x 4..2" with
  | ok ts => exact absurd (hok.mp ⟨ts, ht⟩ _ (by simp)) hunreadable
  | error e =>
      obtain ⟨us, q, vs, split, readable, unreadable, names⟩ := herror e ht
      rcases us with _ | ⟨_, _ | ⟨_, _ | ⟨_, us⟩⟩⟩
      · cases split
        exact absurd (by decide) unreadable
      · cases split
        exact absurd (by decide) unreadable
      · cases split
        cases names
        rfl
      · simp at split

end Reckon
