import Reckon.Json.Printer
import Reckon.Proofs.Json.Parts

/-!
# The lexemes of a written value

Of the two ways to write a value one puts nothing between the lexemes (`spaced_compact`) and the other puts each
part on a line of its own, indented (`spaced_pretty`). In either text stand the lexemes of the value, and nothing
else but spaces. Parts are written with commas between them, lexemes and characters alike, and so it is enough
to look at the parts (`Spaced.intercalate`).
-/

namespace Reckon.Json

/-! ## Parts with commas between them -/

theorem mem_intercalate {α : Type} {sep : List α} {xss : List (List α)} {a : α} (h : a ∈ sep.intercalate xss) :
    a ∈ sep ∨ ∃ xs ∈ xss, a ∈ xs := by
  induction xss with
  | nil => cases h
  | cons xs xss ih =>
      cases xss with
      | nil =>
          rw [List.intercalate_singleton] at h
          exact .inr ⟨xs, List.mem_cons_self, h⟩
      | cons ys xss =>
          rw [List.intercalate_cons_cons, List.mem_append, List.mem_append] at h
          rcases h with (h | h) | h
          · exact .inr ⟨xs, List.mem_cons_self, h⟩
          · exact .inl h
          · exact (ih h).imp_right fun ⟨zs, hzs, ha⟩ => ⟨zs, List.mem_cons_of_mem xs hzs, ha⟩

theorem flatMap_intercalate {α β : Type} (f : α → List β) (sep : List α) (xss : List (List α)) :
    (sep.intercalate xss).flatMap f = (sep.flatMap f).intercalate (xss.map (·.flatMap f)) := by
  induction xss with
  | nil => rfl
  | cons xs xss ih =>
      cases xss with
      | nil => simp
      | cons ys xss =>
          rw [List.intercalate_cons_cons, List.flatMap_append, List.flatMap_append, ih, List.map_cons,
            List.map_cons, List.map_cons, List.intercalate_cons_cons]

theorem elementLexemes_eq (es : List Json) :
    elementLexemes es = [.mark .comma].intercalate (es.map toLexemes) := by
  induction es with
  | nil => rfl
  | cons v es ih =>
      cases es with
      | nil => simp [elementLexemes]
      | cons w es => simp [elementLexemes, ih]

theorem memberLexemes_eq (ms : List (String × Json)) :
    memberLexemes ms = [.mark .comma].intercalate
      (ms.map fun m => .scalar (.string m.1) :: .mark .colon :: m.2.toLexemes) := by
  induction ms with
  | nil => rfl
  | cons m ms ih =>
      cases ms with
      | nil => simp [memberLexemes]
      | cons n ms => simp [memberLexemes, ih]

theorem prettyElements_eq (depth : Nat) (es : List Json) :
    prettyElements depth es =
      [','].intercalate (es.map fun v => newline depth ++ prettyChars depth v) := by
  induction es with
  | nil => rfl
  | cons v es ih =>
      cases es with
      | nil => simp [prettyElements]
      | cons w es => simp [prettyElements, ih]

theorem prettyMembers_eq (depth : Nat) (ms : List (String × Json)) :
    prettyMembers depth ms = [','].intercalate
      (ms.map fun m => newline depth ++ (Scalar.string m.1).text ++ [':', ' '] ++ prettyChars depth m.2) := by
  induction ms with
  | nil => rfl
  | cons m ms ih =>
      cases ms with
      | nil => simp [prettyMembers]
      | cons n ms => simp [prettyMembers, ih]

/-! ## Written values -/

theorem Spaced.append {ls ls' : List Lexeme} {cs cs' : List Char} (h : Spaced ls cs) (h' : Spaced ls' cs') :
    Spaced (ls ++ ls') (cs ++ cs') := by
  induction h with
  | @nil bs space =>
      cases h' with
      | nil space' => exact .nil fun c hc => (List.mem_append.mp hc).elim (space c) (space' c)
      | @cons bs' cs' ls' space' l h' =>
          rw [← List.append_assoc]
          exact .cons (fun c hc => (List.mem_append.mp hc).elim (space c) (space' c)) l h'
  | cons space l h ih =>
      rw [List.append_assoc, List.append_assoc]
      exact .cons space l ih

theorem Spaced.cons_text {ls : List Lexeme} {cs : List Char} (h : Spaced ls cs) (l : Lexeme) :
    Spaced (l :: ls) (l.text ++ cs) :=
  @Spaced.cons [] cs ls nofun l h

theorem spaced_nil : Spaced [] [] :=
  .nil nofun

theorem spaced_singleton (l : Lexeme) : Spaced [l] l.text :=
  List.append_nil l.text ▸ spaced_nil.cons_text l

theorem spaced_newline (depth : Nat) : Spaced [] (newline depth) := by
  refine .nil fun c hc => ?_
  rcases List.mem_cons.mp hc with rfl | hc
  · rfl
  · rw [List.eq_of_mem_replicate hc]
    rfl

theorem Spaced.append_newline {ls : List Lexeme} {cs : List Char} (h : Spaced ls cs) (depth : Nat) :
    Spaced ls (cs ++ newline depth) :=
  List.append_nil ls ▸ h.append (spaced_newline depth)

theorem Spaced.intercalate {lss : List (List Lexeme)} {css : List (List Char)}
    (h : List.Forall₂ Spaced lss css) : Spaced ([.mark .comma].intercalate lss) ([','].intercalate css) := by
  induction h with
  | nil => exact spaced_nil
  | cons h hs ih =>
      cases hs with
      | nil => simpa using h
      | cons h' hs =>
          rw [List.intercalate_cons_cons, List.intercalate_cons_cons]
          exact (h.append (spaced_singleton (.mark .comma))).append ih

/-- The compact text has no spaces. -/
theorem spaced_compact (v : Json) : Spaced v.toLexemes v.compact.toList := by
  have hflat (ls : List Lexeme) : Spaced ls (ls.flatMap Lexeme.text) := by
    induction ls with
    | nil => exact spaced_nil
    | cons l ls ih => exact ih.cons_text l
  rw [compact, String.toList_ofList]
  exact hflat v.toLexemes

/-- Every part stands on a line of its own. -/
theorem spaced_prettyChars (depth : Nat) (v : Json) : Spaced v.toLexemes (prettyChars depth v) := by
  have hmark (m : Mark) : Spaced [.mark m] [m.char] := spaced_singleton (.mark m)
  induction v using Json.induction generalizing depth with
  | scalar v => exact spaced_singleton (.scalar v)
  | array es ih =>
      have helements : Spaced (elementLexemes es) (prettyElements (depth + 1) es) := by
        rw [elementLexemes_eq, prettyElements_eq]
        refine Spaced.intercalate ?_
        rw [List.forall₂_map_left_iff, List.forall₂_map_right_iff, List.forall₂_same]
        intro v hv
        exact (spaced_newline (depth + 1)).append (ih v hv (depth + 1))
      cases es with
      | nil => exact (hmark .openBracket).append (hmark .closeBracket)
      | cons v es =>
          have hopen := (hmark .openBracket).append helements
          exact (hopen.append_newline depth).append (hmark .closeBracket)
  | object ms ih =>
      have hmembers : Spaced (memberLexemes ms) (prettyMembers (depth + 1) ms) := by
        rw [memberLexemes_eq, prettyMembers_eq]
        refine Spaced.intercalate ?_
        rw [List.forall₂_map_left_iff, List.forall₂_map_right_iff, List.forall₂_same]
        intro m hm
        have hspace : Spaced [] [' '] := .nil (List.all_eq_true.mp rfl)
        have hcolon := (hspace.append (ih m hm (depth + 1))).cons_text (.mark .colon)
        have hmember := (spaced_newline (depth + 1)).append (hcolon.cons_text (.scalar (.string m.1)))
        simpa [Lexeme.text, Mark.char] using hmember
      cases ms with
      | nil => exact (hmark .openBrace).append (hmark .closeBrace)
      | cons m ms =>
          have hopen := (hmark .openBrace).append hmembers
          exact (hopen.append_newline depth).append (hmark .closeBrace)

theorem spaced_pretty (v : Json) : Spaced v.toLexemes v.pretty.toList := by
  rw [pretty, String.toList_ofList]
  exact spaced_prettyChars 0 v

theorem compact_object (ms : List (String × Json)) :
    (object ms).compact =
      "\x7b" ++ ",".intercalate (ms.map fun m => (string m.1).compact ++ ":" ++ m.2.compact) ++ "\x7d" := by
  rw [← String.toList_inj]
  simp [compact, toLexemes, memberLexemes_eq, flatMap_intercalate, String.toList_intercalate, Lexeme.text, Mark.char,
    Function.comp_def]

end Reckon.Json
