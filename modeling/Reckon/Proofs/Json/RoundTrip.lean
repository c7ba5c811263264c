import Reckon.Proofs.Json.Reading
import Reckon.Proofs.Json.Writing

/-!
# Reading what was written

A text with the lexemes of a value in it is read as that value, whatever spaces there are between the lexemes
(`parse?_spaced`), and one with the members of an object in any order, and several with one key, as the object of these
members (`parse?_members`). The object has no worse doubles than the members (`exact_ofMembers`) and is no deeper
(`depth_ofMembers_le`).
-/

namespace Reckon.Json

/-! ## What is written is read back -/

theorem mem_toLexemes_array {l : Lexeme} {es : List Json} (h : l ∈ (array es).toLexemes) :
    (∃ m, l = .mark m) ∨ ∃ v ∈ es, l ∈ v.toLexemes := by
  simp only [toLexemes, List.cons_append, List.mem_cons, List.mem_append, List.not_mem_nil, or_false] at h
  rcases h with rfl | h | rfl
  · exact .inl ⟨_, rfl⟩
  · rw [elementLexemes_eq] at h
    rcases mem_intercalate h with h | ⟨ls, hls, hl⟩
    · exact .inl ⟨_, List.mem_singleton.mp h⟩
    · obtain ⟨v, hv, rfl⟩ := List.mem_map.mp hls
      exact .inr ⟨v, hv, hl⟩
  · exact .inl ⟨_, rfl⟩

theorem mem_toLexemes_object {l : Lexeme} {ms : List (String × Json)} (h : l ∈ (object ms).toLexemes) :
    (∃ m, l = .mark m) ∨ (∃ key, l = .scalar (.string key)) ∨ ∃ m ∈ ms, l ∈ m.2.toLexemes := by
  simp only [toLexemes, List.cons_append, List.mem_cons, List.mem_append, List.not_mem_nil, or_false] at h
  rcases h with rfl | h | rfl
  · exact .inl ⟨_, rfl⟩
  · rw [memberLexemes_eq] at h
    rcases mem_intercalate h with h | ⟨ls, hls, hl⟩
    · exact .inl ⟨_, List.mem_singleton.mp h⟩
    · obtain ⟨m, hm, rfl⟩ := List.mem_map.mp hls
      simp only [List.mem_cons] at hl
      rcases hl with rfl | rfl | hl
      · exact .inr (.inl ⟨m.1, rfl⟩)
      · exact .inl ⟨_, rfl⟩
      · exact .inr (.inr ⟨m, hm, hl⟩)
  · exact .inl ⟨_, rfl⟩

theorem readsBack_mark (m : Mark) : (Lexeme.mark m).ReadsBack := by
  intro n h
  cases h

theorem readsBack_string (key : String) : (Lexeme.scalar (.string key)).ReadsBack := by
  intro n h
  cases h

theorem Exact.readsBack {v : Json} (hv : v.Exact) {l : Lexeme} (hl : l ∈ v.toLexemes) : l.ReadsBack := by
  induction v using Json.induction with
  | scalar v =>
      obtain rfl := List.mem_singleton.mp hl
      rintro n ⟨⟩
      exact exact_scalar.mp hv n rfl
  | array es ih =>
      rcases mem_toLexemes_array hl with ⟨m, rfl⟩ | ⟨v, hmem, hl⟩
      · exact readsBack_mark m
      · exact ih v hmem (exact_array.mp hv v hmem) hl
  | object ms ih =>
      rcases mem_toLexemes_object hl with ⟨m, rfl⟩ | ⟨key, rfl⟩ | ⟨m, hmem, hl⟩
      · exact readsBack_mark m
      · exact readsBack_string key
      · exact ih m hmem (exact_object.mp hv m hmem) hl

theorem parse?_of_takes {v w : Json} (h : ReadState.Takes [] v w) (hexact : v.Exact) {s : String}
    (hs : Spaced v.toLexemes s.toList) : parse? s = some w := by
  have hlexemes : lexemes? s.toList = some v.toLexemes :=
    hs.lexemes? (ReadState.separated_of_steps? h) fun l hl => hexact.readsBack hl
  have hsteps : (ReadState.value []).steps? v.toLexemes = some (.finished w) := h
  rw [parse?, hlexemes, Option.bind_eq_bind, Option.bind_some, ofLexemes?, hsteps]
  rfl

/-- A value is read back from any text of its lexemes. -/
theorem parse?_spaced {v : Json} (hordered : v.Ordered) (hexact : v.Exact) (hdepth : v.depth ≤ maxDepth)
    {s : String} (hs : Spaced v.toLexemes s.toList) : parse? s = some v :=
  parse?_of_takes (ReadState.takes_self hordered (by simpa using hdepth)) hexact hs

/-- Of members that are written in any order, and several with one key, the object is read. -/
theorem parse?_members {ms : List (String × Json)} (hordered : ∀ m ∈ ms, m.2.Ordered)
    (hexact : (object ms).Exact) (hdepth : (object ms).depth ≤ maxDepth) {s : String}
    (hs : Spaced (object ms).toLexemes s.toList) : parse? s = some (ofMembers ms) := by
  rw [depth] at hdepth
  have htakes : ReadState.Takes [] (object ms) (ofMembers ms) := by
    refine ReadState.takes_object (by decide) fun m hm before key => ?_
    have hle := memberDepth_le.mp (Nat.le_refl _) m hm
    refine ReadState.takes_self (hordered m hm) ?_
    rw [List.length_singleton]
    omega
  exact parse?_of_takes htakes hexact hs

/-! ## Objects of members -/

theorem ordered_ofMembers {ms : List (String × Json)} (h : ∀ m ∈ ms, m.2.Ordered) : (ofMembers ms).Ordered := by
  rw [ofMembers_eq, ordered_object]
  exact ⟨inOrder_sorted ms, fun m hm => h m (mem_of_mem_sorted hm)⟩

theorem exact_ofMembers {ms : List (String × Json)} (h : (object ms).Exact) : (ofMembers ms).Exact := by
  rw [ofMembers_eq, exact_object]
  intro m hm
  exact exact_object.mp h m (mem_of_mem_sorted hm)

theorem depth_ofMembers_le (ms : List (String × Json)) : (ofMembers ms).depth ≤ (object ms).depth := by
  rw [ofMembers_eq, depth, depth, Nat.add_le_add_iff_right, memberDepth_le]
  intro m hm
  exact memberDepth_le.mp (Nat.le_refl _) m (mem_of_mem_sorted hm)

end Reckon.Json
