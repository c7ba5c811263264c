import Mathlib.Data.List.Basic
import Mathlib.Data.List.Induction
import Reckon.Json.Basic

/-!
# The members of an object

`Json.ofMembers` makes an object of any list of members. What it keeps of the list is what the last member of each
key says (`get?_ofMembers`), in the order of the keys (`inOrder_sorted`), and nothing is made up on the way
(`mem_of_mem_sorted`). A list that is in order already is kept as it is (`ofMembers_of_inOrder`).
-/

namespace Reckon.Json

/-! ## Look-up -/

theorem lookup_cons (key k : String) (w : Json) (ms : List (String × Json)) :
    ((k, w) :: ms).lookup key = if key = k then some w else ms.lookup key := by
  rw [List.lookup_cons]
  by_cases h : key = k
  · rw [if_pos h, beq_iff_eq.mpr h]
  · rw [if_neg h, beq_eq_false_iff_ne.mpr h]

theorem lookup_insertMember (key k : String) (w : Json) (ms : List (String × Json)) :
    (insertMember k w ms).lookup key = if key = k then some w else ms.lookup key := by
  induction ms with
  | nil => exact lookup_cons key k w []
  | cons m ms ih =>
      obtain ⟨k', w'⟩ := m
      rw [insertMember]
      split
      next => rw [lookup_cons]
      next =>
        split
        next hk =>
          subst hk
          rw [lookup_cons, lookup_cons]
          split <;> rfl
        next hk =>
          rw [lookup_cons, lookup_cons, ih]
          by_cases h : key = k'
          · have hne : key ≠ k := fun hkey => hk (hkey.symm.trans h)
            rw [if_pos h, if_neg hne, if_pos h]
          · rw [if_neg h, if_neg h]

/-- The members that are left of a list. -/
def sorted (members : List (String × Json)) : List (String × Json) :=
  members.foldl (fun ms m => insertMember m.1 m.2 ms) []

theorem ofMembers_eq (members : List (String × Json)) : ofMembers members = object (sorted members) := rfl

theorem sorted_concat (members : List (String × Json)) (m : String × Json) :
    sorted (members ++ [m]) = insertMember m.1 m.2 (sorted members) :=
  List.foldl_concat _ _ _ _

/-- The last member of a key counts. -/
theorem get?_ofMembers (members : List (String × Json)) (key : String) :
    (ofMembers members).get? key = members.reverse.lookup key := by
  rw [ofMembers_eq, get?]
  induction members using List.reverseRecOn with
  | nil => rfl
  | append_singleton members m ih =>
      rw [sorted_concat, lookup_insertMember, ih, List.reverse_append, List.reverse_singleton,
        List.singleton_append, lookup_cons]

/-! ## Order -/

/-- Each key comes before all that follow it, so that there is one member of a key. -/
def InOrder (ms : List (String × Json)) : Prop :=
  ms.Pairwise fun m m' => m.1 < m'.1

theorem mem_insertMember {key : String} {v : Json} {ms : List (String × Json)} {m : String × Json}
    (h : m ∈ insertMember key v ms) : m = (key, v) ∨ m ∈ ms := by
  induction ms with
  | nil => exact .inl (List.mem_singleton.mp h)
  | cons n ms ih =>
      rw [insertMember] at h
      split at h
      next => exact List.mem_cons.mp h
      next =>
        split at h
        next =>
          rcases List.mem_cons.mp h with rfl | h
          · exact .inl rfl
          · exact .inr (List.mem_cons_of_mem n h)
        next =>
          rcases List.mem_cons.mp h with rfl | h
          · exact .inr List.mem_cons_self
          · exact (ih h).imp_right (List.mem_cons_of_mem n)

theorem InOrder.insertMember {ms : List (String × Json)} (h : InOrder ms) (key : String) (v : Json) :
    InOrder (insertMember key v ms) := by
  induction ms with
  | nil => exact List.pairwise_singleton _ _
  | cons n ms ih =>
      obtain ⟨hfirst, hrest⟩ := List.pairwise_cons.mp h
      rw [Json.insertMember]
      split
      next hlt =>
        refine List.pairwise_cons.mpr ⟨?_, h⟩
        intro m hm
        rcases List.mem_cons.mp hm with rfl | hm
        · exact hlt
        · exact String.lt_trans hlt (hfirst m hm)
      next hlt =>
        split
        next heq =>
          subst heq
          exact List.pairwise_cons.mpr ⟨hfirst, hrest⟩
        next hne =>
          have hgt : n.1 < key := by
            by_contra hle
            exact hne (String.le_antisymm (String.not_lt.mp hle) (String.not_lt.mp hlt))
          refine List.pairwise_cons.mpr ⟨?_, ih hrest⟩
          intro m hm
          rcases mem_insertMember hm with rfl | hm
          · exact hgt
          · exact hfirst m hm

theorem inOrder_sorted (members : List (String × Json)) : InOrder (sorted members) := by
  induction members using List.reverseRecOn with
  | nil => exact List.Pairwise.nil
  | append_singleton members m ih =>
      rw [sorted_concat]
      exact ih.insertMember m.1 m.2

theorem mem_of_mem_sorted {members : List (String × Json)} {m : String × Json} (h : m ∈ sorted members) :
    m ∈ members := by
  induction members using List.reverseRecOn with
  | nil => cases h
  | append_singleton members n ih =>
      rw [sorted_concat] at h
      rcases mem_insertMember h with rfl | h
      · simp
      · exact List.mem_append_left _ (ih h)

/-- A member with the last of all keys goes to the end. -/
theorem insertMember_of_lt {key : String} {v : Json} {ms : List (String × Json)} (h : ∀ m ∈ ms, m.1 < key) :
    insertMember key v ms = ms ++ [(key, v)] := by
  induction ms with
  | nil => rfl
  | cons n ms ih =>
      have hlt : n.1 < key := h n List.mem_cons_self
      have hne : key ≠ n.1 := by
        rintro rfl
        exact String.lt_irrefl _ hlt
      rw [insertMember, if_neg (String.lt_asymm hlt), if_neg hne, ih fun m hm => h m (List.mem_cons_of_mem n hm)]
      rfl

theorem sorted_of_inOrder {ms : List (String × Json)} (h : InOrder ms) : sorted ms = ms := by
  induction ms using List.reverseRecOn with
  | nil => rfl
  | append_singleton ms m ih =>
      obtain ⟨hms, -, hlast⟩ := List.pairwise_append.mp h
      rw [sorted_concat, ih hms]
      exact insertMember_of_lt fun n hn => hlast n hn m (List.mem_singleton_self m)

theorem ofMembers_of_inOrder {ms : List (String × Json)} (h : InOrder ms) : ofMembers ms = object ms := by
  rw [ofMembers_eq, sorted_of_inOrder h]

end Reckon.Json
