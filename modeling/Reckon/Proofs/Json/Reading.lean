import Reckon.Json.Printer
import Reckon.Json.Reader
import Reckon.Proofs.Json.Parts

/-!
# A value taken from its lexemes

The machine that reads values takes the lexemes of a value as one value, wherever a value may stand (`Takes`). The
induction is on the value. An array is taken if each of its elements is, and an object if the value of each member
is; an object then has the last member of every key, whatever order they came in (`takes_object`). A value with its
objects in order is therefore taken as itself (`takes_self`), as long as the machine may go as deep.

The machine never takes two values in a row (`step?_scalar_scalar`), so that there is punctuation between any two
that it has taken (`separated_of_steps?`).
-/

namespace Reckon.Json

namespace ReadState

variable {s s' : ReadState} {ls ls' : List Lexeme}

theorem steps?_cons {l : Lexeme} (h : s.step? l = some s') (ls : List Lexeme) :
    s.steps? (l :: ls) = s'.steps? ls := by
  rw [steps?, List.foldlM_cons, h]
  rfl

theorem steps?_append (h : s.steps? ls = some s') (ls' : List Lexeme) :
    s.steps? (ls ++ ls') = s'.steps? ls' := by
  have happend : s.steps? (ls ++ ls') = s.steps? ls >>= fun s' => s'.steps? ls' := List.foldlM_append
  rw [happend, h]
  rfl

/-- The machine takes the lexemes of `v` as one value, which is `w`. -/
def Takes (outer : List Frame) (v w : Json) : Prop :=
  (value outer).steps? v.toLexemes = some (deliver w outer)

variable {outer : List Frame}

theorem steps?_elements {v : Json} {vs : List Json} (before : List Json)
    (h : ∀ w ∈ v :: vs, ∀ before, Takes (.element before :: outer) w w) :
    (value (.element before :: outer)).steps? (elementLexemes (v :: vs)) =
      some (arrayNext ((v :: vs).reverse ++ before) outer) := by
  have hv : Takes (.element before :: outer) v v := h v List.mem_cons_self before
  induction vs generalizing v before with
  | nil => exact hv
  | cons w vs ih =>
      have hcomma : (deliver v (.element before :: outer)).step? (.mark .comma) =
          some (value (.element (v :: before) :: outer)) := rfl
      have hrest := fun u hu => h u (List.mem_cons_of_mem v hu)
      rw [elementLexemes, steps?_append hv, steps?_cons hcomma,
        ih (v :: before) hrest (hrest w List.mem_cons_self _)]
      simp

/-- The first value of an array is taken like any other, for it does not begin with the end of one. -/
theorem steps?_arrayStart (v : Json) (vs : List Json) :
    (arrayStart outer).steps? (elementLexemes (v :: vs)) =
      (value (.element [] :: outer)).steps? (elementLexemes (v :: vs)) := by
  have hfirst (ls : List Lexeme) : (arrayStart outer).steps? (v.toLexemes ++ ls) =
      (value (.element [] :: outer)).steps? (v.toLexemes ++ ls) := by
    cases v with
    | scalar v => rfl
    | array es => simp only [toLexemes]; rfl
    | object ms => simp only [toLexemes]; rfl
  cases vs with
  | nil => simpa [elementLexemes] using hfirst []
  | cons w vs => exact hfirst _

theorem takes_array (hd : outer.length < maxDepth) {es : List Json}
    (h : ∀ v ∈ es, ∀ before, Takes (.element before :: outer) v v) :
    Takes outer (.array es) (.array es) := by
  have hopen : (value outer).step? (.mark .openBracket) = some (arrayStart outer) := if_pos hd
  rw [Takes, toLexemes, List.cons_append, steps?_cons hopen]
  cases es with
  | nil => rfl
  | cons v vs =>
      have hclose : (arrayNext ((v :: vs).reverse ++ []) outer).step? (.mark .closeBracket) =
          some (deliver (.array (v :: vs)) outer) := by
        rw [List.append_nil, step?, List.reverse_reverse]
      have helements := steps?_elements [] h
      rw [← steps?_arrayStart] at helements
      rw [steps?_append helements, steps?_cons hclose]
      rfl

theorem steps?_members {m : String × Json} {ms : List (String × Json)} (before : List (String × Json))
    (h : ∀ n ∈ m :: ms, ∀ before key, Takes (.member before key :: outer) n.2 n.2) :
    (objectKey before outer).steps? (memberLexemes (m :: ms)) =
      some (objectNext ((m :: ms).reverse ++ before) outer) := by
  have hm : Takes (.member before m.1 :: outer) m.2 m.2 := h m List.mem_cons_self before m.1
  have hkey : (objectKey before outer).step? (.scalar (.string m.1)) =
      some (objectColon before m.1 outer) := rfl
  have hcolon : (objectColon before m.1 outer).step? (.mark .colon) =
      some (value (.member before m.1 :: outer)) := rfl
  induction ms generalizing m before with
  | nil =>
      rw [memberLexemes, steps?_cons hkey, steps?_cons hcolon]
      exact hm
  | cons n ms ih =>
      have hcomma : (deliver m.2 (.member before m.1 :: outer)).step? (.mark .comma) =
          some (objectKey (m :: before) outer) := rfl
      have hrest := fun u hu => h u (List.mem_cons_of_mem m hu)
      rw [memberLexemes, List.cons_append, List.cons_append, steps?_cons hkey, steps?_cons hcolon,
        steps?_append hm, steps?_cons hcomma, ih (m :: before) hrest (hrest n List.mem_cons_self _ _) rfl rfl]
      simp

theorem steps?_objectStart (m : String × Json) (ms : List (String × Json)) :
    (objectStart outer).steps? (memberLexemes (m :: ms)) =
      (objectKey [] outer).steps? (memberLexemes (m :: ms)) := by
  cases ms with
  | nil => rfl
  | cons n ms => rfl

/-- The members may come in any order, and several with one key. -/
theorem takes_object (hd : outer.length < maxDepth) {ms : List (String × Json)}
    (h : ∀ m ∈ ms, ∀ before key, Takes (.member before key :: outer) m.2 m.2) :
    Takes outer (.object ms) (.ofMembers ms) := by
  have hopen : (value outer).step? (.mark .openBrace) = some (objectStart outer) := if_pos hd
  rw [Takes, toLexemes, List.cons_append, steps?_cons hopen]
  cases ms with
  | nil => rfl
  | cons m ms =>
      have hclose : (objectNext ((m :: ms).reverse ++ []) outer).step? (.mark .closeBrace) =
          some (deliver (.ofMembers (m :: ms)) outer) := by
        rw [List.append_nil, step?, List.reverse_reverse]
      have hmembers := steps?_members [] h
      rw [← steps?_objectStart] at hmembers
      rw [steps?_append hmembers, steps?_cons hclose]
      rfl

theorem takes_self {v : Json} (hv : v.Ordered) (hd : outer.length + v.depth ≤ maxDepth) :
    Takes outer v v := by
  induction v using Json.induction generalizing outer with
  | scalar v => rfl
  | array es ih =>
      rw [depth] at hd
      refine takes_array (by omega) ?_
      intro v hmem before
      have hle := elementDepth_le.mp (Nat.le_refl _) v hmem
      refine ih v hmem (ordered_array.mp hv v hmem) ?_
      rw [List.length_cons]
      omega
  | object ms ih =>
      rw [depth] at hd
      obtain ⟨hms, hmembers⟩ := ordered_object.mp hv
      have htakes : Takes outer (.object ms) (.ofMembers ms) := by
        refine takes_object (by omega) ?_
        intro m hmem before key
        have hle := memberDepth_le.mp (Nat.le_refl _) m hmem
        refine ih m hmem (hmembers m hmem) ?_
        rw [List.length_cons]
        omega
      rwa [ofMembers_of_inOrder hms] at htakes

/-- After a value comes punctuation. -/
theorem step?_scalar_scalar {v w : Scalar} (h : s.step? (.scalar v) = some s') :
    s'.step? (.scalar w) = none := by
  have hdeliver (u : Json) (outer : List Frame) : (deliver u outer).step? (.scalar w) = none := by
    rcases outer with _ | ⟨_ | _, outer⟩ <;> rfl
  cases s with
  | value outer => cases h; exact hdeliver _ _
  | arrayStart outer => cases h; rfl
  | arrayNext before outer => cases h
  | objectStart outer =>
      cases v with
      | string key => cases h; rfl
      | _ => cases h
  | objectKey before outer =>
      cases v with
      | string key => cases h; rfl
      | _ => cases h
  | objectColon before key outer => cases h
  | objectNext before outer => cases h
  | finished u => cases h

/-- So what the machine takes has punctuation between its values. -/
theorem separated_of_steps? (h : s.steps? ls = some s') : Separated ls := by
  induction ls generalizing s with
  | nil => exact List.isChain_nil
  | cons l ls ih =>
      obtain ⟨s₁, hs₁, hrest⟩ := Option.bind_eq_some_iff.mp h
      refine List.isChain_cons.mpr ⟨?_, ih hrest⟩
      intro l' hl'
      obtain ⟨ls', rfl⟩ := List.head?_eq_some_iff.mp hl'
      cases l with
      | mark m => exact .inl ⟨m, rfl⟩
      | scalar v =>
          cases l' with
          | mark m => exact .inr ⟨m, rfl⟩
          | scalar w =>
              obtain ⟨s₂, hs₂, -⟩ := Option.bind_eq_some_iff.mp hrest
              rw [step?_scalar_scalar hs₁] at hs₂
              cases hs₂

end ReadState

end Reckon.Json
