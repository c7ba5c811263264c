import Reckon.Proofs.Json.Members
import Reckon.Proofs.Json.Spaced

/-!
# Parts of a value

Statements about a JSON value go down to its parts, at any depth: `Json.induction` proves one for a value from its
elements or members, and `PartOf` says what occurs in what.

Two conditions are put on all parts alike. `Ordered` says that every object has its members in order, as every object
has that was read or made of a list. `Exact` says that every double is read back from its written form. The `depth` of
a value is how many arrays and objects are open at the innermost place.
-/

namespace Reckon.Json

theorem induction {P : Json → Prop} (scalar : ∀ v, P (.scalar v))
    (array : ∀ es, (∀ v ∈ es, P v) → P (.array es))
    (object : ∀ ms, (∀ m ∈ ms, P m.2) → P (.object ms)) (v : Json) : P v := by
  cases v with
  | scalar v => exact scalar v
  | array es => exact array es fun v _ => induction scalar array object v
  | object ms => exact object ms fun m _ => induction scalar array object m.2
termination_by sizeOf v
decreasing_by
  · have hlt := List.sizeOf_lt_of_mem ‹v ∈ es›
    simp only [Json.array.sizeOf_spec]
    omega
  · have hlt := List.sizeOf_lt_of_mem ‹m ∈ ms›
    obtain ⟨k, w⟩ := m
    simp only [Prod.mk.sizeOf_spec, Json.object.sizeOf_spec] at hlt ⊢
    omega

/-- A value occurs in another, at any depth. -/
inductive PartOf (p : Json) : Json → Prop
  | self : PartOf p p
  | element {es : List Json} {v : Json} (hv : v ∈ es) (h : PartOf p v) : PartOf p (.array es)
  | member {ms : List (String × Json)} {m : String × Json} (hm : m ∈ ms) (h : PartOf p m.2) :
      PartOf p (.object ms)

/-- The members of all objects are in order. -/
def Ordered (v : Json) : Prop :=
  ∀ ms, PartOf (.object ms) v → InOrder ms

/-- All doubles are read back from their written form, which not every double is. -/
def Exact (v : Json) : Prop :=
  ∀ x finite, PartOf (.number (.double x finite)) v → (Number.double x finite).ReadsBack

theorem ordered_scalar (v : Scalar) : (scalar v).Ordered := by
  intro ms h
  cases h

theorem ordered_array {es : List Json} : (array es).Ordered ↔ ∀ v ∈ es, v.Ordered := by
  constructor
  · intro h v hv ms hpart
    exact h ms (.element hv hpart)
  · intro h ms hpart
    cases hpart with
    | element hv hpart => exact h _ hv ms hpart

theorem ordered_object {ms : List (String × Json)} :
    (object ms).Ordered ↔ InOrder ms ∧ ∀ m ∈ ms, m.2.Ordered := by
  constructor
  · intro h
    exact ⟨h ms .self, fun m hm ms' hpart => h ms' (.member hm hpart)⟩
  · rintro ⟨hms, h⟩ ms' hpart
    cases hpart with
    | self => exact hms
    | member hm hpart => exact h _ hm ms' hpart

theorem exact_scalar {v : Scalar} : (scalar v).Exact ↔ ∀ n, v = .number n → n.ReadsBack := by
  constructor
  · rintro h n rfl
    cases n with
    | integer n fits => exact Number.readsBack_integer n fits
    | double x finite => exact h x finite .self
  · intro h x finite hpart
    cases hpart
    exact h _ rfl

theorem exact_array {es : List Json} : (array es).Exact ↔ ∀ v ∈ es, v.Exact := by
  constructor
  · intro h v hv x finite hpart
    exact h x finite (.element hv hpart)
  · intro h x finite hpart
    cases hpart with
    | element hv hpart => exact h _ hv x finite hpart

theorem exact_object {ms : List (String × Json)} : (object ms).Exact ↔ ∀ m ∈ ms, m.2.Exact := by
  constructor
  · intro h m hm x finite hpart
    exact h x finite (.member hm hpart)
  · intro h x finite hpart
    cases hpart with
    | member hm hpart => exact h _ hm x finite hpart

mutual

/-- How many arrays and objects are open at the innermost place. -/
def depth : Json → Nat
  | scalar _ => 0
  | array elements => elementDepth elements + 1
  | object members => memberDepth members + 1

def elementDepth : List Json → Nat
  | [] => 0
  | v :: rest => max v.depth (elementDepth rest)

def memberDepth : List (String × Json) → Nat
  | [] => 0
  | (_, v) :: rest => max v.depth (memberDepth rest)

end

theorem elementDepth_le {es : List Json} {k : Nat} : elementDepth es ≤ k ↔ ∀ v ∈ es, v.depth ≤ k := by
  induction es with
  | nil => simp [elementDepth]
  | cons v es ih => rw [elementDepth, Nat.max_le, ih, List.forall_mem_cons]

theorem memberDepth_le {ms : List (String × Json)} {k : Nat} :
    memberDepth ms ≤ k ↔ ∀ m ∈ ms, m.2.depth ≤ k := by
  induction ms with
  | nil => simp [memberDepth]
  | cons m ms ih => rw [memberDepth, Nat.max_le, ih, List.forall_mem_cons]

end Reckon.Json
