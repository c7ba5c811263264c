import Reckon.Proofs.Decimal.Finite
import Reckon.Proofs.Json.Members
import Reckon.Proofs.Operation.Decoding

/-!
# The canonical descriptor

An operation is made in two ways, by the constructors and from JSON, and both keep to the same forms: no
operation is the empty expression, and its operand is finite unless one that is not was given to the
constructor. `Making` is one step of either way, `Normal` says this of the operation that some steps lead to,
`Normal.take` that a step keeps it, and `normal_of_make` that it holds after every sequence of steps.

`Operation.canonical` is the JSON object of an operation. Decoding it gives the operation back, if its operand
is finite (`outcome_ofJson_canonical`): an infinite number has no JSON form, and not-a-number is not even equal
to itself.
-/

namespace Reckon

/-! ## Objects -/

namespace Json

variable {v : Json} {key : String}

/-- A null is read as a key that is absent. -/
theorem getSet?_of_getD {α : Type} {f : α → Json} (hf : ∀ a, f a ≠ null) {o : Option α}
    (h : (v.get? key).getD null = o.elim null f) : v.getSet? key = o.map f := by
  cases o with
  | none =>
      rw [Option.map_none, getSet?_eq_none]
      rintro w ⟨hget, hne⟩
      rw [hget] at h
      exact hne h
  | some a =>
      rw [Option.map_some, getSet?_eq_some]
      refine ⟨?_, hf a⟩
      cases hget : v.get? key with
      | none =>
          rw [hget] at h
          exact absurd h.symm (hf a)
      | some w =>
          rw [hget] at h
          exact congrArg some h

theorem stringKey_of_getD {o : Option String} (h : (v.get? key).getD null = o.elim null string) :
    v.stringKey key = .ok o := by
  have hne (s : String) : string s ≠ null := by
    intro hs
    cases hs
  rw [stringKey, getSet?_of_getD hne h]
  cases o <;> rfl

theorem numberKey_of_getD {o : Option Number} (h : (v.get? key).getD null = o.elim null number) :
    v.numberKey key = .ok (o.map Number.toFloat) := by
  have hne (n : Number) : number n ≠ null := by
    intro hn
    cases hn
  rw [numberKey, getSet?_of_getD hne h]
  cases o <;> rfl

end Json

theorem Descriptor.ofJson_ofMembers {members : List (String × Json)} (expr field op : Option String)
    (value : Option Number)
    (hexpr : (members.reverse.lookup "expr").getD .null = expr.elim .null .string)
    (hfield : (members.reverse.lookup "field").getD .null = field.elim .null .string)
    (hop : (members.reverse.lookup "op").getD .null = op.elim .null .string)
    (hvalue : (members.reverse.lookup "value").getD .null = value.elim .null .number) :
    ofJson (.ofMembers members) = .ok ⟨expr, field, op, value.map Number.toFloat⟩ := by
  rw [← Json.get?_ofMembers] at hexpr hfield hop hvalue
  have hread : ofJson (.ofMembers members) = do
      let expr ← (Json.ofMembers members).stringKey "expr"
      let field ← (Json.ofMembers members).stringKey "field"
      let op ← (Json.ofMembers members).stringKey "op"
      let value ← (Json.ofMembers members).numberKey "value"
      return ⟨expr, field, op, value⟩ := rfl
  rw [hread, Json.stringKey_of_getD hexpr, Json.stringKey_of_getD hfield, Json.stringKey_of_getD hop,
    Json.numberKey_of_getD hvalue]
  rfl

/-! ## Decoding what was written -/

theorem Kind.tag_injective {k k' : Kind} (h : k.tag = k'.tag) : k = k' := by
  have hk := ofTag?_tag k
  rw [h, ofTag?_tag] at hk
  exact (Option.some.inj hk).symm

theorem Descriptor.value_kind_tag {d : Descriptor} {kind : Option Kind} (h : d.op = kind.map Kind.tag) :
    d.kind.value = kind := by
  apply Option.ext
  intro k
  rw [value_kind_eq_some, h, Option.map_eq_some_iff]
  constructor
  · rintro ⟨k', rfl, htag⟩
    rw [Kind.tag_injective htag]
  · intro hk
    exact ⟨k, hk, rfl⟩

/-- Whether the operand, if there is one, is a finite number. -/
def Action.isFinite : Action → Bool
  | structured _ operand => operand.isFinite
  | expression _ => true

namespace Operation

/-- The JSON object of an operation. -/
def canonical (o : Operation) : Json :=
  match o.action with
  | .structured kind operand =>
    .ofMembers [("op", kind.elim .null fun k => .string k.tag), ("value", .ofFloat operand),
      ("field", o.field.elim .null .string)]
  | .expression text =>
    .ofMembers [("expr", .string text), ("field", o.field.elim .null .string)]

theorem outcome_ofJson_structured (kind : Option Kind) {operand : Float} (h : operand.isFinite = true)
    (field : Option String) :
    (ofJson (canonical ⟨.structured kind operand, field⟩)).outcome =
      .ok ⟨.structured kind operand, field⟩ := by
  have hcanonical : canonical ⟨.structured kind operand, field⟩ =
      .ofMembers [("op", (kind.map Kind.tag).elim .null .string), ("value", .number (.double operand h)),
        ("field", field.elim .null .string)] := by
    have hvalue : Json.ofFloat operand = .number (.double operand h) := dif_pos h
    rw [← hvalue, Option.elim_map]
    rfl
  rw [hcanonical, outcome_ofJson,
    Descriptor.ofJson_ofMembers none field (kind.map Kind.tag) (some (.double operand h)) rfl rfl rfl rfl]
  show Except.ok (Operation.mk (.structured (Descriptor.kind _).value operand) field) = _
  rw [Descriptor.value_kind_tag rfl]

/-- An empty text is read as no text. -/
theorem outcome_ofJson_expression (text : String) (field : Option String) :
    (ofJson (.ofMembers [("expr", .string text), ("field", field.elim .null .string)])).outcome =
      .ok { expression text with field } := by
  rw [outcome_ofJson, Descriptor.ofJson_ofMembers (some text) field none none rfl rfl rfl rfl, expression]
  show Except.ok (Descriptor.operation ⟨some text, field, none, none⟩).value = _
  rw [Descriptor.operation, Option.filter_some]
  cases text.isEmpty <;> rfl

/-- Decoding the JSON object of an operation gives the operation back. -/
theorem outcome_ofJson_canonical {o : Operation} (htext : o.action ≠ .expression "")
    (hfinite : o.action.isFinite = true) : (ofJson o.canonical).outcome = .ok o := by
  obtain ⟨action, field⟩ := o
  cases action with
  | structured kind operand => exact outcome_ofJson_structured kind hfinite field
  | expression text =>
      have hne : text.isEmpty = false := by
        rw [String.isEmpty_eq_false_iff]
        rintro rfl
        exact htext rfl
      have hdecoded := outcome_ofJson_expression text field
      rw [expression, hne] at hdecoded
      exact hdecoded

theorem beq_self {o : Operation} (h : o.action.isFinite = true) : (o == o) = true := by
  obtain ⟨action, field⟩ := o
  have hfield : (field == field) = true := beq_self_eq_true field
  have haction : (action == action) = true := by
    cases action with
    | structured kind operand =>
        show (kind == kind && operand == operand) = true
        rw [beq_self_eq_true, Decimal.beq_self_of_isFinite h]
        rfl
    | expression text => exact beq_self_eq_true text
  show (action == action && field == field) = true
  rw [haction, hfield]
  rfl

/-! ## Ways to come by an operation -/

/-- A call that gives an operation: one of the constructors, or a decoder. -/
inductive Making where
  | construct (c : Construction)
  | json (v : Json)
  | text (s : String)

/-- What a call makes of the operation at hand. -/
def Making.take (o : Operation) : Making → Except DecodeError Operation
  | construct c => .ok (o.construct c)
  | json v => (ofJson v).outcome
  | text s => (parse s).outcome

/-- Calls one after the other, starting from the identity, up to the first that fails. -/
def make (ms : List Making) : Except DecodeError Operation :=
  ms.foldlM Making.take identity

/-- The action was given to a constructor, and nothing but labels came after that. -/
def Given (ms : List Making) (a : Action) : Prop :=
  ∃ (before : List Making) (kind : Kind) (operand : Float) (labels : List String),
    ms = before ++ .construct (.structured kind operand) ::
      labels.map (fun label => .construct (.withField label)) ∧
    a = .structured (some kind) operand

/-- The forms that an operation keeps to. -/
structure Normal (ms : List Making) (o : Operation) : Prop where
  text : o.action ≠ .expression ""
  operand : o.action.isFinite = true ∨ Given ms o.action

end Operation

theorem Number.isFinite_toFloat (n : Number) : n.toFloat.isFinite = true := by
  cases n with
  | integer n fits => exact Decimal.isFinite_ofInteger _ (by omega)
  | double x finite => exact finite

theorem Json.Means.isFinite {v : Json} {a : Action} (h : v.Means a) : a.isFinite = true := by
  cases h with
  | expression _ _ => rfl
  | @structured kind operand _ _ value unset =>
      rw [Action.isFinite]
      by_cases hset : ∃ n, v.Sets "value" (.number n)
      · obtain ⟨n, hn⟩ := hset
        rw [value n hn]
        exact n.isFinite_toFloat
      · rw [unset (not_exists.mp hset)]
        rfl

theorem Json.Means.ne_empty {v : Json} {a : Action} (h : v.Means a) : a ≠ .expression "" := by
  rintro rfl
  cases h with
  | expression _ ne => exact ne rfl

namespace Operation

variable {ms : List Making} {o o' : Operation}

theorem normal_of_ofJson {v : Json} (h : (ofJson v).outcome = .ok o) : Normal ms o := by
  cases v with
  | scalar v =>
      rw [outcome_ofJson] at h
      cases h
  | array elements =>
      rw [outcome_ofJson] at h
      cases h
  | object members =>
      have hmeans := (outcome_ofJson_eq_ok.mp h).2.action
      exact ⟨hmeans.ne_empty, .inl hmeans.isFinite⟩

theorem normal_identity : Normal ms identity :=
  ⟨nofun, .inl rfl⟩

theorem Normal.withField (h : Normal ms o) (label : String) :
    Normal (ms ++ [.construct (.withField label)]) (o.withField label) := by
  refine ⟨h.text, h.operand.imp_right ?_⟩
  rintro ⟨before, kind, operand, labels, rfl, haction⟩
  exact ⟨before, kind, operand, labels ++ [label], by simp, haction⟩

/-- A call keeps to the forms. -/
theorem Normal.take {m : Making} (h : Normal ms o) (hm : m.take o = .ok o') : Normal (ms ++ [m]) o' := by
  cases m with
  | construct c =>
      cases hm
      cases c with
      | identity => exact normal_identity
      | default => exact normal_identity
      | structured kind operand => exact ⟨nofun, .inr ⟨ms, kind, operand, [], rfl, rfl⟩⟩
      | expression text =>
          show Normal _ (expression text)
          rw [expression]
          split
          next => exact normal_identity
          next hne =>
            refine ⟨fun h => ?_, .inl rfl⟩
            cases h
            exact hne rfl
      | withField label => exact h.withField label
  | json v => exact normal_of_ofJson hm
  | text s =>
      rw [Making.take, parse] at hm
      cases hv : Json.parse? s with
      | none =>
          rw [hv] at hm
          cases hm
      | some v =>
          rw [hv] at hm
          exact normal_of_ofJson hm

theorem normal_of_make (h : make ms = .ok o) : Normal ms o := by
  induction ms using List.reverseRecOn generalizing o with
  | nil =>
      cases h
      exact normal_identity
  | append_singleton ms m ih =>
      rw [make, List.foldlM_append, bind_eq_ok] at h
      obtain ⟨o', hmake, hm⟩ := h
      rw [List.foldlM_cons, bind_eq_ok] at hm
      obtain ⟨o'', hm, heq⟩ := hm
      cases heq
      exact (ih hmake).take hm

end Operation

/-! ## The headline theorem -/

/-- **An operation is its canonical descriptor.** However an operation is made, it is not the empty expression,
and its operand is finite or was given to the constructor as it is. If it is finite, then decoding the JSON
object of the operation gives an equal operation. So the two ways to make an operation agree, for an empty text
too. -/
theorem canonical_of_made :
    (∀ (ms : List Operation.Making) (o : Operation), Operation.make ms = .ok o →
      o.action ≠ .expression "" ∧
      (o.action.isFinite = true ∨ Operation.Given ms o.action) ∧
      (o.action.isFinite = true → (Operation.ofJson o.canonical).outcome = .ok o ∧ (o == o) = true)) ∧
    (∀ text label : String,
      (Operation.ofJson (.ofMembers [("expr", .string text), ("field", .string label)])).outcome =
        .ok ((Operation.expression text).withField label)) ∧
    ∀ (kind : Kind) (operand : Float) (h : operand.isFinite = true) (label : String),
      (Operation.ofJson (.ofMembers [("op", .string kind.tag), ("value", .number (.double operand h)),
        ("field", .string label)])).outcome =
          .ok ((Operation.structured kind operand).withField label) := by
  refine ⟨fun ms o ho => ?_, fun text label => Operation.outcome_ofJson_expression text (some label),
    fun kind operand h label => ?_⟩
  · have hnormal := Operation.normal_of_make ho
    exact ⟨hnormal.text, hnormal.operand, fun hfinite =>
      ⟨Operation.outcome_ofJson_canonical hnormal.text hfinite, Operation.beq_self hfinite⟩⟩
  · have hdecoded := Operation.outcome_ofJson_structured (some kind) h (some label)
    have hvalue : Json.ofFloat operand = .number (.double operand h) := dif_pos h
    rw [← hvalue]
    exact hdecoded

/-- A label may come after the decoder. -/
theorem canonical_of_made_labelled :
    (Operation.make [.json (.object [("expr", .string "x*2")]), .construct (.withField "price")] =
        .ok ⟨.expression "x*2", some "price"⟩ ∧
      (Operation.ofJson (Operation.canonical ⟨.expression "x*2", some "price"⟩)).outcome =
        .ok ⟨.expression "x*2", some "price"⟩) ∧
    (3 : Float).isFinite = true ∧
    (Operation.ofJson (.ofMembers [("op", .string "*"), ("value", .number (.double 3 (by decide))),
      ("field", .string "price")])).outcome =
        .ok ⟨.structured (some (.arithmetic .multiply)) 3, some "price"⟩ := by
  have hmake : Operation.make [.json (.object [("expr", .string "x*2")]), .construct (.withField "price")] =
      .ok ⟨.expression "x*2", some "price"⟩ := rfl
  have hfinite : (3 : Float).isFinite = true := by decide
  refine ⟨⟨hmake, ?_⟩, hfinite, ?_⟩
  · exact ((canonical_of_made.1 _ _ hmake).2.2 rfl).1
  · exact canonical_of_made.2.2 (.arithmetic .multiply) 3 hfinite "price"

end Reckon
