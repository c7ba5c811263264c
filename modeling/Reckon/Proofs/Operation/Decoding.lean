import Reckon.Operation.Decode
import Reckon.Proofs.Attempt

/-!
# What a descriptor describes

A JSON value is decoded in two stages, and each is said here without the order of its steps.

- **Types.** A key is set if it is there and its value is not null (`Json.Sets`). `Descriptor.keys` lists the
  keys that are looked at, with their types, in the order in which they are checked; a key that is set to a
  value of another type is a `Misfit`. The first misfit is the error (`Descriptor.ofJson_failsWith`).
- **Meaning.** Where there is no misfit, the keys that are set determine an operation, field by field:
  `Describes` says which, and `Describes.unique` that it is one only.

Nothing but the four keys plays a role (`Operation.ofJson_congr`).
-/

namespace Reckon

/-! ## Keys that are set -/

/-- The key is there, and its value is not null. -/
def Json.Sets (v : Json) (key : String) (w : Json) : Prop :=
  v.get? key = some w ∧ w ≠ .null

namespace Json

variable {v v' : Json} {key : String} {w w' : Json}

theorem getSet?_eq_some : v.getSet? key = some w ↔ v.Sets key w := by
  rw [getSet?, Option.filter_eq_some_iff, Sets]
  refine and_congr_right fun _ => ?_
  constructor
  · rintro h rfl
    cases h
  · intro h
    split
    · exact absurd rfl h
    · rfl

theorem getSet?_eq_none : v.getSet? key = none ↔ ∀ w, ¬v.Sets key w := by
  simp only [Option.eq_none_iff_forall_ne_some, ne_eq, getSet?_eq_some]

theorem Sets.unique (h : v.Sets key w) (h' : v.Sets key w') : w = w' :=
  Option.some.inj (h.1.symm.trans h'.1)

theorem getSet?_congr (h : ∀ w, v.Sets key w ↔ v'.Sets key w) : v.getSet? key = v'.getSet? key := by
  apply Option.ext
  intro w
  rw [getSet?_eq_some, getSet?_eq_some, h]

end Json

/-! ## Types -/

/-- Whether a value has the type that a key asks for. -/
def Expected.fits : Expected → Json → Bool
  | string, .string _ => true
  | number, .number _ => true
  | _, _ => false

/-- The keys of a descriptor with their types, in the order in which they are checked. -/
def Descriptor.keys : List (String × Expected) :=
  [("expr", .string), ("field", .string), ("op", .string), ("value", .number)]

/-- The key is set to a value that does not have its type, and the error says so. -/
def Json.Misfit (v : Json) (k : String × Expected) (e : DecodeError) : Prop :=
  ∃ found, v.Sets k.1 found ∧ k.2.fits found = false ∧ e = .wrongType found k.2

namespace Json

variable {v : Json} {k : String × Expected} {e : DecodeError}

/-- What is wrong with a key. -/
def misfit? (v : Json) (k : String × Expected) : Option DecodeError :=
  (v.getSet? k.1).bind fun found => if k.2.fits found then none else some (.wrongType found k.2)

theorem misfit?_eq_some : v.misfit? k = some e ↔ v.Misfit k e := by
  simp only [misfit?, Option.bind_eq_some_iff, getSet?_eq_some, Misfit]
  refine exists_congr fun found => and_congr_right fun _ => ?_
  cases k.2.fits found with
  | true => simp
  | false => simp [eq_comm]

theorem misfit?_eq_none : v.misfit? k = none ↔ ∀ e, ¬v.Misfit k e := by
  simp only [Option.eq_none_iff_forall_ne_some, ne_eq, misfit?_eq_some]

theorem stringKey_failsWith (v : Json) (key : String) :
    FailsWith (v.misfit? (key, .string)) (v.stringKey key) := by
  rw [misfit?, stringKey]
  cases v.getSet? key with
  | none => exact .ok none
  | some w =>
      rcases w with (_ | b | n | s) | elements | members
      case scalar.string => exact .ok (some s)
      all_goals exact .error _

theorem numberKey_failsWith (v : Json) (key : String) :
    FailsWith (v.misfit? (key, .number)) (v.numberKey key) := by
  rw [misfit?, numberKey]
  cases v.getSet? key with
  | none => exact .ok none
  | some w =>
      rcases w with (_ | b | n | s) | elements | members
      case scalar.number => exact .ok (some n.toFloat)
      all_goals exact .error _

theorem stringKey_eq_ok {o : Option String} {key : String} (h : v.stringKey key = .ok o) (s : String) :
    o = some s ↔ v.Sets key (.string s) := by
  rw [← getSet?_eq_some]
  rw [stringKey] at h
  split at h
  next hunset =>
    cases h
    rw [hunset]
    exact ⟨nofun, nofun⟩
  next hset =>
    cases h
    rw [hset, Option.some_inj, Option.some_inj, scalar.injEq, Scalar.string.injEq]
  next => cases h

theorem numberKey_eq_ok {o : Option Float} {key : String} (h : v.numberKey key = .ok o) (x : Float) :
    o = some x ↔ ∃ n, v.Sets key (.number n) ∧ n.toFloat = x := by
  simp only [← getSet?_eq_some]
  rw [numberKey] at h
  split at h
  next hunset =>
    cases h
    rw [hunset]
    exact ⟨nofun, fun ⟨_, hn, _⟩ => nomatch hn⟩
  next n hset =>
    cases h
    rw [hset]
    constructor
    · intro hx
      exact ⟨n, rfl, Option.some.inj hx⟩
    · rintro ⟨_, hn, rfl⟩
      cases hn
      rfl
  next => cases h

end Json

namespace Descriptor

/-- The first misfit is the error. -/
theorem ofJson_failsWith (ms : List (String × Json)) :
    FailsWith (keys.findSome? (Json.object ms).misfit?) (ofJson (.object ms)) := by
  have hor {k : String × Expected} {ks : List (String × Expected)} :
      (k :: ks).findSome? (Json.object ms).misfit? =
        ((Json.object ms).misfit? k).or (ks.findSome? (Json.object ms).misfit?) := by
    rw [List.findSome?_cons]
    cases (Json.object ms).misfit? k <;> rfl
  rw [keys, hor, hor, hor, hor]
  refine (Json.stringKey_failsWith _ _).bind fun expr _ => ?_
  refine (Json.stringKey_failsWith _ _).bind fun field _ => ?_
  refine (Json.stringKey_failsWith _ _).bind fun op _ => ?_
  exact (Json.numberKey_failsWith _ _).bind fun value _ => .ok _

/-- What is read are the keys that are set. -/
structure Reads (v : Json) (d : Descriptor) : Prop where
  expr (s : String) : d.expr = some s ↔ v.Sets "expr" (.string s)
  field (s : String) : d.field = some s ↔ v.Sets "field" (.string s)
  op (s : String) : d.op = some s ↔ v.Sets "op" (.string s)
  value (x : Float) : d.value = some x ↔ ∃ n, v.Sets "value" (.number n) ∧ n.toFloat = x

theorem reads_of_ofJson {ms : List (String × Json)} {d : Descriptor} (h : ofJson (.object ms) = .ok d) :
    Reads (.object ms) d := by
  obtain ⟨expr, hexpr, h⟩ := bind_eq_ok.mp h
  obtain ⟨field, hfield, h⟩ := bind_eq_ok.mp h
  obtain ⟨op, hop, h⟩ := bind_eq_ok.mp h
  obtain ⟨value, hvalue, h⟩ := bind_eq_ok.mp h
  cases h
  exact ⟨Json.stringKey_eq_ok hexpr, Json.stringKey_eq_ok hfield, Json.stringKey_eq_ok hop,
    Json.numberKey_eq_ok hvalue⟩

end Descriptor

/-! ## Meaning -/

/-- What the keys of a value say is to be done. -/
inductive Json.Means (v : Json) : Action → Prop
  | expression {t : String} (expr : v.Sets "expr" (.string t)) (ne : t ≠ "") : Means v (.expression t)
  | structured {kind : Option Kind} {operand : Float} (expr : ∀ t, v.Sets "expr" (.string t) → t = "")
      (op : ∀ k, kind = some k ↔ v.Sets "op" (.string k.tag))
      (value : ∀ n, v.Sets "value" (.number n) → operand = n.toFloat)
      (unset : (∀ n, ¬v.Sets "value" (.number n)) → operand = 0) : Means v (.structured kind operand)

/-- The operation that the keys of a value describe. -/
structure Describes (v : Json) (o : Operation) : Prop where
  action : v.Means o.action
  field (label : String) : o.field = some label ↔ v.Sets "field" (.string label)

theorem Json.Means.unique {v : Json} {a b : Action} (ha : v.Means a) (hb : v.Means b) : a = b := by
  cases ha with
  | expression expr ne =>
      cases hb with
      | expression expr' _ =>
          cases expr.unique expr'
          rfl
      | structured expr' _ _ _ => exact absurd (expr' _ expr) ne
  | @structured kind operand expr op value unset =>
      cases hb with
      | expression expr' ne => exact absurd (expr _ expr') ne
      | @structured kind' operand' _ op' value' unset' =>
          have hkind : kind = kind' := by
            apply Option.ext
            intro k
            rw [op, op']
          have hoperand : operand = operand' := by
            by_cases hset : ∃ n, v.Sets "value" (.number n)
            · obtain ⟨n, hn⟩ := hset
              rw [value n hn, value' n hn]
            · rw [unset (not_exists.mp hset), unset' (not_exists.mp hset)]
          rw [hkind, hoperand]

theorem Describes.unique {v : Json} {o o' : Operation} (h : Describes v o) (h' : Describes v o') :
    o = o' := by
  obtain ⟨action, field⟩ := o
  obtain ⟨action', field'⟩ := o'
  obtain rfl : action = action' := h.action.unique h'.action
  obtain rfl : field = field' := by
    apply Option.ext
    intro label
    rw [h.field label, h'.field label]
  rfl

theorem Kind.ofTag?_eq_some {tag : String} {k : Kind} : ofTag? tag = some k ↔ k.tag = tag := by
  constructor
  · intro h
    simpa using List.find?_some h
  · rintro rfl
    exact ofTag?_tag k

namespace Descriptor

variable {v : Json} {d : Descriptor}

theorem value_kind (d : Descriptor) :
    d.kind.value = (d.op.filter (!·.isEmpty)).bind Kind.ofTag? := by
  rw [kind]
  cases d.op.filter (!·.isEmpty) with
  | none => rfl
  | some tag =>
      show _ = Kind.ofTag? tag
      dsimp only
      cases Kind.ofTag? tag <;> rfl

/-- The empty tag is no exception: no kind has it. -/
theorem value_kind_eq_some {k : Kind} : d.kind.value = some k ↔ d.op = some k.tag := by
  rw [value_kind, Option.bind_eq_some_iff]
  constructor
  · rintro ⟨tag, htag, hk⟩
    rw [Kind.ofTag?_eq_some.mp hk]
    exact (Option.filter_eq_some_iff.mp htag).1
  · intro hop
    refine ⟨k.tag, Option.filter_eq_some_iff.mpr ⟨hop, ?_⟩, Kind.ofTag?_tag k⟩
    have hne : k.tag ≠ "" := by
      intro h
      have hnone : Kind.ofTag? "" = none := by decide
      rw [Kind.ofTag?_eq_some.mpr h] at hnone
      cases hnone
    simpa using hne

theorem Reads.describes (h : Reads v d) : Describes v d.operation.value := by
  rw [operation]
  cases hexpr : d.expr.filter (!·.isEmpty) with
  | some t =>
      obtain ⟨hset, hne⟩ := Option.filter_eq_some_iff.mp hexpr
      exact ⟨.expression ((h.expr t).mp hset) (by simpa using hne), h.field⟩
  | none =>
      refine ⟨.structured (fun t ht => ?_) (fun k => ?_) (fun n hn => ?_) fun hunset => ?_, h.field⟩
      · have hno := Option.filter_eq_none_iff.mp hexpr t ((h.expr t).mpr ht)
        simpa using hno
      · exact value_kind_eq_some.trans (h.op k.tag)
      · rw [(h.value n.toFloat).mpr ⟨n, hn, rfl⟩]
        rfl
      · have hnone : d.value = none := by
          rw [Option.eq_none_iff_forall_ne_some]
          intro x hx
          obtain ⟨n, hn, -⟩ := (h.value x).mp hx
          exact hunset n hn
        rw [hnone]
        rfl

end Descriptor

namespace Operation

theorem outcome_ofJson (v : Json) :
    (ofJson v).outcome = (Descriptor.ofJson v).map fun d => d.operation.value := by
  rw [ofJson]
  cases Descriptor.ofJson v <;> rfl

theorem outcome_ofJson_eq_error {ms : List (String × Json)} {e : DecodeError} :
    (ofJson (.object ms)).outcome = .error e ↔
      Descriptor.keys.findSome? (Json.object ms).misfit? = some e := by
  rw [← (Descriptor.ofJson_failsWith ms).eq_error_iff, outcome_ofJson]
  cases Descriptor.ofJson (.object ms) with
  | error e' =>
      constructor
      · intro h; cases h; rfl
      · intro h; cases h; rfl
  | ok d => exact ⟨nofun, nofun⟩

theorem outcome_ofJson_eq_ok {ms : List (String × Json)} {o : Operation} :
    (ofJson (.object ms)).outcome = .ok o ↔
      Descriptor.keys.findSome? (Json.object ms).misfit? = none ∧ Describes (.object ms) o := by
  have hfails := Descriptor.ofJson_failsWith ms
  rw [outcome_ofJson]
  cases hd : Descriptor.ofJson (.object ms) with
  | error e =>
      rw [hfails.eq_some hd]
      exact ⟨nofun, fun h => nomatch h.1⟩
  | ok d =>
      have hdescribes := (Descriptor.reads_of_ofJson hd).describes
      constructor
      · intro h
        cases h
        exact ⟨hfails.eq_none hd, hdescribes⟩
      · rintro ⟨-, ho⟩
        exact congrArg Except.ok (hdescribes.unique ho)

/-- Of an object nothing plays a role but the values to which the four keys are set. -/
theorem ofJson_congr {ms ms' : List (String × Json)}
    (h : ∀ k ∈ Descriptor.keys, ∀ w, (Json.object ms).Sets k.1 w ↔ (Json.object ms').Sets k.1 w) :
    ofJson (.object ms) = ofJson (.object ms') := by
  have hkey (k : String × Expected) (hk : k ∈ Descriptor.keys) :
      (Json.object ms).getSet? k.1 = (Json.object ms').getSet? k.1 :=
    Json.getSet?_congr (h k hk)
  have hexpr := hkey ("expr", .string) (by decide)
  have hfield := hkey ("field", .string) (by decide)
  have hop := hkey ("op", .string) (by decide)
  have hvalue := hkey ("value", .number) (by decide)
  have hdescriptor : Descriptor.ofJson (.object ms) = Descriptor.ofJson (.object ms') := by
    simp only [Descriptor.ofJson, Json.stringKey, Json.numberKey, hexpr, hfield, hop, hvalue]
  rw [ofJson, ofJson, hdescriptor]

end Operation

/-! ## The headline theorem -/

/-- **A value is decoded by its four keys.** A value that is no object is refused, with its compact text in
the message. An object is refused exactly if one of the four keys is set to a value of another type, for the
first such key in the order of checks, whether the key is needed or not. Otherwise the result is the one
operation that the keys describe. Objects that set the four keys alike are decoded alike. -/
theorem decoding_iff_describes :
    (∀ v : Json, (∀ ms, v ≠ .object ms) →
      (Operation.ofJson v).outcome = .error (.notAnObject v) ∧
      ∀ syntaxError, (DecodeError.notAnObject v).message syntaxError =
        "invalid operation descriptor: expected an object, found " ++ v.compact) ∧
    ∀ ms : List (String × Json),
      ((∃ e, (Operation.ofJson (.object ms)).outcome = .error e) ↔
        ∃ k ∈ Descriptor.keys, ∃ e, (Json.object ms).Misfit k e) ∧
      (∀ e, (Operation.ofJson (.object ms)).outcome = .error e ↔
        ∃ before k after, Descriptor.keys = before ++ k :: after ∧ (Json.object ms).Misfit k e ∧
          ∀ k' ∈ before, ∀ e', ¬(Json.object ms).Misfit k' e') ∧
      (∀ o, (Operation.ofJson (.object ms)).outcome = .ok o ↔
        (∀ k ∈ Descriptor.keys, ∀ e, ¬(Json.object ms).Misfit k e) ∧ Describes (.object ms) o) ∧
      ∀ ms' : List (String × Json),
        (∀ k ∈ Descriptor.keys, ∀ w, (Json.object ms).Sets k.1 w ↔ (Json.object ms').Sets k.1 w) →
          Operation.ofJson (.object ms) = Operation.ofJson (.object ms') := by
  refine ⟨fun v hv => ⟨?_, fun _ => rfl⟩, fun ms => ?_⟩
  · rw [Operation.outcome_ofJson]
    cases v with
    | object ms => exact absurd rfl (hv ms)
    | scalar v => rfl
    | array elements => rfl
  · refine ⟨?_, fun e => ?_, fun o => ?_, fun ms' => Operation.ofJson_congr⟩
    · simp only [Operation.outcome_ofJson_eq_error, ← Json.misfit?_eq_some, ← Option.isSome_iff_exists,
        List.findSome?_isSome_iff]
    · simp only [Operation.outcome_ofJson_eq_error, List.findSome?_eq_some_iff, Json.misfit?_eq_some,
        Json.misfit?_eq_none]
    · simp only [Operation.outcome_ofJson_eq_ok, List.findSome?_eq_none_iff, Json.misfit?_eq_none]

/-- An expression does not excuse a tag that is a number; a key that is not looked at excuses itself. -/
theorem decoding_of_needless_tag :
    (Operation.ofJson (.array [])).outcome = .error (.notAnObject (.array [])) ∧
    (Operation.ofJson (.object [("expr", .string "x*2"), ("op", .number (.integer 5 (by decide)))])).outcome =
      .error (.wrongType (.number (.integer 5 (by decide))) .string) ∧
    Operation.ofJson (.object [("note", .bool true), ("op", .string "abs")]) =
      Operation.ofJson (.object [("op", .string "abs")]) := by
  refine ⟨(decoding_iff_describes.1 (.array []) nofun).1, ?_, ?_⟩
  · refine ((decoding_iff_describes.2 _).2.1 _).mpr
      ⟨[("expr", .string), ("field", .string)], ("op", .string), [("value", .number)], rfl, ?_, ?_⟩
    · exact ⟨_, ⟨rfl, nofun⟩, rfl, rfl⟩
    · simp [Json.Misfit, Json.Sets, Json.get?, List.lookup_cons, Expected.fits]
  · refine (decoding_iff_describes.2 _).2.2.2 _ ?_
    simp [Descriptor.keys, Json.Sets, Json.get?, List.lookup_cons]

end Reckon
