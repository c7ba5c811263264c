import Reckon.Proofs.Json.RoundTrip
import Reckon.Proofs.Operation.Decoding

/-!
# The text of a descriptor

A descriptor may be handed over as a JSON value or as a text. Here the members of an object are written in any
order, with any spaces between the lexemes, and perhaps several of them with one key: the operation that the text
describes, or the error, is that of the object which keeps the last member of every key.

That the last one counts is settled before any type is looked at. A member of the wrong type is therefore never
reported if the same key comes again (`lookup_of_parse_error`).
-/

namespace Reckon.Operation

variable {members : List (String × Json)} {text : String}

theorem parse_eq_ofJson {v : Json} (h : Json.parse? text = some v) : parse text = ofJson v := by
  rw [parse, h]

theorem parse_spaced {v : Json} (hordered : v.Ordered) (hexact : v.Exact) (hdepth : v.depth ≤ Json.maxDepth)
    (hs : Json.Spaced v.toLexemes text.toList) : parse text = ofJson v :=
  parse_eq_ofJson (Json.parse?_spaced hordered hexact hdepth hs)

/-- The error names the last value of its key. -/
theorem lookup_of_parse_error (h : parse text = ofJson (.ofMembers members)) {e : DecodeError}
    (he : (parse text).outcome = .error e) :
    ∃ k ∈ Descriptor.keys, ∃ found, members.reverse.lookup k.1 = some found ∧ e = .wrongType found k.2 := by
  rw [h, Json.ofMembers_eq, outcome_ofJson_eq_error] at he
  obtain ⟨k, hk, hmisfit⟩ := List.exists_of_findSome?_eq_some he
  obtain ⟨found, hset, -, rfl⟩ := Json.misfit?_eq_some.mp hmisfit
  refine ⟨k, hk, found, ?_, rfl⟩
  rw [← Json.get?_ofMembers]
  exact hset.1

end Reckon.Operation

namespace Reckon

/-! ## The headline theorem -/

/-- **A text describes what its object describes.** The members are written one after the other, those of one key
as often as they come, and with any spaces between the lexemes. The text is decoded as the object that has the last
value of each key, with the same records; an error names such a last value. The compact text of this object and its
text over several lines are decoded alike. The doubles among the members have to be read back from their written
form, and at most 127 arrays and objects may be open at a time. -/
theorem parse_members_text {members : List (String × Json)} (hordered : ∀ m ∈ members, m.2.Ordered)
    (hexact : (Json.object members).Exact) (hdepth : (Json.object members).depth < 128) :
    (∀ key, (Json.ofMembers members).get? key = members.reverse.lookup key) ∧
    (∀ text : String, Json.Spaced (Json.object members).toLexemes text.toList →
      Operation.parse text = Operation.ofJson (.ofMembers members) ∧
      ∀ e, (Operation.parse text).outcome = .error e →
        ∃ k ∈ Descriptor.keys, ∃ found,
          members.reverse.lookup k.1 = some found ∧ e = .wrongType found k.2) ∧
    Operation.parse ("\x7b" ++
        ",".intercalate (members.map fun m => (Json.string m.1).compact ++ ":" ++ m.2.compact) ++ "\x7d") =
      Operation.ofJson (.ofMembers members) ∧
    Operation.parse (Json.ofMembers members).compact = Operation.ofJson (.ofMembers members) ∧
    Operation.parse (Json.ofMembers members).pretty = Operation.ofJson (.ofMembers members) := by
  have hle : (Json.object members).depth ≤ Json.maxDepth := Nat.le_of_lt_succ hdepth
  have htext (text : String) (hs : Json.Spaced (Json.object members).toLexemes text.toList) :
      Operation.parse text = Operation.ofJson (.ofMembers members) :=
    Operation.parse_eq_ofJson (Json.parse?_members hordered hexact hle hs)
  have hwritten (text : String) (hs : Json.Spaced (Json.ofMembers members).toLexemes text.toList) :
      Operation.parse text = Operation.ofJson (.ofMembers members) :=
    Operation.parse_spaced (Json.ordered_ofMembers hordered) (Json.exact_ofMembers hexact)
      (Nat.le_trans (Json.depth_ofMembers_le members) hle) hs
  refine ⟨Json.get?_ofMembers members, fun text hs => ?_, ?_, ?_, ?_⟩
  · exact ⟨htext text hs, fun e => Operation.lookup_of_parse_error (htext text hs)⟩
  · rw [← Json.compact_object]
    exact htext _ (Json.spaced_compact _)
  · exact hwritten _ (Json.spaced_compact _)
  · exact hwritten _ (Json.spaced_pretty _)

/-- The number of the first tag is not reported, since a tag of the right type follows. -/
theorem parse_members_text_repeated :
    ∃ members : List (String × Json), (Json.object members).Exact ∧ (Json.object members).depth < 128 ∧
      members.lookup "op" = some (.number (.integer 5 (by decide))) ∧
      Operation.parse "\x7b\"op\":5,\"value\":2.5,\"op\":\"*\"\x7d" = Operation.ofJson (.ofMembers members) ∧
      (Operation.ofJson (.ofMembers members)).outcome =
        .ok ⟨.structured (some (.arithmetic .multiply)) 2.5, none⟩ := by
  let members : List (String × Json) :=
    [("op", .number (.integer 5 (by decide))), ("value", .number (.double 2.5 (by decide))), ("op", .string "*")]
  have hordered : ∀ m ∈ members, m.2.Ordered := by
    simp [members, Json.ordered_scalar]
  have hdouble : (Number.double 2.5 (by decide)).ReadsBack := by
    unfold Number.ReadsBack
    decide +kernel
  have hexact : (Json.object members).Exact := by
    simp [members, Json.exact_object, Json.exact_scalar, Number.readsBack_integer, hdouble]
  have hdepth : (Json.object members).depth < 128 := by decide
  refine ⟨members, hexact, hdepth, rfl, ?_, ?_⟩
  · have hcompact : (Json.object members).compact =
        "\x7b\"op\":5,\"value\":2.5,\"op\":\"*\"\x7d" := by decide +kernel
    have htext := (parse_members_text hordered hexact hdepth).2.2.1
    rwa [← Json.compact_object, hcompact] at htext
  · rfl

end Reckon
