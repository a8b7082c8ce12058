import Switchboard.Message.Wire
import Switchboard.Proofs.Facade.Imprint
import Switchboard.Proofs.Query.Confinement
import Switchboard.Proofs.Sample.Payload

/-!
# Messages over the wire

The text of a message stands for that message and no other, whatever its id, its body and its
attributes are made of.  The body is itself a JSON text, which is written once more as a text within
the message, so a payload comes back if it comes back from its own text.

Main results:

- Theorem {lit}`Message.ofText?_toText`: a message is read back from its text.
- Definition {lit}`Catalogue.Invertible`: the payload types that are read back from their texts.
- Theorem {lit}`Catalogue.Invertible.of_json`: those whose JSON values are.
- Theorem {lit}`Message.wire_roundTrip`: what comes back over the wire.
-/

namespace Switchboard

variable {C : Catalogue} {kind : C.Kind}

/-! ## Payloads -/

/-- Every payload of a type that can be written is read back from its text. -/
def Catalogue.Invertible (C : Catalogue) (kind : C.Kind) : Prop :=
  ∀ (payload : C.Value kind) (text : String),
    C.encode payload = .ok text → C.decode kind text = some payload

/-- A type is read back from its texts if it is from their JSON values, and these need no numbers
with fractions or exponents. -/
theorem Catalogue.Invertible.of_json {toJson : C.Value kind → Except Refusal Json}
    {ofJson? : Json → Option (C.Value kind)}
    (hencode : ∀ payload : C.Value kind, C.encode payload = (toJson payload).map Json.compact)
    (hdecode : ∀ text, C.decode kind text = (Json.parse text).bind ofJson?)
    (hform : ∀ payload value, toJson payload = .ok value →
      value.Whole ∧ ofJson? value = some payload) : C.Invertible kind := by
  intro payload text h
  rw [hencode] at h
  cases hvalue : toJson payload with
  | error refusal =>
    rw [hvalue] at h
    cases h
  | ok value =>
    rw [hvalue] at h
    cases h
    obtain ⟨hwhole, hread⟩ := hform payload value hvalue
    rw [hdecode, Json.parse_compact hwhole, Option.bind_some, hread]

/-- All payload types of the sample service are read back from their texts, except for the sealed
one. -/
theorem Sample.invertible_of_ne (answerName : Sample.Answer → String) {kind : Sample.Kind}
    (hkind : kind ≠ .sealed) : (Sample.catalogue answerName).Invertible kind :=
  .of_json (fun _ => rfl) (fun _ => rfl) fun _ _ => Sample.ofJson?_toJson hkind

namespace Message

/-! ## Messages -/

/-- The value of a message has no numbers at all. -/
theorem whole_toJson (m : Message) : m.toJson.Whole := by
  refine ⟨trivial, trivial, ?_, trivial⟩
  apply Json.whole_record
  intro member hmember
  obtain ⟨entry, -, rfl⟩ := List.mem_map.mp hmember
  trivial

/-- A message is read back from its text. -/
theorem ofText?_toText (m : Message) : ofText? m.toText = some m := by
  rw [ofText?, toText, Json.parse_compact m.whole_toJson, Option.bind_some, ofJson?_toJson]

/-- A message under further attributes. -/
def withAttributes (m : Message) (attributes : List (String × String)) : Message :=
  { m with attributes := m.attributes.insertAll attributes }

/-- A message came over the wire: its text is read back as the message, with all its attributes, and
its body as the payload. -/
def Conveys (m : Message) (payload : C.Value kind) : Prop :=
  ∃ received, ofText? m.toText = some received ∧ received.id = m.id ∧
    received.attributes = m.attributes ∧ received.decode kind = some payload

/-- Whatever else a message bears, it conveys the payload whose text it has for its body. -/
theorem conveys_of_body {m : Message} {payload : C.Value kind}
    (hkind : C.Invertible kind) (hbody : C.encode payload = .ok m.body) : m.Conveys payload :=
  ⟨m, m.ofText?_toText, rfl, rfl, hkind payload m.body hbody⟩

/-- Every message is read back from its text; so what a text is accepted as does not change when it
is written and read again.  A payload of an invertible type can be encoded and comes back over the
wire, under any attributes, of which the last of a name counts, before those of the payload and the
tag; and it comes back from the messages that façades publish. -/
theorem wire_roundTrip :
    (∀ m : Message, ofText? m.toText = some m) ∧
    (∀ text m, ofText? text = some m → ofText? m.toText = some m) ∧
    (∀ (C : Catalogue) (kind : C.Kind), C.Invertible kind →
      ∀ (payload : C.Value kind) (text : String), C.encode payload = .ok text → ∀ id : String,
        (∀ attributes, ∃ own, encode id payload = .ok own ∧
          (own.withAttributes attributes).Conveys payload ∧
          ∀ key, (own.withAttributes attributes).attributeValue key =
            ((Dictionary.ofList attributes).find? key).or ((C.written payload key).or
              (if key = typeInfoKey then some (C.tag kind) else none))) ∧
        ∀ ctx organisation, ∃ m, Facade.compose id ctx payload organisation = .ok m ∧
          m.Conveys payload) ∧
    ∀ (answerName : Sample.Answer → String) (kind : Sample.Kind), kind ≠ .sealed →
      (Sample.catalogue answerName).Invertible kind := by
  refine ⟨ofText?_toText, fun _ m _ => m.ofText?_toText, ?_, ?_⟩
  · intro C kind hkind payload text htext id
    obtain ⟨own, hown, hbody⟩ := body_encode id htext
    constructor
    · intro attributes
      refine ⟨own, hown, conveys_of_body hkind (by rw [htext, ← hbody]; rfl), ?_⟩
      intro key
      rw [attributeValue, withAttributes, Dictionary.find?_insertAll_or]
      exact congrArg _ (attributeValue_encode hown key)
    · intro ctx organisation
      refine ⟨_, Facade.compose_eq_ok_iff.mpr ⟨own, hown, rfl⟩, conveys_of_body hkind ?_⟩
      rw [body_withAttribute?, body_withAttribute?, htext, hbody]
  · intro answerName kind hkind
    exact Sample.invertible_of_ne answerName hkind

/-- A note comes back with its quotes and control characters, under one attribute of its own and one
of the publisher. -/
theorem wire_roundTrip_note :
    let note : Sample.bank.Value .note :=
      Sample.Note.mk "\"é\"\n\x01\\" (-3) ["a", "\"b\""] none [("own\"", "\t")]
    let attributes := [("correlation-id", "\"c\"")]
    Sample.bank.Invertible .note ∧ ∃ text own, Sample.bank.encode note = .ok text ∧
      encode "7" note = .ok own ∧ (own.withAttributes attributes).Conveys note := by
  intro note attributes
  obtain ⟨-, -, hconveys, hinvertible⟩ := wire_roundTrip
  have hkind : Sample.bank.Invertible .note := hinvertible _ .note (by decide)
  obtain ⟨own, hown, hconveyed, -⟩ := (hconveys Sample.bank .note hkind note _ rfl "7").1 attributes
  exact ⟨hkind, _, own, rfl, hown, hconveyed⟩

end Message
end Switchboard
