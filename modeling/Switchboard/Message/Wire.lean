import Switchboard.Json.Decode
import Switchboard.Json.Reader
import Switchboard.Json.Writer
import Switchboard.Message

/-!
# Messages as JSON

The wire form of a message: its id, its body and its attributes, in that order, the attributes in
increasing order of their names.  Of an attribute that is given twice the last value counts.

Main results:

- Definition {lit}`Message.toText`: the text of a message.
- Definition {lit}`Message.ofText?`: the message of a text.
- Theorem {lit}`Message.ofJson?_toJson`: the value of a message reads back.
-/

namespace Switchboard
namespace Message

/-- The names of the members, in the order of writing. -/
def members : List String :=
  ["id", "body", "attributes"]

/-- The JSON value of a message. -/
def toJson (m : Message) : Json :=
  .record [("id", .str m.id), ("body", .str m.body),
    ("attributes", .record (m.attributes.entries.map fun entry => (entry.1, .str entry.2)))]

/-- The attributes in an object whose members are all texts. -/
def attributes? (value : Json) : Option (Dictionary String) := do
  let members ← value.members?
  let pairs ← members.mapM fun entry => entry.2.text?.map fun value => (entry.1, value)
  return Dictionary.ofList pairs

/-- The message that a JSON value stands for. -/
def ofJson? (value : Json) : Option Message := do
  let fields ← value.fields? members
  let id ← fields.require 0 Json.text?
  let body ← fields.require 1 Json.text?
  let attributes ← fields.require 2 attributes?
  return ⟨id, body, attributes⟩

/-- The text of a message. -/
def toText (m : Message) : String :=
  m.toJson.compact

/-- The message that a text stands for. -/
def ofText? (text : String) : Option Message :=
  (Json.parse text).bind ofJson?

/-- Attributes are read back from their own value. -/
theorem attributes?_record (d : Dictionary String) :
    attributes? (.record (d.entries.map fun entry => (entry.1, .str entry.2))) = some d := by
  have hnamed : ∀ l : List (String × String),
      Json.namedMembers? ((l.map fun entry => (entry.1, Json.str entry.2)).map fun member =>
        (some member.1, member.2)) = some (l.map fun entry => (entry.1, Json.str entry.2)) := by
    intro l
    induction l with
    | nil => rfl
    | cons head rest ih =>
      simp only [Json.namedMembers?, List.map_cons, List.mapM_cons] at ih ⊢
      rw [ih]
      rfl
  have htexts : ∀ l : List (String × String),
      (l.map fun entry => (entry.1, Json.str entry.2)).mapM
        (fun entry => entry.2.text?.map fun value => (entry.1, value)) = some l := by
    intro l
    induction l with
    | nil => rfl
    | cons head rest ih =>
      rw [List.map_cons, List.mapM_cons, ih]
      rfl
  simp only [attributes?, Json.record, Json.members?, hnamed, htexts, Option.bind_eq_bind,
    Option.bind_some, Option.pure_def, Dictionary.ofList_entries]

/-- The value of a message reads back as the message. -/
theorem ofJson?_toJson (m : Message) : ofJson? m.toJson = some m := by
  have hfields : m.toJson.fields? members = some ⟨false, [some (.str m.id), some (.str m.body),
      some (.record (m.attributes.entries.map fun entry => (entry.1, .str entry.2)))]⟩ := by
    rfl
  simp only [ofJson?, hfields, Option.bind_eq_bind, Option.bind_some, Json.Fields.require,
    Json.Fields.found, List.getElem?_cons_zero, List.getElem?_cons_succ, Option.join_some,
    attributes?_record]
  rfl

end Message
end Switchboard
