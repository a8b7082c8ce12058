import Switchboard.Json.Decode
import Switchboard.Json.Reader
import Switchboard.Json.Writer
import Switchboard.Refusal
import Switchboard.Uuid

/-!
# Payloads of a sample service

The payload types of a small service for invoices and notes, each with its tag and its JSON form.
Two pairs of types share a tag, and one type may refuse to be written.

Main definitions:

- Definition {lit}`Sample.Kind`: the payload types.
- Definition {lit}`Sample.Kind.tag`: their tags.
- Definition {lit}`Sample.encode` and {lit}`Sample.decode`: their texts.
-/

namespace Switchboard
namespace Sample

/-! ## Types -/

/-- Asks for an invoice. -/
structure CreateInvoice where
  id : Uuid
  organisation : Uuid
  amount : UInt64
deriving DecidableEq

/-- Asks for an invoice in an older form, under the same tag. -/
structure LegacyCreateInvoice where
  amount : UInt64
deriving DecidableEq

/-- Takes an invoice back. -/
structure VoidInvoice where
  id : Uuid
deriving DecidableEq

/-- Tells that an invoice was paid. -/
structure InvoicePaid where
  id : Uuid
  amount : UInt64
deriving DecidableEq

/-- Pretends that an invoice was paid, under the same tag. -/
structure FakeInvoicePaid where
  amount : Int64
deriving DecidableEq

/-- A note, which names attributes for its own message. -/
structure Note where
  text : String
  priority : Int32
  tags : List String
  replyTo : Option String
  attributes : List (String × String)
deriving DecidableEq

/-- A payload without content. -/
inductive Ping where
  | ping
deriving DecidableEq

/-- A payload that shows nothing of itself, and may refuse to be written. -/
structure Sealed where
  refusal : Option String
deriving DecidableEq

/-- Tells that something was paid in the end. -/
structure EventuallyPaid where
  amount : UInt32
deriving DecidableEq

/-- A shape. -/
inductive Shape where
  | blank
  | circle (radius : UInt32)
  | square (x y : Int8)
  | label (text : String)
deriving DecidableEq

/-- The payload types. -/
inductive Kind where
  | createInvoice
  | legacyCreateInvoice
  | voidInvoice
  | invoicePaid
  | fakeInvoicePaid
  | note
  | ping
  | sealed
  | eventuallyPaid
  | shape
deriving DecidableEq

namespace Kind

/-- The payloads of a type. -/
abbrev Value : Kind → Type
  | createInvoice => CreateInvoice
  | legacyCreateInvoice => LegacyCreateInvoice
  | voidInvoice => VoidInvoice
  | invoicePaid => InvoicePaid
  | fakeInvoicePaid => FakeInvoicePaid
  | note => Note
  | ping => Ping
  | sealed => Sealed
  | eventuallyPaid => EventuallyPaid
  | shape => Shape

/-- The tag of a payload type. -/
def tag : Kind → String
  | createInvoice => "api.CreateInvoice"
  | legacyCreateInvoice => "api.CreateInvoice"
  | voidInvoice => "VoidInvoice"
  | invoicePaid => "events.InvoicePaidEvent"
  | fakeInvoicePaid => "events.InvoicePaidEvent"
  | note => "notes.AddNote"
  | ping => "Ping"
  | sealed => "Opaque"
  | eventuallyPaid => "EventuallyPaid"
  | shape => "shapes.API.Shape"

end Kind

/-- The attributes that a payload adds to its message: a note names its own. -/
def attributes : {kind : Kind} → kind.Value → List (String × String)
  | .note, note => Note.attributes note
  | _, _ => []

/-! ## Writing -/

/-- The JSON value of a shape: its name, with its content if it has any. -/
def Shape.toJson : Shape → Json
  | blank => .str "Empty"
  | circle radius => .record [("Circle", .record [("r", .nat radius.toNat)])]
  | square x y => .record [("Square", .array [.int x.toInt, .int y.toInt])]
  | label text => .record [("Label", .str text)]

/-- The JSON value of a note. -/
def Note.toJson (n : Note) : Json :=
  .record [("text", .str n.text), ("priority", .int n.priority.toInt), ("tags", .strs n.tags),
    ("reply_to", .optionalStr n.replyTo),
    ("attributes", .array (n.attributes.map fun entry => .strs [entry.1, entry.2]))]

/-- The JSON value of a payload, unless it refuses to be written. -/
def toJson : {kind : Kind} → kind.Value → Except Refusal Json
  | .createInvoice, (p : CreateInvoice) =>
    .ok (.record [("id", .str p.id.text), ("organisation_id", .str p.organisation.text),
      ("amount", .nat p.amount.toNat)])
  | .legacyCreateInvoice, (p : LegacyCreateInvoice) =>
    .ok (.record [("amount", .nat p.amount.toNat)])
  | .voidInvoice, (p : VoidInvoice) => .ok (.record [("id", .str p.id.text)])
  | .invoicePaid, (p : InvoicePaid) =>
    .ok (.record [("id", .str p.id.text), ("amount", .nat p.amount.toNat)])
  | .fakeInvoicePaid, (p : FakeInvoicePaid) => .ok (.record [("amount", .int p.amount.toInt)])
  | .note, (p : Note) => .ok p.toJson
  | .ping, _ => .ok .null
  | .sealed, (p : Sealed) =>
    match p.refusal with
    | some text => .error (Refusal.ofText text)
    | none => .ok (.str "opaque")
  | .eventuallyPaid, (p : EventuallyPaid) => .ok (.nat p.amount.toNat)
  | .shape, (p : Shape) => .ok p.toJson

/-- The text of a payload, unless it refuses to be written. -/
def encode {kind : Kind} (payload : kind.Value) : Except Refusal String :=
  (toJson payload).map Json.compact

/-! ## Reading -/

/-- The radius in the content of a circle. -/
def radius? (value : Json) : Option UInt32 := do
  (← value.fields? ["r"]).require 0 Json.uint32?

/-- The shape that a JSON value stands for. -/
def Shape.ofJson? : Json → Option Shape
  | .text content => if content = some "Empty" then some .blank else none
  | .object [(some name, content)] =>
    if name = "Empty" then
      match content with
      | .null => some .blank
      | _ => none
    else if name = "Circle" then (radius? content).map .circle
    else if name = "Square" then
      (Json.pair? Json.int8? Json.int8? content).map fun sides => .square sides.1 sides.2
    else if name = "Label" then content.text?.map .label
    else none
  | _ => none

/-- The note that a JSON value stands for; only its text must be given. -/
def Note.ofJson? (value : Json) : Option Note := do
  let fields ← value.fields? ["text", "priority", "tags", "reply_to", "attributes"]
  let text ← fields.require 0 Json.text?
  let priority ← fields.orElse 1 Json.int32? 0
  let tags ← fields.orElse 2 (Json.list? Json.text?) []
  let replyTo ← fields.optional 3 Json.text?
  let attributes ← fields.orElse 4 (Json.list? (Json.pair? Json.text? Json.text?)) []
  return ⟨text, priority, tags, replyTo, attributes⟩

/-- The payload of a type that a JSON value stands for. -/
def ofJson? : (kind : Kind) → Json → Option kind.Value
  | .createInvoice, value => do
    let fields ← value.fields? ["id", "organisation_id", "amount"]
    let id ← fields.require 0 Json.uuid?
    let organisation ← fields.require 1 Json.uuid?
    let amount ← fields.require 2 Json.uint64?
    return CreateInvoice.mk id organisation amount
  | .legacyCreateInvoice, value => do
    let fields ← value.fields? ["amount"]
    return LegacyCreateInvoice.mk (← fields.require 0 Json.uint64?)
  | .voidInvoice, value => do
    let fields ← value.fields? ["id"]
    return VoidInvoice.mk (← fields.require 0 Json.uuid?)
  | .invoicePaid, value => do
    let fields ← value.fields? ["id", "amount"]
    let id ← fields.require 0 Json.uuid?
    let amount ← fields.require 1 Json.uint64?
    return InvoicePaid.mk id amount
  | .fakeInvoicePaid, value => do
    let fields ← value.fields? ["amount"]
    return FakeInvoicePaid.mk (← fields.require 0 Json.int64?)
  | .note, value => Note.ofJson? value
  | .ping, value =>
    match value with
    | .null => some Ping.ping
    | _ => none
  | .sealed, value => do
    let fields ← value.fields? ["fail"]
    return Sealed.mk (← fields.optional 0 Json.text?)
  | .eventuallyPaid, value => value.uint32?.map EventuallyPaid.mk
  | .shape, value => Shape.ofJson? value

/-- The payload of a type that a text stands for. -/
def decode (kind : Kind) (text : String) : Option kind.Value :=
  (Json.parse text).bind (ofJson? kind)

end Sample
end Switchboard
