import Switchboard.Catalogue
import Switchboard.Context
import Switchboard.Dictionary

/-!
# Messages

What travels over a queue: a body of text beside named attributes.  Three attributes are the
switchboard's own: the tag of the payload type, the correlation id of the chain of work, and the
organisation that a command is meant for.

Main definitions:

- Definition {lit}`Message.encode`: the message of a payload.
- Definition {lit}`Message.decode`: the payload of a message.
- Definition {lit}`Message.receivingContext`: the context in which a message is handled.
-/

namespace Switchboard

/-- A message: an id, a body and attributes. -/
structure Message where
  id : String
  body : String
  attributes : Dictionary String
deriving DecidableEq

namespace Message

/-- The attribute that holds the tag of the payload type. -/
def typeInfoKey : String := "TypeInfo"

/-- The attribute that holds the publisher's correlation id. -/
def correlationKey : String := "correlation-id"

/-- The attribute that holds the organisation a command is meant for. -/
def organisationKey : String := "organisation-id"

/-- A message with a body and no attributes. -/
def plain (id body : String) : Message :=
  ⟨id, body, ∅⟩

/-- Write an attribute, over an earlier one of the same name. -/
def withAttribute (m : Message) (key value : String) : Message :=
  { m with attributes := m.attributes.insert key value }

/-- Write an attribute if it has a value. -/
def withAttribute? (m : Message) (key : String) : Option String → Message
  | some value => m.withAttribute key value
  | none => m

/-- The value of an attribute. -/
def attributeValue (m : Message) (key : String) : Option String :=
  m.attributes.find? key

/-- The tag of the payload type, if the message bears one. -/
def typeInfo (m : Message) : Option String :=
  m.attributeValue typeInfoKey

variable {C : Catalogue}

/-- The message of a payload: its text, tagged with its type, and the attributes it adds itself,
which are written last. -/
def encode (id : String) {kind : C.Kind} (payload : C.Value kind) : Except Refusal Message :=
  (C.encode payload).map fun body =>
    let tagged := (plain id body).withAttribute typeInfoKey (C.tag kind)
    { tagged with attributes := tagged.attributes.insertAll (C.attributes payload) }

/-- The payload of a type that the body stands for. -/
def decode (kind : C.Kind) (m : Message) : Option (C.Value kind) :=
  C.decode kind m.body

/-- The organisation that a message names, if it spells an identifier. -/
def organisation (m : Message) : Option Uuid :=
  (m.attributeValue organisationKey).bind Uuid.parse

/-- The context in which a message is handled: that of the chain of work it names, or of a fresh
one. -/
def receivingContext (m : Message) (freshId : String) : Context :=
  Context.received (m.attributeValue correlationKey) freshId

end Message
end Switchboard
