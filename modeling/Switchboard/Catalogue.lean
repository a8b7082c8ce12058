import Switchboard.Refusal

/-!
# Catalogues

What a service can dispatch: its payload types with their tags and wire forms, the types that its
queries return, and the store that its handlers share.  Everything else is stated for an arbitrary
catalogue.

Main definitions:

- Definition {lit}`Catalogue`: the payload types, result types and store of a service.
- Definition {lit}`Result`: a query result, one item or a sequence of items.
-/

namespace Switchboard

/-- The payload types, the result types and the store of a service. -/
structure Catalogue where
  /-- The payload types. -/
  Kind : Type
  /-- Payload types can be told apart, whatever their tags. -/
  kindDecEq : DecidableEq Kind
  /-- The payloads of a type. -/
  Value : Kind → Type
  /-- The tag that stands for a payload type in registries and messages; two types may share one. -/
  tag : Kind → String
  /-- The attributes that a payload adds to its message. -/
  attributes : {kind : Kind} → Value kind → List (String × String)
  /-- The text of a payload, unless it refuses to be written. -/
  encode : {kind : Kind} → Value kind → Except Refusal String
  /-- The payload of a type that a text stands for. -/
  decode : (kind : Kind) → String → Option (Value kind)
  /-- The types that queries return. -/
  Answer : Type
  /-- Result types can be told apart. -/
  answerDecEq : DecidableEq Answer
  /-- The items that results of a type are made of. -/
  Item : Answer → Type
  /-- The name of a result type in error messages. -/
  answerName : Answer → String
  /-- The store that handlers and queries share. -/
  Store : Type

instance (C : Catalogue) : DecidableEq C.Kind := C.kindDecEq

instance (C : Catalogue) : DecidableEq C.Answer := C.answerDecEq

/-- A query result: a single item, or a sequence of items. -/
inductive Result (α : Type) where
  | single (item : α)
  | sequence (items : List α)
deriving DecidableEq

/-- The items of a result. -/
def Result.items {α : Type} : Result α → List α
  | single item => [item]
  | sequence items => items

end Switchboard
