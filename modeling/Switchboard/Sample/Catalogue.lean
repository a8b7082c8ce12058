import Switchboard.Catalogue
import Switchboard.Sample.Payload

/-!
# A sample service

The catalogue of the sample service: its payload types, the results of its queries, and its store
of handled commands and accounts.

Main definitions:

- Definition {lit}`Sample.catalogue`: the catalogue.
- Definition {lit}`Sample.Answer`: the result types.
- Definition {lit}`Sample.Store`: the store.
-/

namespace Switchboard
namespace Sample

/-- An account of an organisation. -/
structure Account where
  id : String
  organisation : Uuid
  name : String
deriving DecidableEq

/-- A book of an organisation, which belongs to its owner. -/
structure Book where
  organisation : Uuid
  owner : Uuid
  title : String
deriving DecidableEq

/-- The types that queries return. -/
inductive Answer where
  | number
  | text
  | account
  | accounts
  | book
  | books
deriving DecidableEq

namespace Answer

/-- The items that results of a type are made of. -/
abbrev Item : Answer → Type
  | number => UInt64
  | text => String
  | account => Account
  | accounts => Account
  | book => Book
  | books => Book

/-- The organisation that an item belongs to, for the types whose items have one. -/
def owner? : (answer : Answer) → Option (answer.Item → Uuid)
  | number => none
  | text => none
  | account => some Account.organisation
  | accounts => some Account.organisation
  | book => some Book.owner
  | books => some Book.owner

end Answer

/-- The store: the commands that were handled, with the handler that did, and the accounts. -/
structure Store where
  items : List (String × (kind : Kind) × kind.Value)
  accounts : List Account

/-- The catalogue of the sample service, whose result types have the given names in messages. -/
@[reducible]
def catalogue (answerName : Answer → String) : Catalogue where
  Kind := Kind
  kindDecEq := inferInstance
  Value := Kind.Value
  tag := Kind.tag
  attributes := attributes
  encode := encode
  decode := decode
  Answer := Answer
  answerDecEq := inferInstance
  Item := Answer.Item
  answerName
  Store := Store

end Sample
end Switchboard
