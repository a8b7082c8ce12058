import Switchboard.Report
import Switchboard.Sample.Catalogue
import Switchboard.Session

/-!
# Reports of the sample service

The JSON values of the sample service's accounts, books and results, which can be read back, and of
the calls of its user code.

Main definitions:

- Definitions {lit}`Answer.toJson` and {lit}`Answer.ofJson?`: results of a type.
- Definition {lit}`callToJson?`: a call of named user code.
-/

namespace Switchboard
namespace Sample

/-! ## Results -/

/-- The JSON value of an account. -/
def Account.toJson (account : Account) : Json :=
  .record [("id", .str account.id), ("name", .str account.name),
    ("organisation_id", account.organisation.toJson)]

/-- The account that a JSON value stands for. -/
def Account.ofJson? (value : Json) : Option Account := do
  let fields ← value.fields? ["id", "organisation_id", "name"]
  return ⟨← fields.require 0 Json.text?, ← fields.require 1 Json.uuid?,
    ← fields.require 2 Json.text?⟩

/-- The JSON value of a book. -/
def Book.toJson (book : Book) : Json :=
  .record [("organisation_id", book.organisation.toJson), ("owner", book.owner.toJson),
    ("title", .str book.title)]

/-- The book that a JSON value stands for. -/
def Book.ofJson? (value : Json) : Option Book := do
  let fields ← value.fields? ["organisation_id", "owner", "title"]
  return ⟨← fields.require 0 Json.uuid?, ← fields.require 1 Json.uuid?,
    ← fields.require 2 Json.text?⟩

namespace Answer

/-- The JSON value of an item. -/
def itemToJson : (answer : Answer) → answer.Item → Json
  | number, (n : UInt64) => .nat n.toNat
  | text, (content : String) => .str content
  | account, item => Account.toJson item
  | accounts, item => Account.toJson item
  | book, item => Book.toJson item
  | books, item => Book.toJson item

/-- The JSON value of a result. -/
def toJson (answer : Answer) : Result answer.Item → Json
  | .single item => answer.itemToJson item
  | .sequence items => .array (items.map answer.itemToJson)

/-- The result of a type that a JSON value stands for. -/
def ofJson? : (answer : Answer) → Json → Option (Result answer.Item)
  | number, value => value.uint64?.map .single
  | text, value => value.text?.map .single
  | account, value => (Account.ofJson? value).map .single
  | accounts, value => (value.list? Account.ofJson?).map .sequence
  | book, value => (Book.ofJson? value).map .single
  | books, value => (value.list? Book.ofJson?).map .sequence

end Answer

/-! ## Payloads and the store -/

/-- The JSON value by which a payload is reported, even if it refuses to be written. -/
def payloadToJson {kind : Kind} (payload : kind.Value) : Json :=
  match toJson payload with
  | .ok value => value
  | .error _ => .str "<unserializable>"

/-- The JSON value of the handled commands in a store. -/
def Store.itemsToJson (store : Store) : Json :=
  .array (store.items.map fun item => .array [.str item.1, payloadToJson item.2.2])

/-! ## Calls -/

/-- What is reported of the context and the store that a call was given. -/
def providedToJson (ctx : Option Context) (store : Option Store) : List (String × Json) :=
  (ctx.map fun ctx => ("context", ctx.toJson)).toList
    ++ (store.map fun store => ("store_len", Json.nat store.items.length)).toList

/-- The JSON value of a call, if the user code has a name.  Messages are shown under labels. -/
def callToJson? {names : Answer → String} (label : String → String)
    (call : Call (catalogue names)) : Option Json :=
  call.name.map fun name =>
    let report (role : String) (details : List (String × Json)) : Json :=
      .record ((role, .str name) :: ("call", .nat call.number) :: details)
    match call.input with
    | .handler _ payload ctx store =>
      report "handler" (("payload", payloadToJson payload) :: providedToJson ctx store)
    | .query _ criteria ctx store =>
      report "query" (("criteria", payloadToJson criteria) :: providedToJson ctx store)
    | .authorizer ctx organisation =>
      report "authorizer" [("context", ctx.toJson),
        ("organisation_id", .optional Uuid.toJson organisation)]
    | .filter answer result ctx =>
      report "filter" [("context", ctx.toJson), ("value", Answer.toJson answer result)]
    | .consumer queue message ctx =>
      report "consumer" [("body", .str message.body), ("context", ctx.toJson),
        ("message", .str (label message.id)), ("queue", .str queue)]

end Sample
end Switchboard
