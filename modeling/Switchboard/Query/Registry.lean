import Switchboard.Handler
import Switchboard.Query.Filter

/-!
# Queries

Queries are kept by the tag of their criteria and the type of their result, so the same criteria
can be asked for results of several types.  A query may find nothing; a filter sees only what was
found.

Main results:

- Definition {lit}`QueryRegistry.register`: takes a query in unless its pair is taken.
- Definition {lit}`QueryRegistry.execute`: runs the query of a pair.
- Definition {lit}`QueryRegistry.executeInto`: the same, with an output that is always reset.
- Theorem {lit}`QueryShelf.insert_self`: a query that was taken in stands under its result type.
-/

namespace Switchboard

variable {C : Catalogue}

/-- A query for one result type, with the filter of its results. -/
structure QueryEntry (C : Catalogue) (answer : C.Answer) where
  /-- The payload type of the criteria that the query takes. -/
  kind : C.Kind
  query : Handler C.Store (C.Value kind) (Option (Result (C.Item answer)))
  filter : ResultFilter (C.Item answer)

/-- The queries under one tag, by the type of their result. -/
structure QueryShelf (C : Catalogue) where
  find? : (answer : C.Answer) → Option (QueryEntry C answer)

namespace QueryShelf

/-- The shelf without queries. -/
def empty : QueryShelf C :=
  ⟨fun _ => none⟩

/-- Put a query under its result type. -/
def insert (shelf : QueryShelf C) (answer : C.Answer) (entry : QueryEntry C answer) :
    QueryShelf C :=
  ⟨fun other => if h : other = answer then some (h ▸ entry) else shelf.find? other⟩

/-- A query that was put on a shelf stands under its result type. -/
@[simp]
theorem insert_self (shelf : QueryShelf C) (answer : C.Answer) (entry : QueryEntry C answer) :
    (shelf.insert answer entry).find? answer = some entry := by
  simp [insert]

/-- Putting a query on a shelf leaves the other result types alone. -/
theorem insert_of_ne (shelf : QueryShelf C) {answer other : C.Answer} (hne : other ≠ answer)
    (entry : QueryEntry C answer) :
    (shelf.insert answer entry).find? other = shelf.find? other := by
  simp [insert, hne]

end QueryShelf

/-- The queries of a service, by the tag of their criteria and the type of their result. -/
structure QueryRegistry (C : Catalogue) where
  shelves : Dictionary (QueryShelf C)

namespace QueryRegistry

/-- The registry without queries. -/
def empty : QueryRegistry C :=
  ⟨∅⟩

/-- The queries under a tag, if there is a shelf for it. -/
def shelf (r : QueryRegistry C) (tag : String) : QueryShelf C :=
  (r.shelves.find? tag).getD .empty

/-- Take in a query, unless its pair of tag and result type is taken.  The other queries under the
tag are not looked at. -/
def register (r : QueryRegistry C) (kind : C.Kind) (answer : C.Answer)
    (query : Handler C.Store (C.Value kind) (Option (Result (C.Item answer))))
    (filter : ResultFilter (C.Item answer)) : Except DispatchError (QueryRegistry C) :=
  let shelf := r.shelf (C.tag kind)
  if (shelf.find? answer).isSome then
    .error (.registration (.queryTaken (C.tag kind) (C.answerName answer)))
  else
    .ok ⟨r.shelves.insert (C.tag kind) (shelf.insert answer ⟨kind, query, filter⟩)⟩

/-- Run the query of an entry on criteria of the type that it takes, and filter what it finds. -/
def runEntry {answer : C.Answer} (entry : QueryEntry C answer) (ctx : Context)
    (criteria : C.Value entry.kind) :
    Activity C (Except DispatchError (Option (Result (C.Item answer)))) := do
  let tag := C.tag entry.kind
  let derived := ctx.withHandler entry.query.name
  let outcome ← entry.query.call (.query entry.kind criteria) derived criteria
  match contain tag outcome with
  | .error e =>
    Session.report .error "query failed"
      [("handler", .text entry.query.name), ("criteria_type", .text tag),
        ("error", .text e.message)]
    return .error (.handler e)
  | .ok none => return .ok none
  | .ok (some found) =>
    let filtered ← entry.filter.call derived found
    return (containCheck tag filtered).map some

/-- Run the query that is registered for the tag of the criteria and the type of the result. -/
def execute (r : QueryRegistry C) (ctx : Context) {kind : C.Kind} (criteria : C.Value kind)
    (answer : C.Answer) :
    Activity C (Except DispatchError (Option (Result (C.Item answer)))) :=
  match r.shelves.find? (C.tag kind) with
  | none => return .error (.lookup (.noQuery (C.tag kind)))
  | some shelf =>
    match shelf.find? answer with
    | none =>
      return .error (.lookup (.noQueryReturning (C.tag kind) (C.answerName answer)))
    | some entry =>
      if h : kind = entry.kind then
        runEntry entry ctx (h ▸ criteria)
      else
        return .error (.registration (.criteriaType (C.tag kind)))

/-- Run a query and write what it answers over an output, which holds nothing after an error. -/
def executeInto (r : QueryRegistry C) (ctx : Context) {kind : C.Kind} (criteria : C.Value kind)
    (answer : C.Answer) (_output : Option (Result (C.Item answer))) :
    Activity C (Except DispatchError Unit × Option (Result (C.Item answer))) := do
  match ← r.execute ctx criteria answer with
  | .ok found => return (.ok (), found)
  | .error e => return (.error e, none)

/-- Whether some query takes criteria of a tag. -/
def accepts (r : QueryRegistry C) (tag : String) : Bool :=
  r.shelves.contains tag

end QueryRegistry
end Switchboard
