import Switchboard.Session

/-!
# Result filters

What may be done to a query result before the caller sees it.  The organisation filter keeps the
items of the caller's organisations: of a sequence those remain, in their order, while a single
item is granted or denied as a whole.

Main definitions:

- Definition {lit}`Result.restrict`: narrows a result to a set of organisations.
- Definition {lit}`ResultFilter`: a policy chosen when a query is registered.
-/

namespace Switchboard

/-- A single item of an organisation outside the allowed ones is denied. -/
def restrictSingle {α : Type} (owner : α → Uuid) (allowed : List Uuid) (item : α) :
    Except DispatchError α :=
  if allowed.contains (owner item) then .ok item
  else .error (.permission (.resultDenied (owner item)))

namespace Result

variable {α : Type}

/-- Narrow a result to the allowed organisations. -/
def restrict (owner : α → Uuid) (allowed : List Uuid) : Result α → Except DispatchError (Result α)
  | single item => (restrictSingle owner allowed item).map single
  | sequence items => .ok (sequence (items.filter fun item => allowed.contains (owner item)))

/-- What the caller of a context may see of a result: the system sees everything, and nobody sees
anything without naming organisations. -/
def visible (owner : α → Uuid) (ctx : Context) (result : Result α) :
    Except DispatchError (Result α) :=
  if ctx.isSystem then .ok result
  else
    match ctx.organisations with
    | none => .error (.lookup .noOrganisations)
    | some allowed => result.restrict owner allowed

end Result

/-- A policy for the results of a query. -/
structure ResultFilter (α : Type) where
  /-- The number that tells this filter from all other user code. -/
  callee : Nat
  /-- The name it was given; the standard policies have none. -/
  name : Option String
  apply : Nat → Context → Result α → Outcome DispatchError (Result α)

namespace ResultFilter

variable {α : Type}

/-- Passes every result through. -/
def none : ResultFilter α :=
  ⟨0, .none, fun _ _ result => .ok result⟩

/-- Shows each caller what belongs to the caller's organisations. -/
def organisation (owner : α → Uuid) : ResultFilter α :=
  ⟨0, .none, fun _ ctx result => .returned (result.visible owner ctx)⟩

variable {C : Catalogue}

/-- Apply a filter to a result of a query. -/
def call {answer : C.Answer} (f : ResultFilter (C.Item answer)) (ctx : Context)
    (result : Result (C.Item answer)) :
    Activity C (Outcome DispatchError (Result (C.Item answer))) :=
  Session.call f.callee f.name (.filter answer result ctx) fun n store =>
    (f.apply n ctx result, store)

end ResultFilter
end Switchboard
