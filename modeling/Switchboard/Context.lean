import Switchboard.Uuid

/-!
# Invocation contexts

What travels with a call: who calls, on behalf of which organisations, under which correlation id,
and which handler is running.

Main results:

- Definition {lit}`Context.canAccess`: whether the caller may act on an organisation.
- Theorem {lit}`Context.canAccess_iff`: only the system and members of the organisation may.
-/

namespace Switchboard

/-- The values that go with one dispatch. -/
structure Context where
  correlationId : Option String
  callerId : Option String
  organisations : Option (List Uuid)
  isSystem : Bool
  handlerName : Option String
deriving DecidableEq

namespace Context

/-- The context in which nothing is known. -/
def blank : Context :=
  ⟨none, none, none, false, none⟩

instance : Inhabited Context := ⟨blank⟩

/-- Name the chain of work that a call belongs to. -/
def withCorrelation (ctx : Context) (id : String) : Context :=
  { ctx with correlationId := some id }

/-- Name the caller. -/
def withCaller (ctx : Context) (id : String) : Context :=
  { ctx with callerId := some id }

/-- Name the organisations the caller may act on and see. -/
def withOrganisations (ctx : Context) (ids : List Uuid) : Context :=
  { ctx with organisations := some ids }

/-- Mark work that the system starts itself. -/
def asSystem (ctx : Context) : Context :=
  { ctx with isSystem := true }

/-- Note the handler that is about to run. -/
def withHandler (ctx : Context) (name : String) : Context :=
  { ctx with handlerName := some name }

/-- A context that starts a chain of work under a fresh correlation id. -/
def fresh (id : String) : Context :=
  blank.withCorrelation id

/-- A fresh context for work that the system starts itself. -/
def system (id : String) : Context :=
  (fresh id).asSystem

/-- Whether the caller may act on an organisation: the system always may. -/
def canAccess (ctx : Context) (organisation : Uuid) : Bool :=
  ctx.isSystem || (ctx.organisations.getD []).contains organisation

/-- The context in which a message is received: the chain of work that the message names, or a
fresh one. -/
def received (correlation : Option String) (freshId : String) : Context :=
  match correlation with
  | some id => blank.withCorrelation id
  | none => fresh freshId

/-- Only the system and the members of an organisation may act on it. -/
theorem canAccess_iff {ctx : Context} {organisation : Uuid} :
    ctx.canAccess organisation = true ↔
      ctx.isSystem = true ∨ ∃ ids, ctx.organisations = some ids ∧ organisation ∈ ids := by
  cases h : ctx.organisations <;> simp [canAccess, h]

end Context
end Switchboard
