import Switchboard.Session

/-!
# Authorizers

The check that runs before a command handler.  Two policies are standard: to let everybody through,
and to ask for membership in the organisation that the command is meant for.

Main results:

- Definition {lit}`Authorizer.authorize`: runs a check, a panic being a failure.
- Theorem {lit}`Authorizer.member_eq_ok_iff`: whom the membership policy lets through.
-/

namespace Switchboard

/-- A check of a command's context and organisation. -/
structure Authorizer where
  /-- The number that tells this authorizer from all other user code. -/
  callee : Nat
  /-- The name it was given; the standard policies have none. -/
  name : Option String
  decide : Nat → Context → Option Uuid → Outcome DispatchError Unit

namespace Authorizer

/-- The answer of the membership policy: the system passes, everybody else needs access to an
organisation that is named. -/
def member (ctx : Context) (organisation : Option Uuid) : Except DispatchError Unit :=
  if ctx.isSystem then .ok ()
  else
    match organisation with
    | none => .error (.permission .noOrganisation)
    | some id =>
      if ctx.canAccess id then .ok ()
      else .error (.permission (.organisationDenied id))

/-- Lets everybody through. -/
def everyone : Authorizer :=
  ⟨0, none, fun _ _ _ => .ok ()⟩

/-- Asks for membership in the command's organisation. -/
def organisationMember : Authorizer :=
  ⟨0, none, fun _ ctx organisation => .returned (member ctx organisation)⟩

variable {C : Catalogue}

/-- Run a check; its outcome is that of the user code. -/
def call (a : Authorizer) (ctx : Context) (organisation : Option Uuid) :
    Activity C (Outcome DispatchError Unit) :=
  Session.call a.callee a.name (.authorizer ctx organisation) fun n store =>
    (a.decide n ctx organisation, store)

/-- Run a check before the handler of a tag, a panic being a failure of that handler. -/
def authorize (a : Authorizer) (tag : String) (ctx : Context) (organisation : Option Uuid) :
    Activity C (Except DispatchError Unit) := do
  return containCheck tag (← a.call ctx organisation)

/-- The membership policy lets through the system, and the members of a named organisation. -/
theorem member_eq_ok_iff {ctx : Context} {organisation : Option Uuid} :
    member ctx organisation = .ok () ↔
      ctx.isSystem = true ∨ ∃ id, organisation = some id ∧ ctx.canAccess id = true := by
  unfold member
  cases hsystem : ctx.isSystem
  · cases organisation with
    | none => simp
    | some id => by_cases h : ctx.canAccess id <;> simp [h]
  · simp

end Authorizer
end Switchboard
