import Switchboard.Authorizer
import Switchboard.Handler

/-!
# Commands

Exactly one handler per command, guarded by its authorizer.  A command runs on the caller's thread:
first the authorizer decides, then the handler works in the caller's context under its own name.

Main results:

- Definition {lit}`CommandRegistry.register`: takes a handler in unless its tag has one.
- Definition {lit}`CommandRegistry.execute`: authorizes and runs a command.
- Theorem {lit}`CommandRegistry.isRegistered_of_register`: what was taken in is known.
-/

namespace Switchboard

variable {C : Catalogue}

/-- A handler with the check that guards it. -/
structure CommandEntry (C : Catalogue) where
  /-- The payload type that the handler takes. -/
  kind : C.Kind
  handler : Handler C.Store (C.Value kind) Unit
  authorizer : Authorizer

/-- The handlers of commands, by tag. -/
structure CommandRegistry (C : Catalogue) where
  entries : Dictionary (CommandEntry C)

namespace CommandRegistry

/-- The registry without handlers. -/
def empty : CommandRegistry C :=
  ⟨∅⟩

/-- Take in the handler of a command, unless its tag already has one. -/
def register (r : CommandRegistry C) (kind : C.Kind)
    (handler : Handler C.Store (C.Value kind) Unit) (authorizer : Authorizer) :
    Except DispatchError (CommandRegistry C) :=
  if r.entries.contains (C.tag kind) then
    .error (.registration (.commandTaken (C.tag kind)))
  else
    .ok ⟨r.entries.insert (C.tag kind) ⟨kind, handler, authorizer⟩⟩

/-- Run the handler of an entry on a command of the type that it takes. -/
def runEntry (entry : CommandEntry C) (ctx : Context) (command : C.Value entry.kind) :
    Activity C (Except DispatchError Unit) := do
  let tag := C.tag entry.kind
  let outcome ← entry.handler.call (.handler entry.kind command)
    (ctx.withHandler entry.handler.name) command
  match contain tag outcome with
  | .ok () => return .ok ()
  | .error e =>
    Session.report .error "command handler failed"
      [("handler", .text entry.handler.name), ("command_type", .text tag),
        ("error", .text e.message)]
    return .error (.handler e)

/-- Authorize a command and run its handler.  The check comes before the comparison of payload
types, so it also runs for a command whose tag belongs to another type. -/
def execute (r : CommandRegistry C) (ctx : Context) (organisation : Option Uuid)
    {kind : C.Kind} (command : C.Value kind) : Activity C (Except DispatchError Unit) :=
  match r.entries.find? (C.tag kind) with
  | none => return .error (.lookup (.noCommandHandler (C.tag kind)))
  | some entry => do
    match ← entry.authorizer.authorize (C.tag kind) ctx organisation with
    | .error e => return .error e
    | .ok () =>
      if h : kind = entry.kind then
        runEntry entry ctx (h ▸ command)
      else
        return .error (.registration (.commandType (C.tag kind)))

/-- Whether a tag has a handler. -/
def isRegistered (r : CommandRegistry C) (tag : String) : Bool :=
  r.entries.contains tag

/-- What the handler of a tag asks for. -/
def dependencies (r : CommandRegistry C) (tag : String) : Option Dependencies :=
  (r.entries.find? tag).map fun entry => entry.handler.dependencies

/-- The tags that have handlers, in increasing order. -/
def commandTypes (r : CommandRegistry C) : List String :=
  r.entries.keys

/-- The tag of a handler that was taken in is known. -/
theorem isRegistered_of_register {r r' : CommandRegistry C} {kind : C.Kind}
    {handler : Handler C.Store (C.Value kind) Unit} {authorizer : Authorizer}
    (h : r.register kind handler authorizer = .ok r') : r'.isRegistered (C.tag kind) = true := by
  unfold register at h
  split at h
  · cases h
  · cases h
    simp [isRegistered, Dictionary.contains]

end CommandRegistry
end Switchboard
