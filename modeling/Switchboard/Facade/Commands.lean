import Switchboard.Command.Registry
import Switchboard.Facade.Basic

/-!
# Commands over a queue

A command is published by whoever knows a handler for it, and authorized and run where its message
is received.  The organisation that it is meant for travels as an attribute.

Main definitions:

- Definition {lit}`CommandFacade.register`: takes a handler in and consumes its queue.
- Definition {lit}`CommandFacade.execute`: publishes a command.
- Definition {lit}`CommandFacade.receive`: authorizes and runs a received command.
-/

namespace Switchboard

variable {C : Catalogue} {τ : Type}

/-- A command registry behind a transport. -/
abbrev CommandFacade (C : Catalogue) := Facade C (CommandRegistry C)

namespace CommandFacade

/-- A façade without handlers. -/
def start (address : Nat) (application : String) : CommandFacade C :=
  Facade.start address application .empty

/-- Take in the handler of a command and consume its queue. -/
def register [Transport C τ] (f : CommandFacade C) (kind : C.Kind)
    (handler : Handler C.Store (C.Value kind) Unit) (authorizer : Authorizer) :
    StateM (Exchange C τ) (Except DispatchError Unit × CommandFacade C) :=
  f.enroll kind fun registry => registry.register kind handler authorizer

/-- Publish a command for which a handler of exactly its type is known here. -/
def execute [Transport C τ] (f : CommandFacade C) (ctx : Context) (organisation : Option Uuid)
    {kind : C.Kind} (command : C.Value kind) :
    StateM (Exchange C τ) (Except DispatchError Unit) :=
  match f.routes? kind with
  | .error e => return .error e
  | .ok false => return .error (.lookup (.noCommandHandler (C.tag kind)))
  | .ok true => f.publish ctx command organisation

/-- Run a received command for the organisation that its message names. -/
def receive (f : CommandFacade C) (ctx : Context) (message : Message) :
    Activity C (Except DispatchError Unit) :=
  f.route (fun registry ctx message _ command =>
    registry.execute ctx message.organisation command) ctx message

end CommandFacade
end Switchboard
