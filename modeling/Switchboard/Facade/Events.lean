import Switchboard.Event.Registry
import Switchboard.Facade.Basic

/-!
# Events over a queue

One message per event.  Where it is received, every handler of the event runs, and the message
counts as handled only if all of them succeed.  Events without a handler here are published all the
same, since others may consume them.

Main definitions:

- Definition {lit}`EventFacade.register`: takes a handler in and consumes its queue.
- Definition {lit}`EventFacade.dispatch`: publishes an event.
- Definition {lit}`EventFacade.receive`: runs the handlers of a received event.
-/

namespace Switchboard

variable {C : Catalogue} {τ : Type}

/-- An event registry behind a transport. -/
abbrev EventFacade (C : Catalogue) := Facade C (EventRegistry C)

namespace EventFacade

/-- A façade without handlers. -/
def start (address : Nat) (application : String) : EventFacade C :=
  Facade.start address application .empty

/-- Take in a handler of an event and consume its queue. -/
def register [Transport C τ] (f : EventFacade C) (kind : C.Kind)
    (handler : EventHandler (C.Value kind)) :
    StateM (Exchange C τ) (Except DispatchError Unit × EventFacade C) :=
  f.enroll kind fun registry => registry.register kind handler

/-- Publish an event whose tag is not routed to another type here. -/
def dispatch [Transport C τ] (f : EventFacade C) (ctx : Context) {kind : C.Kind}
    (event : C.Value kind) : StateM (Exchange C τ) (Except DispatchError Unit) :=
  match f.routes? kind with
  | .error e => return .error e
  | .ok _ => f.publish ctx event none

/-- Run the handlers of a received event. -/
def receive (f : EventFacade C) (ctx : Context) (message : Message) :
    Activity C (Except DispatchError Unit) :=
  f.route (fun registry ctx _ _ event => registry.dispatch ctx event) ctx message

/-- How many handlers a tag has here. -/
def handlerCount (f : EventFacade C) (tag : String) : Nat :=
  f.registry.handlerCount tag

end EventFacade
end Switchboard
