import Switchboard.Naming
import Switchboard.Transport

/-!
# Façades over a transport

A façade keeps a registry of its own behind a transport: payloads are published to the queue of
their tag, and the messages of the queues that it subscribed to are routed back into the registry
by their tag.  Publishing runs no handler.

Main definitions:

- Definition {lit}`Facade.enroll`: registers, routes and subscribes.
- Definition {lit}`Facade.publish`: sends a payload to the queue of its tag.
- Definition {lit}`Facade.route`: hands a received message to the registry.
-/

namespace Switchboard

variable {C : Catalogue} {ρ τ : Type}

/-- A registry behind a transport. -/
structure Facade (C : Catalogue) (ρ : Type) where
  /-- The address under which the transport knows this façade. -/
  address : Nat
  registry : ρ
  /-- The payload type that messages of a tag are read as. -/
  routes : Dictionary C.Kind
  naming : QueueNaming
  /-- The queues that this façade subscribed to. -/
  subscribed : Dictionary Unit

namespace Facade

/-- A façade without routes, with a queue for each payload type. -/
def start (address : Nat) (application : String) (registry : ρ) : Facade C ρ :=
  ⟨address, registry, ∅, .perType application, ∅⟩

/-- Use another strategy for naming queues. -/
def withNaming (f : Facade C ρ) (naming : QueueNaming) : Facade C ρ :=
  { f with naming }

/-- The queue of a tag. -/
def queueName (f : Facade C ρ) (tag : String) : String :=
  f.naming.queueName tag

/-- The queues that this façade subscribed to, in increasing order of their names. -/
def subscribedQueues (f : Facade C ρ) : List String :=
  f.subscribed.keys

/-! ## Registering -/

/-- Route a tag to a payload type, unless it is routed already. -/
def addRoute (f : Facade C ρ) (kind : C.Kind) : Facade C ρ :=
  if f.routes.contains (C.tag kind) then f
  else { f with routes := f.routes.insert (C.tag kind) kind }

/-- Note that a queue is subscribed to. -/
def noteSubscribed (f : Facade C ρ) (queue : String) : Facade C ρ :=
  { f with subscribed := f.subscribed.insert queue () }

/-- Register a payload type in the registry, route its tag, and subscribe to its queue unless that
is done.  A subscription that the transport refuses is answered after the registry and the routes
have changed. -/
def enroll [Transport C τ] (f : Facade C ρ) (kind : C.Kind)
    (register : ρ → Except DispatchError ρ) :
    StateM (Exchange C τ) (Except DispatchError Unit × Facade C ρ) :=
  match register f.registry with
  | .error e => return (.error e, f)
  | .ok registry => do
    let f := { f with registry }.addRoute kind
    let queue := f.queueName (C.tag kind)
    if f.subscribed.contains queue then return (.ok (), f)
    match ← Transport.subscribe queue (.facade f.address) with
    | .error e => return (.error (.transport e), f)
    | .ok () =>
      Exchange.act <| Session.report .info "subscribed to queue"
        [("queue", .text queue), ("type_name", .text (C.tag kind))]
      return (.ok (), f.noteSubscribed queue)

/-! ## Publishing -/

/-- Whether messages of a payload type are routed here; a tag that is routed to another type is an
error. -/
def routes? (f : Facade C ρ) (kind : C.Kind) : Except DispatchError Bool :=
  match f.routes.find? (C.tag kind) with
  | none => .ok false
  | some routed =>
    if routed = kind then .ok true
    else .error (.registration (.routedType (C.tag kind)))

/-- The message that a façade sends for a payload: the payload's own message, over which the
publisher's correlation id and the organisation are written, as far as there are any. -/
def compose (id : String) (ctx : Context) {kind : C.Kind} (payload : C.Value kind)
    (organisation : Option Uuid) : Except Refusal Message :=
  (Message.encode id payload).map fun m =>
    (m.withAttribute? Message.correlationKey ctx.correlationId).withAttribute?
      Message.organisationKey (organisation.map Uuid.text)

/-- Send a payload to the queue of its tag, for an organisation if one is given. -/
def publish [Transport C τ] (f : Facade C ρ) (ctx : Context) {kind : C.Kind}
    (payload : C.Value kind) (organisation : Option Uuid) :
    StateM (Exchange C τ) (Except DispatchError Unit) := do
  match compose (← Exchange.act Session.draw) ctx payload organisation with
  | .error refusal => return .error (.serialization (.refused refusal))
  | .ok message =>
    let queue := f.queueName (C.tag kind)
    Exchange.act <| Session.report .debug "publishing message"
      [("queue", .text queue), ("type_name", .text (C.tag kind)),
        ("message_id", .text message.id)]
    match ← Transport.send queue message with
    | .error e => return .error (.transport e)
    | .ok () => return .ok ()

/-! ## Receiving -/

/-- Read a received message as the payload type that its tag is routed to, and run it for the
system.  A message without a tag, or with one that is not routed, counts as handled. -/
def route (f : Facade C ρ)
    (run : ρ → Context → Message → (kind : C.Kind) → C.Value kind →
      Activity C (Except DispatchError Unit))
    (ctx : Context) (message : Message) : Activity C (Except DispatchError Unit) :=
  match message.typeInfo with
  | none => do
    Session.report .debug "message without type info, ignoring"
      [("message_id", .text message.id)]
    return .ok ()
  | some tag =>
    match f.routes.find? tag with
    | none => do
      Session.report .debug "no handler for message type, ignoring"
        [("message_id", .text message.id), ("type_name", .text tag)]
      return .ok ()
    | some kind =>
      match message.decode kind with
      | none => return .error (.serialization .unreadable)
      | some payload => run f.registry ctx.asSystem message kind payload

end Facade
end Switchboard
