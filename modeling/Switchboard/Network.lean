import Switchboard.Facade.Commands
import Switchboard.Facade.Events
import Switchboard.Queue.Broker
import Switchboard.Transport.Held
import Switchboard.Transport.Rehearsed

/-!
# Networks

Façades that share one transport and one session.  A façade's address is its place in the network,
and the transport hands what it receives to the façade of an address.

Main definitions:

- Definition {lit}`Network.reception`: what the subscribers of a network make of a message.
- Definition {lit}`Network.onCommands` and {lit}`Network.onEvents`: use a façade.
- Definition {lit}`Network.settle`: lets the consumers of a network work.
- Definition {lit}`Network.beginReceive`: begins to wait for a message.
- Definition {lit}`Network.await`: lets time pass until the latest wait has ended.
-/

namespace Switchboard

variable {C : Catalogue} {τ α : Type}

/-- A façade for commands or for events. -/
inductive AnyFacade (C : Catalogue) where
  | commands (facade : CommandFacade C)
  | events (facade : EventFacade C)

/-- Façades with the transport that they share. -/
structure Network (C : Catalogue) (τ : Type) where
  exchange : Exchange C τ
  facades : List (AnyFacade C)

namespace Network

/-- What the subscribers make of a message, the façades of the network being given. -/
def reception (facades : List (AnyFacade C)) : Reception C := fun subscriber queue ctx message =>
  match subscriber with
  | .facade address =>
    match facades[address]? with
    | some (.commands f) => do return .returned (← f.receive ctx message)
    | some (.events f) => do return .returned (← f.receive ctx message)
    | none => return .ok ()
  | .consumer c =>
    Session.call c.callee (some c.name) (.consumer queue message ctx) fun n store =>
      (c.run n ctx message, store)

/-- Do something in the session alone. -/
def act (activity : Activity C α) : StateM (Network C τ) α := fun n =>
  let (value, exchange) := Exchange.act activity n.exchange
  (value, { n with exchange })

/-- Do something with the transport alone. -/
def carry (f : τ → α × τ) : StateM (Network C τ) α := fun n =>
  let (value, exchange) := Exchange.carry f n.exchange
  (value, { n with exchange })

/-- Use the transport without a façade. -/
def direct (use : StateM (Exchange C τ) α) : StateM (Network C τ) α := fun n =>
  let (value, exchange) := use n.exchange
  (value, { n with exchange })

/-- Use the command façade at an address, if there is one. -/
def onCommands (address : Nat)
    (use : CommandFacade C → StateM (Exchange C τ) (α × CommandFacade C)) :
    StateM (Network C τ) (Option α) := fun n =>
  match n.facades[address]? with
  | some (.commands f) =>
    let ((value, f), exchange) := use f n.exchange
    (some value, ⟨exchange, n.facades.set address (.commands f)⟩)
  | _ => (none, n)

/-- Use the event façade at an address, if there is one. -/
def onEvents (address : Nat)
    (use : EventFacade C → StateM (Exchange C τ) (α × EventFacade C)) :
    StateM (Network C τ) (Option α) := fun n =>
  match n.facades[address]? with
  | some (.events f) =>
    let ((value, f), exchange) := use f n.exchange
    (some value, ⟨exchange, n.facades.set address (.events f)⟩)
  | _ => (none, n)

end Network

/-! ## Carriers -/

/-- A transport of either sort: mail that is held, or a broker with consumers at work. -/
inductive Carrier where
  | held (mail : HeldMail)
  | broker (broker : Broker)

namespace Carrier

instance : Transport C Carrier where
  send queue message := fun x =>
    match x.transport with
    | .held mail =>
      let (result, y) := Transport.send (C := C) queue message ⟨x.session, mail⟩
      (result, ⟨y.session, .held y.transport⟩)
    | .broker active =>
      let (result, y) := Transport.send (C := C) queue message ⟨x.session, active⟩
      (result, ⟨y.session, .broker y.transport⟩)
  subscribe queue subscriber := fun x =>
    match x.transport with
    | .held mail =>
      let (result, y) := Transport.subscribe (C := C) queue subscriber ⟨x.session, mail⟩
      (result, ⟨y.session, .held y.transport⟩)
    | .broker active =>
      let (result, y) := Transport.subscribe (C := C) queue subscriber ⟨x.session, active⟩
      (result, ⟨y.session, .broker y.transport⟩)

end Carrier

/-! ## Rehearsals -/

namespace Network

/-- A network over a carrier with planned faults. -/
abbrev Rehearsal (C : Catalogue) := Network C (Rehearsed Carrier)

/-- Use the broker of a network, if it has one. -/
def withBroker (use : Reception C → Broker → Activity C (α × Broker)) :
    StateM (Rehearsal C) (Option α) := fun n =>
  match n.exchange.transport.inner with
  | .held _ => (none, n)
  | .broker b =>
    let ((value, b), session) := use (reception n.facades) b n.exchange.session
    (some value,
      { n with exchange :=
        ⟨session, { n.exchange.transport with inner := .broker b }⟩ })

/-- Use the held mail of a network, if it has any. -/
def withHeld (use : Reception C → HeldMail → Activity C (α × HeldMail)) :
    StateM (Rehearsal C) (Option α) := fun n =>
  match n.exchange.transport.inner with
  | .broker _ => (none, n)
  | .held mail =>
    let ((value, mail), session) := use (reception n.facades) mail n.exchange.session
    (some value,
      { n with exchange :=
        ⟨session, { n.exchange.transport with inner := .held mail }⟩ })

/-- How far ahead consumers are followed when everything else is at rest. -/
def settlingTime : Duration :=
  .ofSeconds 5

/-- Let the consumers of a network work until they have done what they can, and tell whether they
came to rest. -/
def settle : StateM (Rehearsal C) Bool := do
  let rested ← withBroker fun receive b => do
    let (b, rested) ← b.settle receive Broker.patience (b.now + settlingTime) Broker.patience
    return (rested, b)
  return rested.getD true

/-! ## Receiving -/

/-- Let time pass. -/
def sleep (duration : Duration) : StateM (Rehearsal C) (Option Unit) :=
  withBroker fun receive b => do return ((), ← b.sleep receive duration)

/-- Begin to wait for a message. -/
def beginReceive (queue : String) (wait : Duration) : StateM (Rehearsal C) (Option Unit) :=
  withBroker fun _ b => do return ((), ← b.beginReceive queue wait)

/-- Let time pass until the latest wait for a message has ended. -/
def await : StateM (Rehearsal C) (Option Reply) := do
  let reply ← withBroker fun receive b => b.await receive Broker.patience
  return reply.join

/-- Wait for a message. -/
def receive (queue : String) (wait : Duration) : StateM (Rehearsal C) (Option Reply) := do
  let _ ← beginReceive queue wait
  await

/-- Wait for a message and take it off its queue. -/
def takeOne (queue : String) (wait : Duration) : StateM (Rehearsal C) (Option Reply) := do
  let reply ← receive queue wait
  match reply with
  | some (.delivered delivery) =>
    let _ ← withBroker fun _ b =>
      return ((), { b with backlog := b.backlog.delete queue delivery.receipt })
    return reply
  | _ => return reply

end Network
end Switchboard
