import Switchboard.Session

/-!
# Transports

What moves messages between named queues.  A transport takes messages and takes subscriptions, and
may report what it does in the session that uses it.

Main definitions:

- Definition {lit}`Exchange`: a session together with the transport that it uses.
- Definition {lit}`Transport`: the operations that publishers and subscribers need.
- Definition {lit}`Subscriber`: who consumes a queue.
-/

namespace Switchboard

/-- A session together with the transport that it uses. -/
structure Exchange (C : Catalogue) (τ : Type) where
  session : Session C
  transport : τ

namespace Exchange

variable {C : Catalogue} {τ α : Type}

/-- Do something in the session alone. -/
def act (activity : Activity C α) : StateM (Exchange C τ) α := fun x =>
  let (value, session) := activity x.session
  (value, { x with session })

/-- Do something with the transport alone. -/
def carry (f : τ → α × τ) : StateM (Exchange C τ) α := fun x =>
  let (value, transport) := f x.transport
  (value, { x with transport })

end Exchange

/-- A piece of user code that consumes the raw messages of a queue. -/
structure MessageConsumer where
  /-- The number that tells this consumer from all other user code. -/
  callee : Nat
  name : String
  run : Nat → Context → Message → Outcome DispatchError Unit

/-- Who consumes a queue: a façade, by its address, or a consumer of raw messages. -/
inductive Subscriber where
  | facade (address : Nat)
  | consumer (consumer : MessageConsumer)

/-- The operations of a transport. -/
class Transport (C : Catalogue) (τ : Type) where
  /-- Take a message for a queue. -/
  send : String → Message → StateM (Exchange C τ) (Except TransportError Unit)
  /-- Start to hand the messages of a queue to a subscriber. -/
  subscribe : String → Subscriber → StateM (Exchange C τ) (Except TransportError Unit)

/-- What a subscriber makes of a message, the context of its receipt being given. -/
abbrev Reception (C : Catalogue) :=
  Subscriber → String → Context → Message → Activity C (Outcome DispatchError Unit)

end Switchboard
