import Switchboard.Transport

/-!
# Held mail

A transport that delivers nothing on its own: messages stay with their queue until somebody hands
the oldest one to a subscriber.  It leaves the queue only if the subscriber succeeds with it.

Main definitions:

- Definition {lit}`HeldMail.handOver`: hands the oldest message of a queue to one of its
  subscribers.
-/

namespace Switchboard

/-- Messages by queue, the oldest first, and the subscriptions in their order. -/
structure HeldMail where
  queues : Dictionary (List Message)
  subscribers : List (String × Subscriber)

/-- How handing over the oldest message of a queue ends. -/
inductive Handover where
  /-- The queue has no message. -/
  | empty
  /-- There is a message, but no subscriber of that place. -/
  | unclaimed
  /-- A subscriber had the message, with this outcome. -/
  | handed (message : Message) (outcome : Except DispatchError Unit)

namespace HeldMail

/-- No messages and no subscriptions. -/
def empty : HeldMail :=
  ⟨∅, []⟩

/-- The undelivered messages of a queue, the oldest first. -/
def pending (h : HeldMail) (queue : String) : List Message :=
  (h.queues.find? queue).getD []

/-- Take a message for a queue. -/
def post (h : HeldMail) (queue : String) (message : Message) : HeldMail :=
  { h with queues := h.queues.insert queue (h.pending queue ++ [message]) }

/-- Note a subscription. -/
def subscribe (h : HeldMail) (queue : String) (subscriber : Subscriber) : HeldMail :=
  { h with subscribers := h.subscribers ++ [(queue, subscriber)] }

/-- The subscribers of a queue, in the order of their subscriptions. -/
def subscribersOf (h : HeldMail) (queue : String) : List Subscriber :=
  (h.subscribers.filter fun entry => entry.1 = queue).map Prod.snd

/-- The queues of all subscriptions, in their order. -/
def subscribedQueues (h : HeldMail) : List String :=
  h.subscribers.map Prod.fst

/-- Drop the oldest message of a queue. -/
def dropOldest (h : HeldMail) (queue : String) : HeldMail :=
  { h with queues := h.queues.modify queue List.tail }

variable {C : Catalogue}

instance : Transport C HeldMail where
  send queue message := Exchange.carry fun h => (.ok (), h.post queue message)
  subscribe queue subscriber := Exchange.carry fun h => (.ok (), h.subscribe queue subscriber)

/-- Hand a message to a subscriber of a queue, in a given context or in one that names only the
message's own chain of work. -/
def hand (receive : Reception C) (subscriber : Subscriber) (queue : String)
    (ctx : Option Context) (message : Message) :
    Activity C (Except DispatchError Unit) := do
  let own : Context := { Context.blank with
    correlationId := message.attributeValue Message.correlationKey }
  let outcome ← receive subscriber queue (ctx.getD own) message
  return containCheck (message.typeInfo.getD "unknown") outcome

/-- Hand the oldest message of a queue to the subscriber of a place, and drop it if that succeeds.
Without a message it does not matter who subscribed. -/
def handOver (receive : Reception C) (queue : String) (place : Nat) (ctx : Option Context)
    (h : HeldMail) : Activity C (Handover × HeldMail) :=
  match h.pending queue, (h.subscribersOf queue)[place]? with
  | [], _ => return (.empty, h)
  | _ :: _, none => return (.unclaimed, h)
  | message :: _, some subscriber => do
    match ← hand receive subscriber queue ctx message with
    | .ok () => return (.handed message (.ok ()), h.dropOldest queue)
    | .error e => return (.handed message (.error e), h)

end HeldMail
end Switchboard
