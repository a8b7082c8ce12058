import Switchboard.Transport

/-!
# Rehearsed faults

A transport whose next sends or subscriptions are made to fail, one for each planned fault, and
which remembers the messages that it passed on.

Main definitions:

- Definition {lit}`Rehearsed.planSend`: plans the failure of a send to come.
- Definition {lit}`Rehearsed.planSubscribe`: plans the failure of a subscription to come.
-/

namespace Switchboard

/-- A transport with planned faults. -/
structure Rehearsed (τ : Type) where
  inner : τ
  /-- How the next sends fail. -/
  sendFaults : List TransportError
  /-- How the next subscriptions fail. -/
  subscribeFaults : List TransportError
  /-- The ids of the messages that were passed on, in the order of sending. -/
  sent : List String

namespace Rehearsed

variable {C : Catalogue} {τ α : Type}

/-- A transport without planned faults. -/
def start (inner : τ) : Rehearsed τ :=
  ⟨inner, [], [], []⟩

/-- Plan the failure of a send to come. -/
def planSend (r : Rehearsed τ) (fault : TransportError) : Rehearsed τ :=
  { r with sendFaults := r.sendFaults ++ [fault] }

/-- Plan the failure of a subscription to come. -/
def planSubscribe (r : Rehearsed τ) (fault : TransportError) : Rehearsed τ :=
  { r with subscribeFaults := r.subscribeFaults ++ [fault] }

/-- The label of a message that was passed on: its number in the order of sending. -/
def label (r : Rehearsed τ) (id : String) : String :=
  match r.sent.findIdx? fun sent => sent = id with
  | some place => "m" ++ Nat.repr (place + 1)
  | none => id

/-- Do something with the inner transport. -/
def within (inner : StateM (Exchange C τ) α) : StateM (Exchange C (Rehearsed τ)) α := fun x =>
  let (value, y) := inner ⟨x.session, x.transport.inner⟩
  (value, ⟨y.session, { x.transport with inner := y.transport }⟩)

instance [Transport C τ] : Transport C (Rehearsed τ) where
  send queue message := fun x =>
    match x.transport.sendFaults with
    | fault :: rest =>
      (.error fault, { x with transport := { x.transport with sendFaults := rest } })
    | [] =>
      let noted := { x.transport with sent := x.transport.sent ++ [message.id] }
      within (Transport.send queue message) { x with transport := noted }
  subscribe queue subscriber := fun x =>
    match x.transport.subscribeFaults with
    | fault :: rest =>
      (.error fault, { x with transport := { x.transport with subscribeFaults := rest } })
    | [] => within (Transport.subscribe queue subscriber) x

end Rehearsed
end Switchboard
