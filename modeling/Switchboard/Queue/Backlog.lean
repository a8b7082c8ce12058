import Switchboard.Clock
import Switchboard.Error
import Switchboard.Message

/-!
# Queues and their backlog

Named queues whose messages are handed out one at a time.  A message that was handed out stays in
its place, hidden from receivers until its visibility timeout has passed; whoever holds the receipt
of its latest delivery may delete it.

Main results:

- Definition {lit}`Backlog.send`: appends a message to its queue.
- Definition {lit}`Backlog.poll`: looks once for a message that can be handed out.
- Definition {lit}`Backlog.delete`: removes a message by its receipt.
- Theorem {lit}`Backlog.waiting_send`: a message that was sent stands last on its queue.
-/

namespace Switchboard

/-- A message on a queue. -/
structure Waiting where
  message : Message
  /-- The receipt of its latest delivery. -/
  receipt : Option String
  /-- When it can be handed out; never again, if that is beyond the last instant. -/
  visibleAt : Option Instant
  /-- How often it was handed out. -/
  receiveCount : UInt32
deriving DecidableEq

namespace Waiting

/-- A message that was just sent: visible at once and never handed out. -/
def sent (message : Message) (now : Instant) : Waiting :=
  ⟨message, none, some now, 0⟩

/-- Whether a message can be handed out. -/
def isVisible (w : Waiting) (now : Instant) : Bool :=
  Instant.reached w.visibleAt now

/-- A message that is handed out: hidden for the visibility timeout, under a new receipt. -/
def handOut (w : Waiting) (now : Instant) (visibility : Duration) (receipt : String) : Waiting :=
  { w with
    receipt := some receipt
    visibleAt := Instant.after? now visibility
    receiveCount := w.receiveCount + 1 }

end Waiting

/-- A message that was handed out, with the receipt that allows its deletion. -/
structure Delivery where
  message : Message
  receipt : String
  /-- How often the message was handed out, this delivery included. -/
  receiveCount : UInt32
deriving DecidableEq

/-- All queues with their messages in the order of sending. -/
structure Backlog where
  /-- How long a message stays hidden once it was handed out. -/
  visibility : Duration
  queues : Dictionary (List Waiting)
  closed : Bool
deriving DecidableEq

/-- What a look at a queue gives. -/
inductive Poll where
  /-- The queues are closed. -/
  | closed
  /-- A message was handed out. -/
  | delivered (delivery : Delivery) (backlog : Backlog)
  /-- There is none, and the deadline has come. -/
  | timedOut
  /-- There is none, and there may still be one before the deadline. -/
  | blocked

namespace Backlog

/-- Open queues without messages. -/
def start (visibility : Duration) : Backlog :=
  ⟨visibility, ∅, false⟩

/-- The messages of a queue, the earliest first. -/
def waiting (b : Backlog) (queue : String) : List Waiting :=
  (b.queues.find? queue).getD []

/-- Change the messages of a queue that was sent to before. -/
def onQueue (b : Backlog) (queue : String) (f : List Waiting → List Waiting) : Backlog :=
  { b with queues := b.queues.modify queue f }

/-! ## Sending -/

/-- Append a message to its queue. -/
def send (b : Backlog) (now : Instant) (queue : String) (message : Message) :
    Except TransportError Backlog :=
  if b.closed then .error .closed
  else .ok { b with queues := b.queues.insert queue (b.waiting queue ++ [.sent message now]) }

/-! ## Receiving -/

/-- Hand out the first visible message of a list. -/
def takeFirst (now : Instant) (visibility : Duration) (receipt : String) :
    List Waiting → Option (Delivery × List Waiting)
  | [] => none
  | w :: rest =>
    if w.isVisible now then
      let taken := w.handOut now visibility receipt
      some (⟨w.message, receipt, taken.receiveCount⟩, taken :: rest)
    else
      (takeFirst now visibility receipt rest).map fun found => (found.1, w :: found.2)

/-- Look once for a message, under a deadline.  A message that is visible is handed out even when
the deadline has come. -/
def poll (b : Backlog) (now : Instant) (deadline : Option Instant) (queue receipt : String) :
    Poll :=
  if b.closed then .closed
  else
    match takeFirst now b.visibility receipt (b.waiting queue) with
    | some (delivery, messages) =>
      .delivered delivery { b with queues := b.queues.insert queue messages }
    | none =>
      if Instant.reached deadline now then .timedOut
      else .blocked

/-! ## Removing -/

/-- Delete the message whose latest delivery has the receipt. -/
def delete (b : Backlog) (queue receipt : String) : Backlog :=
  b.onQueue queue fun messages => messages.filter fun w => w.receipt ≠ some receipt

/-- Drop all messages of a queue. -/
def purge (b : Backlog) (queue : String) : Backlog :=
  b.onQueue queue fun _ => []

/-- Refuse all further sends and receives. -/
def close (b : Backlog) : Backlog :=
  { b with closed := true }

/-! ## Looking -/

/-- How many messages a queue has, the hidden ones included. -/
def length (b : Backlog) (queue : String) : Nat :=
  (b.waiting queue).length

/-- The queues that were ever sent to, in increasing order of their names. -/
def queueNames (b : Backlog) : List String :=
  b.queues.keys

/-! ## What the operations do to a queue -/

/-- Changing one queue leaves the others alone. -/
theorem waiting_onQueue (b : Backlog) (queue other : String) {f : List Waiting → List Waiting}
    (hempty : f [] = []) :
    (b.onQueue queue f).waiting other =
      if other = queue then f (b.waiting queue) else b.waiting other := by
  simp only [waiting, onQueue, Dictionary.find?_modify]
  split
  · cases b.queues.find? queue with
    | none => simp [hempty]
    | some messages => rfl
  · rfl

/-- A deletion keeps the messages of its queue that do not have the receipt. -/
theorem waiting_delete (b : Backlog) (queue receipt other : String) :
    (b.delete queue receipt).waiting other =
      if other = queue then (b.waiting queue).filter fun w => w.receipt ≠ some receipt
      else b.waiting other :=
  waiting_onQueue b queue other rfl

/-- A purge empties its queue. -/
theorem waiting_purge (b : Backlog) (queue other : String) :
    (b.purge queue).waiting other = if other = queue then [] else b.waiting other :=
  waiting_onQueue b queue other rfl

/-- Closing leaves all messages where they are. -/
@[simp]
theorem waiting_close (b : Backlog) (queue : String) : b.close.waiting queue = b.waiting queue :=
  rfl

/-- Deleting by a receipt that no message of the queue has changes nothing. -/
theorem delete_eq_self {b : Backlog} {queue receipt : String}
    (h : ∀ w ∈ b.waiting queue, w.receipt ≠ some receipt) : b.delete queue receipt = b := by
  have hqueues : b.queues.modify queue
      (fun messages => messages.filter fun w => w.receipt ≠ some receipt) = b.queues := by
    apply Dictionary.modify_eq_self
    intro messages hmessages
    rw [List.filter_eq_self]
    intro w hw
    have hmem : w ∈ b.waiting queue := by simpa [waiting, hmessages] using hw
    simpa using h w hmem
  simp only [delete, onQueue, hqueues]

/-- What a send of a message changes. -/
theorem send_eq_ok_iff {b b' : Backlog} {now : Instant} {queue : String} {message : Message} :
    b.send now queue message = .ok b' ↔
      b.closed = false ∧
        b' = { b with
          queues := b.queues.insert queue (b.waiting queue ++ [.sent message now]) } := by
  unfold send
  cases b.closed <;> simp [eq_comm]

/-- A look finds the queues closed exactly if they are. -/
theorem poll_eq_closed_iff {b : Backlog} {now : Instant} {deadline : Option Instant}
    {queue receipt : String} : b.poll now deadline queue receipt = .closed ↔ b.closed = true := by
  unfold poll
  cases b.closed with
  | true => simp
  | false =>
    cases takeFirst now b.visibility receipt (b.waiting queue) with
    | none => by_cases h : Instant.reached deadline now <;> simp [h]
    | some found => simp

/-- When a look hands a message out, and what it changes. -/
theorem poll_eq_delivered_iff {b b' : Backlog} {now : Instant} {deadline : Option Instant}
    {queue receipt : String} {delivery : Delivery} :
    b.poll now deadline queue receipt = .delivered delivery b' ↔
      b.closed = false ∧ ∃ messages,
        takeFirst now b.visibility receipt (b.waiting queue) = some (delivery, messages) ∧
          b' = { b with queues := b.queues.insert queue messages } := by
  unfold poll
  cases b.closed with
  | true => simp
  | false =>
    cases takeFirst now b.visibility receipt (b.waiting queue) with
    | none => by_cases h : Instant.reached deadline now <;> simp [h]
    | some found => simp [Prod.ext_iff, and_assoc, eq_comm]

/-- A message that was sent stands last on its queue, visible at once. -/
theorem waiting_send {b b' : Backlog} {now : Instant} {queue : String} {message : Message}
    (h : b.send now queue message = .ok b') :
    b'.waiting queue = b.waiting queue ++ [.sent message now] := by
  unfold send at h
  split at h
  · cases h
  · cases h
    simp [waiting]

/-- A message that was sent leaves the other queues alone. -/
theorem waiting_send_of_ne {b b' : Backlog} {now : Instant} {queue other : String}
    {message : Message} (h : b.send now queue message = .ok b') (hne : other ≠ queue) :
    b'.waiting other = b.waiting other := by
  unfold send at h
  split at h
  · cases h
  · cases h
    simp [waiting, Dictionary.find?_insert_of_ne _ hne]

end Backlog
end Switchboard
