import Switchboard.Queue.Backlog
import Switchboard.Transport

/-!
# The broker

Queues with a consumer for each subscription.  A consumer polls its queue, handles what it is
handed and deletes it; a message whose handling fails is left where it is and comes back after its
visibility timeout.  A consumer ends when it finds the queues closed.

A consumer takes one turn at a time.  Between turns it stands in a poll, whose deadline it keeps.
Beside the consumers stand receivers, each of which waits for one message only.  Consumers have
been waiting for longer than any receiver and come first.

Main definitions:

- Definition {lit}`Consumer.turn`: what a consumer does when it wakes up.
- Definition {lit}`Receiver.look`: what a receiver does when it wakes up.
- Definition {lit}`Broker.settle`: lets all of them work until nothing more is to be done.
- Definition {lit}`Broker.await`: lets time pass until the latest receiver has its reply.
- Definition {lit}`Broker.close`: closes the queues and waits for the consumers to end.
-/

namespace Switchboard

/-! ## Consumers -/

/-- What a consumer has done.  Each count has 64 bits and goes up by one at a time.  As 2^64
increments are out of reach, no count wraps around, and natural numbers stand for them. -/
structure ConsumerStats where
  /-- How many polls it began. -/
  polls : Nat
  /-- How many messages it handled and deleted. -/
  handled : Nat
  /-- How many times handling failed. -/
  failed : Nat
deriving DecidableEq

/-- Add up what two consumers have done. -/
def ConsumerStats.add (a b : ConsumerStats) : ConsumerStats :=
  ⟨a.polls + b.polls, a.handled + b.handled, a.failed + b.failed⟩

/-- A consumer of a queue. -/
structure Consumer where
  queue : String
  subscriber : Subscriber
  stats : ConsumerStats
  /-- When the poll that it stands in ends. -/
  deadline : Option Instant
  /-- Whether it is still at work. -/
  running : Bool

namespace Consumer

/-- Begin another poll. -/
def beginPoll (c : Consumer) (now : Instant) (wait : Duration) : Consumer :=
  { c with
    stats := { c.stats with polls := c.stats.polls + 1 }
    deadline := Instant.after? now wait }

/-- A consumer that was just started and stands in its first poll. -/
def start (queue : String) (subscriber : Subscriber) (now : Instant) (wait : Duration) :
    Consumer :=
  beginPoll ⟨queue, subscriber, ⟨0, 0, 0⟩, none, true⟩ now wait

/-- Note a message that was handled. -/
def countHandled (c : Consumer) : Consumer :=
  { c with stats := { c.stats with handled := c.stats.handled + 1 } }

/-- Note a message whose handling failed. -/
def countFailed (c : Consumer) : Consumer :=
  { c with stats := { c.stats with failed := c.stats.failed + 1 } }

@[simp]
theorem queue_beginPoll (c : Consumer) (now : Instant) (wait : Duration) :
    (c.beginPoll now wait).queue = c.queue :=
  rfl

@[simp]
theorem queue_countHandled (c : Consumer) : c.countHandled.queue = c.queue :=
  rfl

@[simp]
theorem queue_countFailed (c : Consumer) : c.countFailed.queue = c.queue :=
  rfl

end Consumer

/-- What a turn of a consumer leaves: itself, the queues, and whether it found something to do. -/
structure Turn where
  consumer : Consumer
  backlog : Backlog
  moved : Bool

namespace Consumer

variable {C : Catalogue}

/-- Handle a message that was handed out, and delete it if that succeeds. -/
def handle (receive : Reception C) (c : Consumer) (delivery : Delivery) (backlog : Backlog) :
    Activity C (Consumer × Backlog) := do
  let message := delivery.message
  let ctx := message.receivingContext (← Session.draw)
  let outcome ← receive c.subscriber c.queue ctx message
  match containCheck (message.typeInfo.getD "unknown") outcome with
  | .ok () => return (c.countHandled, backlog.delete c.queue delivery.receipt)
  | .error e =>
    Session.report .error "message handling failed, leaving it for redelivery"
      [("queue", .text c.queue), ("message_id", .text message.id),
        ("receive_count", .number delivery.receiveCount.toNat), ("error", .text e.message)]
    return (c.countFailed, backlog)

/-- One turn of a consumer: it looks at its queue, handles what it is handed, and goes into its
next poll. -/
def turn (receive : Reception C) (now : Instant) (wait : Duration) (backlog : Backlog)
    (c : Consumer) : Activity C Turn := do
  if !c.running then return ⟨c, backlog, false⟩
  match backlog.poll now c.deadline c.queue (← Session.draw) with
  | .closed =>
    Session.report .info "consumer stopped" [("queue", .text c.queue)]
    return ⟨{ c with running := false }, backlog, true⟩
  | .blocked => return ⟨c, backlog, false⟩
  | .timedOut => return ⟨c.beginPoll now wait, backlog, false⟩
  | .delivered delivery backlog =>
    let (c, backlog) ← c.handle receive delivery backlog
    return ⟨c.beginPoll now wait, backlog, true⟩

end Consumer

/-! ## Receivers -/

/-- How waiting for one message ends. -/
inductive Reply where
  /-- The queues are closed. -/
  | closed
  | delivered (delivery : Delivery)
  | timedOut
deriving DecidableEq

/-- Somebody who waits for one message. -/
structure Receiver where
  queue : String
  /-- When the wait ends by itself. -/
  deadline : Option Instant
  /-- How the wait ended, once it did. -/
  reply : Option Reply
deriving DecidableEq

/-- What a look of a receiver leaves: itself, the queues, and whether its wait just ended. -/
structure Look where
  receiver : Receiver
  backlog : Backlog
  ended : Bool

/-- One look of a receiver at its queue, which is its last one if it gets a reply. -/
def Receiver.look (now : Instant) (backlog : Backlog) (receipt : String) (r : Receiver) : Look :=
  if r.reply.isSome then ⟨r, backlog, false⟩
  else
    match backlog.poll now r.deadline r.queue receipt with
    | .closed => ⟨{ r with reply := some .closed }, backlog, true⟩
    | .delivered delivery backlog => ⟨{ r with reply := some (.delivered delivery) }, backlog, true⟩
    | .timedOut => ⟨{ r with reply := some .timedOut }, backlog, true⟩
    | .blocked => ⟨r, backlog, false⟩

/-- A receiver stays at its queue. -/
@[simp]
theorem Receiver.queue_look (now : Instant) (backlog : Backlog) (receipt : String) (r : Receiver) :
    (r.look now backlog receipt).receiver.queue = r.queue := by
  unfold look
  split
  · rfl
  · split <;> rfl

/-! ## The broker -/

/-- Queues with their consumers, in the order of subscription, and the time. -/
structure Broker where
  now : Instant
  /-- How long a consumer waits in one poll. -/
  waitTime : Duration
  backlog : Backlog
  consumers : List Consumer
  /-- Those who wait for one message, in the order in which they began. -/
  receivers : List Receiver

namespace Broker

/-- Open queues without consumers. -/
def start (visibility waitTime : Duration) : Broker :=
  ⟨0, waitTime, .start visibility, [], []⟩

/-- The visibility timeout if none is asked for. -/
def defaultVisibility : Duration :=
  .ofSeconds 1800

/-- The wait of a poll if none is asked for. -/
def defaultWaitTime : Duration :=
  .ofSeconds 5

/-- The queues that have consumers, in the order of subscription. -/
def subscribedQueues (b : Broker) : List String :=
  b.consumers.map Consumer.queue

/-- What the consumers of a queue have done together, if it has any. -/
def stats (b : Broker) (queue : String) : Option ConsumerStats :=
  match b.consumers.filter fun c => c.queue = queue with
  | [] => none
  | matching => some (matching.foldl (fun total c => total.add c.stats) ⟨0, 0, 0⟩)

variable {C : Catalogue}

/-- Take a message for a queue. -/
def send (b : Broker) (queue : String) (message : Message) :
    Except TransportError Unit × Broker :=
  match b.backlog.send b.now queue message with
  | .ok backlog => (.ok (), { b with backlog })
  | .error e => (.error e, b)

/-- Open queues take what is sent to them. -/
theorem send_of_open {b : Broker} (hopen : b.backlog.closed = false) (queue : String)
    (message : Message) :
    ∃ backlog, b.backlog.send b.now queue message = .ok backlog ∧
      b.send queue message = (.ok (), { b with backlog }) := by
  obtain ⟨backlog, hsend⟩ : ∃ backlog, b.backlog.send b.now queue message = .ok backlog :=
    ⟨_, Backlog.send_eq_ok_iff.mpr ⟨hopen, rfl⟩⟩
  refine ⟨backlog, hsend, ?_⟩
  rw [send, hsend]

/-- Start a consumer for a queue. -/
def subscribe (b : Broker) (queue : String) (subscriber : Subscriber) :
    Activity C (Except TransportError Unit × Broker) := do
  if b.backlog.closed then return (.error .closed, b)
  Session.report .info "consumer started" [("queue", .text queue)]
  return (.ok (),
    { b with consumers := b.consumers ++ [.start queue subscriber b.now b.waitTime] })

instance : Transport C Broker where
  send queue message := Exchange.carry fun b => b.send queue message
  subscribe queue subscriber := fun x =>
    let ((result, transport), session) := x.transport.subscribe queue subscriber x.session
    (result, ⟨session, transport⟩)

/-! ## Consumers at work -/

/-- Give each of the consumers a turn. -/
def takeTurns (receive : Reception C) (now : Instant) (wait : Duration) :
    Backlog → List Consumer → Activity C (Backlog × List Consumer × Bool)
  | backlog, [] => return (backlog, [], false)
  | backlog, c :: rest => do
    let turn ← Session.inBackground (c.turn receive now wait backlog)
    let (backlog, rest, moved) ← takeTurns receive now wait turn.backlog rest
    return (backlog, turn.consumer :: rest, turn.moved || moved)

/-- Let each of the receivers look. -/
def takeLooks (now : Instant) :
    Backlog → List Receiver → Activity C (Backlog × List Receiver × Bool)
  | backlog, [] => return (backlog, [], false)
  | backlog, r :: rest => do
    let look := r.look now backlog (← Session.draw)
    let (backlog, rest, ended) ← takeLooks now look.backlog rest
    return (backlog, look.receiver :: rest, look.ended || ended)

/-- Give every consumer a turn and every receiver a look, and tell whether any found something to
do. -/
def round (receive : Reception C) (b : Broker) : Activity C (Broker × Bool) := do
  let (backlog, consumers, moved) ← takeTurns receive b.now b.waitTime b.backlog b.consumers
  let (backlog, receivers, ended) ← takeLooks b.now backlog b.receivers
  return ({ b with backlog, consumers, receivers }, moved || ended)

/-- Let consumers and receivers work at the present instant until none finds anything to do, within
so many rounds; tells whether that was enough. -/
def work (receive : Reception C) : Nat → Broker → Activity C (Broker × Bool)
  | 0, b => return (b, false)
  | rounds + 1, b => do
    let (b, moved) ← b.round receive
    if moved then work receive rounds b else return (b, true)

/-- Work goes on as long as rounds find something to do. -/
theorem work_succ (receive : Reception C) (rounds : Nat) (b : Broker) (s : Session C) :
    work receive (rounds + 1) b s =
      let outcome := b.round receive s
      if outcome.1.2 then work receive rounds outcome.1.1 outcome.2
      else ((outcome.1.1, true), outcome.2) := by
  simp only [work, bind_apply]
  split <;> rfl

/-- The queues that consumers at work and receivers without a reply look at. -/
def watchedQueues (b : Broker) : List String :=
  (b.consumers.filter Consumer.running).map Consumer.queue
    ++ (b.receivers.filter fun r => r.reply.isNone).map Receiver.queue

/-- When messages on a queue that are hidden now become visible. -/
def reappearances (b : Broker) (queue : String) : List Instant :=
  ((b.backlog.waiting queue).filterMap Waiting.visibleAt).filter fun t => b.now < t

/-- When the waits of receivers without a reply end by themselves. -/
def deadlines (b : Broker) : List Instant :=
  (b.receivers.filter fun r => r.reply.isNone).filterMap Receiver.deadline

/-- The next instant at which a consumer or a receiver can find something to do while nobody else
does anything. -/
def nextInstant (b : Broker) : Option Instant :=
  (b.watchedQueues.flatMap b.reappearances ++ b.deadlines).min?

/-- Let consumers and receivers work until the horizon: at the present instant, and whenever there
is something to do for them before it.  The clock stops at the last of these instants. -/
def settle (receive : Reception C) (rounds : Nat) (horizon : Instant) :
    Nat → Broker → Activity C (Broker × Bool)
  | 0, b => return (b, false)
  | instants + 1, b => do
    let (b, done) ← b.work receive rounds
    if !done then return (b, false)
    match b.nextInstant with
    | some t =>
      if t ≤ horizon then settle receive rounds horizon instants { b with now := t }
      else return (b, true)
    | none => return (b, true)

/-! ## Waiting -/

/-- How many rounds of turns, and how many instants, are followed before a computation is given
up as endless. -/
def patience : Nat :=
  10000

/-- Let time pass. -/
def sleep (receive : Reception C) (duration : Duration) (b : Broker) : Activity C Broker := do
  let wake := b.now + duration
  let (b, _) ← b.settle receive patience wake patience
  return { b with now := max b.now wake }

/-- Begin to wait for a message of a queue, with a first look. -/
def beginReceive (queue : String) (wait : Duration) (b : Broker) : Activity C Broker := do
  let r : Receiver := ⟨queue, Instant.after? b.now wait, none⟩
  let look := r.look b.now b.backlog (← Session.draw)
  return { b with backlog := look.backlog, receivers := b.receivers ++ [look.receiver] }

/-- Let time pass until the latest receiver has its reply, and dismiss it.  Without a reply its wait
never ends. -/
def await (receive : Reception C) : Nat → Broker → Activity C (Option Reply × Broker)
  | 0, b => return (none, b)
  | instants + 1, b => do
    match b.receivers.getLast?.bind Receiver.reply with
    | some reply => return (some reply, { b with receivers := b.receivers.dropLast })
    | none => do
      let (b, _) ← b.work receive patience
      match b.receivers.getLast?.bind Receiver.reply, b.nextInstant with
      | some reply, _ => return (some reply, { b with receivers := b.receivers.dropLast })
      | none, some t => await receive instants { b with now := t }
      | none, none => return (none, b)

/-- Close the queues and wait for the consumers to end.  A second time nothing happens. -/
def close (receive : Reception C) (b : Broker) : Activity C Broker := do
  if b.backlog.closed then return b
  let (b, _) ← ({ b with backlog := b.backlog.close } : Broker).round receive
  Session.report .info "queue transport closed" [("consumers", .number b.consumers.length)]
  return b

end Broker
end Switchboard
