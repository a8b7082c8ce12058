import Switchboard.Proofs.Containment.Code
import Switchboard.Queue.Broker
import Switchboard.Transport.Held

/-!
# Consumers of tamed user code

A broker whose subscribers were tamed goes about its work as before, provided that what its
subscribers make of a message is the same once panics are contained: the same activity, and in the
end the same broker, tamed.  A consumer contains the panics of its subscriber before it looks at the
outcome, so it counts, keeps and deletes alike.

Every operation of the broker is made of the turns of its consumers, and all of the statements about
them have one form.

Main results:

- Definition {lit}`Reception.Tames`: what is the same about two receptions.
- Theorem {lit}`Consumer.handle_tamed`: a message is handled as before.
- Theorem {lit}`Consumer.turn_tamed`: so a turn is as before.
- Theorems {lit}`Broker.round_tamed`, {lit}`Broker.settle_tamed`, {lit}`Broker.sleep_tamed`,
  {lit}`Broker.await_tamed` and {lit}`Broker.close_tamed`: so is what is made of turns.
- Theorem {lit}`HeldMail.handOver_tamed`: so is handing over held mail.
- Theorem {lit}`Consumer.running_turn`: a turn ends a consumer only if the queues are closed.
-/

namespace Switchboard

variable {C : Catalogue} {which : Choice}

/-! ## Subscribers and receptions -/

/-- A subscriber without the chosen panics. -/
def Subscriber.tamed (which : Choice) : Subscriber → Subscriber
  | facade address => facade address
  | consumer c => consumer (c.tamed which)

/-- One reception makes the same of a message for a tamed subscriber as another one does for the
subscriber itself, once panics are contained. -/
def Reception.Tames (which : Choice) (receive' receive : Reception C) : Prop :=
  ∀ (subscriber : Subscriber) (queue : String) (ctx : Context) (m : Message),
    containCheck m.panicTag <$> receive' (subscriber.tamed which) queue ctx m =
      containCheck m.panicTag <$> receive subscriber queue ctx m

/-! ## Consumers -/

namespace Consumer

/-- A consumer whose subscriber was tamed. -/
def tamed (which : Choice) (c : Consumer) : Consumer :=
  { c with subscriber := c.subscriber.tamed which }

variable {receive' receive : Reception C}

/-- What a consumer does with a message once panics are contained. -/
def conclude (delivery : Delivery) (backlog : Backlog) (c : Consumer) :
    Except DispatchError Unit → Activity C (Consumer × Backlog)
  | .ok () => return (c.countHandled, backlog.delete c.queue delivery.receipt)
  | .error e => do
    Session.report .error "message handling failed, leaving it for redelivery"
      [("queue", .text c.queue), ("message_id", .text delivery.message.id),
        ("receive_count", .number delivery.receiveCount.toNat), ("error", .text e.message)]
    return (c.countFailed, backlog)

/-- A consumer contains the panics of its subscriber before it does anything else. -/
theorem handle_eq_bind (receive : Reception C) (c : Consumer) (delivery : Delivery)
    (backlog : Backlog) :
    c.handle receive delivery backlog = (do
      let ctx := delivery.message.receivingContext (← Session.draw)
      let result ← containCheck delivery.message.panicTag <$>
        receive c.subscriber c.queue ctx delivery.message
      c.conclude delivery backlog result) :=
  rfl

theorem conclude_tamed (delivery : Delivery) (backlog : Backlog) (c : Consumer)
    (result : Except DispatchError Unit) :
    ((c.tamed which).conclude delivery backlog result : Activity C _) =
      Prod.map (tamed which) id <$> c.conclude delivery backlog result := by
  cases result <;> rfl

/-- A message is handled for a tamed subscriber as before. -/
theorem handle_tamed (h : receive'.Tames which receive) (c : Consumer) (delivery : Delivery)
    (backlog : Backlog) :
    (c.tamed which).handle receive' delivery backlog =
      Prod.map (tamed which) id <$> c.handle receive delivery backlog := by
  simp only [handle_eq_bind, map_bind]
  refine bind_congr fun freshId => ?_
  have hreceived := h c.subscriber c.queue (delivery.message.receivingContext freshId)
    delivery.message
  exact (congrArg (· >>= _) hreceived).trans
    (bind_congr fun result => c.conclude_tamed delivery backlog result)

end Consumer

/-- What a turn leaves, its consumer tamed. -/
def Turn.tamed (which : Choice) (t : Turn) : Turn :=
  { t with consumer := t.consumer.tamed which }

namespace Consumer

variable {receive' receive : Reception C}

/-- A turn of a tamed consumer is as before. -/
theorem turn_tamed (h : receive'.Tames which receive) (now : Instant) (wait : Duration)
    (backlog : Backlog) (c : Consumer) :
    (c.tamed which).turn receive' now wait backlog =
      Turn.tamed which <$> c.turn receive now wait backlog := by
  cases hrunning : c.running with
  | false =>
    have hrunning' : (c.tamed which).running = false := hrunning
    simp only [turn, hrunning, hrunning']
    rfl
  | true =>
    have hrunning' : (c.tamed which).running = true := hrunning
    simp only [turn, hrunning, hrunning', Bool.not_true, Bool.false_eq_true, if_false, map_bind]
    refine bind_congr fun receipt => ?_
    have hpoll : backlog.poll now (c.tamed which).deadline (c.tamed which).queue receipt =
      backlog.poll now c.deadline c.queue receipt := rfl
    rw [hpoll]
    cases backlog.poll now c.deadline c.queue receipt with
    | closed => rfl
    | blocked => rfl
    | timedOut => rfl
    | delivered delivery left =>
      simp only [handle_tamed h, bind_map_left, map_bind, map_pure]
      rfl

/-- Whatever its subscriber does with a message, a consumer goes on. -/
theorem running_handle (receive : Reception C) (c : Consumer) (delivery : Delivery)
    (backlog : Backlog) (s : Session C) :
    (c.handle receive delivery backlog s).1.1.running = c.running := by
  rw [handle_eq_bind, bind_apply, bind_apply]
  generalize (_ <$> receive c.subscriber c.queue _ delivery.message : Activity C _) _ = received
  obtain ⟨result, s'⟩ := received
  cases result <;> rfl

/-- A turn ends a consumer only if it finds the queues closed, whatever its subscriber does. -/
theorem running_turn (receive : Reception C) (now : Instant) (wait : Duration) (backlog : Backlog)
    (c : Consumer) (s : Session C) (hrunning : c.running = true) :
    (c.turn receive now wait backlog s).1.consumer.running = false ↔ backlog.closed = true := by
  simp only [turn, hrunning, Bool.not_true, Bool.false_eq_true, if_false, bind_apply]
  cases hpoll : backlog.poll now c.deadline c.queue (Session.draw s).1 with
  | closed => exact ⟨fun _ => Backlog.poll_eq_closed_iff.mp hpoll, fun _ => rfl⟩
  | blocked | timedOut =>
    have hopen : backlog.closed ≠ true := fun hclosed => by
      rw [Backlog.poll_eq_closed_iff.mpr hclosed] at hpoll
      cases hpoll
    simp [pure_apply, hopen, hrunning, beginPoll]
  | delivered delivery left =>
    obtain ⟨hopen, -⟩ := Backlog.poll_eq_delivered_iff.mp hpoll
    have hsame := c.running_handle receive delivery left (Session.draw s).2
    simp [bind_apply, pure_apply, hopen, beginPoll, hsame, hrunning]

end Consumer

/-! ## The broker -/

namespace Broker

variable {receive' receive : Reception C}

/-- A broker whose subscribers were tamed. -/
def tamed (which : Choice) (b : Broker) : Broker :=
  { b with consumers := b.consumers.map (Consumer.tamed which) }

/-- A message is taken for a queue as before. -/
theorem send_tamed (b : Broker) (queue : String) (m : Message) :
    (b.tamed which).send queue m = Prod.map id (tamed which) (b.send queue m) := by
  have hsend : (b.tamed which).backlog.send (b.tamed which).now queue m =
      b.backlog.send b.now queue m := rfl
  simp only [send, hsend]
  cases b.backlog.send b.now queue m <;> rfl

/-- A consumer is started for a tamed subscriber as before. -/
theorem subscribe_tamed (b : Broker) (queue : String) (subscriber : Subscriber) :
    ((b.tamed which).subscribe queue (subscriber.tamed which) : Activity C _) =
      Prod.map id (tamed which) <$> b.subscribe queue subscriber := by
  have hclosed : (b.tamed which).backlog.closed = b.backlog.closed := rfl
  unfold subscribe
  rw [hclosed]
  cases b.backlog.closed with
  | true => rfl
  | false =>
    simp only [Bool.false_eq_true, if_false, map_bind, map_pure, tamed, Prod.map_apply,
      List.map_append]
    rfl

/-- Turns of tamed consumers are as before. -/
theorem takeTurns_tamed (h : receive'.Tames which receive) (now : Instant) (wait : Duration)
    (backlog : Backlog) (consumers : List Consumer) :
    takeTurns receive' now wait backlog (consumers.map (Consumer.tamed which)) =
      Prod.map id (Prod.map (List.map (Consumer.tamed which)) id) <$>
        takeTurns receive now wait backlog consumers := by
  induction consumers generalizing backlog with
  | nil => rfl
  | cons c rest ih =>
    have hturn : Session.inBackground ((c.tamed which).turn receive' now wait backlog) =
        Turn.tamed which <$> Session.inBackground (c.turn receive now wait backlog) :=
      congrArg Session.inBackground (c.turn_tamed h now wait backlog)
    simp only [List.map_cons, takeTurns, hturn, bind_map_left, map_bind, map_pure]
    refine bind_congr fun turn => ?_
    have hrest := ih turn.backlog
    simp only [Turn.tamed, hrest, bind_map_left]
    rfl

/-- Give a turn to the consumer at a place, if there is one. -/
def turnAt (receive : Reception C) (place : Nat) (b : Broker) : Activity C Broker :=
  match b.consumers[place]? with
  | none => return b
  | some c => do
    let turn ← Session.inBackground (c.turn receive b.now b.waitTime b.backlog)
    return { b with backlog := turn.backlog, consumers := b.consumers.set place turn.consumer }

/-- A single turn is as before. -/
theorem turnAt_tamed (h : receive'.Tames which receive) (place : Nat) (b : Broker) :
    (b.tamed which).turnAt receive' place = tamed which <$> b.turnAt receive place := by
  simp only [turnAt, tamed, List.getElem?_map]
  cases b.consumers[place]? with
  | none => rfl
  | some c =>
    have hturn : Session.inBackground ((c.tamed which).turn receive' b.now b.waitTime b.backlog) =
        Turn.tamed which <$> Session.inBackground (c.turn receive b.now b.waitTime b.backlog) :=
      congrArg Session.inBackground (c.turn_tamed h b.now b.waitTime b.backlog)
    simp only [Option.map_some, hturn, bind_map_left, map_bind, map_pure]
    refine bind_congr fun turn => ?_
    simp only [Turn.tamed, tamed, List.map_set]

/-- A round is as before. -/
theorem round_tamed (h : receive'.Tames which receive) (b : Broker) :
    (b.tamed which).round receive' = Prod.map (tamed which) id <$> b.round receive := by
  simp only [round, tamed, takeTurns_tamed h, bind_map_left, map_bind, map_pure]
  rfl

/-- Consumers and receivers work as before. -/
theorem work_tamed (h : receive'.Tames which receive) (rounds : Nat) (b : Broker) :
    work receive' rounds (b.tamed which) = Prod.map (tamed which) id <$> work receive rounds b := by
  induction rounds generalizing b with
  | zero => rfl
  | succ rounds ih =>
    simp only [work, round_tamed h, bind_map_left, map_bind]
    refine bind_congr fun outcome => ?_
    obtain ⟨b', moved⟩ := outcome
    cases moved with
    | true => exact ih b'
    | false => rfl

/-- Whoever is at work is so at the same queues. -/
theorem watchedQueues_tamed (b : Broker) : (b.tamed which).watchedQueues = b.watchedQueues := by
  simp only [watchedQueues, tamed, List.filter_map, List.map_map]
  rfl

/-- The next instant at which there is something to do is the same. -/
theorem nextInstant_tamed (b : Broker) : (b.tamed which).nextInstant = b.nextInstant := by
  simp only [nextInstant, watchedQueues_tamed]
  rfl

/-- Consumers and receivers work until a horizon as before. -/
theorem settle_tamed (h : receive'.Tames which receive) (rounds : Nat) (horizon : Instant)
    (instants : Nat) (b : Broker) :
    settle receive' rounds horizon instants (b.tamed which) =
      Prod.map (tamed which) id <$> settle receive rounds horizon instants b := by
  induction instants generalizing b with
  | zero => rfl
  | succ instants ih =>
    simp only [settle, work_tamed h, bind_map_left, map_bind]
    refine bind_congr fun outcome => ?_
    obtain ⟨b', done⟩ := outcome
    cases done with
    | false => rfl
    | true =>
      simp only [Prod.map_apply, id, Bool.not_true, Bool.false_eq_true, if_false, nextInstant_tamed]
      cases b'.nextInstant with
      | none => rfl
      | some t =>
        dsimp only
        split
        · exact ih { b' with now := t }
        · rfl

/-- Time passes as before. -/
theorem sleep_tamed (h : receive'.Tames which receive) (duration : Duration) (b : Broker) :
    (b.tamed which).sleep receive' duration = tamed which <$> b.sleep receive duration := by
  have hwake : (b.tamed which).now = b.now := rfl
  simp only [sleep, settle_tamed h, hwake, bind_map_left, map_bind, map_pure]
  rfl

/-- Whoever waits for a message begins to do so as before. -/
theorem beginReceive_tamed (queue : String) (wait : Duration) (b : Broker) :
    (beginReceive queue wait (b.tamed which) : Activity C Broker) =
      tamed which <$> beginReceive queue wait b :=
  rfl

/-- Whoever waits for a message gets the same reply. -/
theorem await_tamed (h : receive'.Tames which receive) (instants : Nat) (b : Broker) :
    await receive' instants (b.tamed which) =
      Prod.map id (tamed which) <$> await receive instants b := by
  induction instants generalizing b with
  | zero => rfl
  | succ instants ih =>
    have hreply (b : Broker) : (b.tamed which).receivers = b.receivers := rfl
    simp only [await, hreply]
    cases b.receivers.getLast?.bind Receiver.reply with
    | some reply => rfl
    | none =>
      simp only [work_tamed h, bind_map_left, map_bind]
      refine bind_congr fun outcome => ?_
      obtain ⟨b', rested⟩ := outcome
      simp only [Prod.map_apply, hreply, nextInstant_tamed]
      cases b'.receivers.getLast?.bind Receiver.reply with
      | some reply => rfl
      | none =>
        cases b'.nextInstant with
        | none => rfl
        | some t => exact ih { b' with now := t }

/-- Closing the queues is as before. -/
theorem close_tamed (h : receive'.Tames which receive) (b : Broker) :
    (b.tamed which).close receive' = tamed which <$> b.close receive := by
  have hclosed : (b.tamed which).backlog.closed = b.backlog.closed := rfl
  simp only [close, hclosed]
  cases b.backlog.closed with
  | true => rfl
  | false =>
    have hround := round_tamed h { b with backlog := b.backlog.close }
    have hsame : ({ b.tamed which with backlog := (b.tamed which).backlog.close } : Broker) =
        ({ b with backlog := b.backlog.close } : Broker).tamed which := rfl
    simp only [Bool.false_eq_true, if_false, hsame, hround, bind_map_left, map_bind, map_pure]
    refine bind_congr fun outcome => ?_
    simp only [Prod.map_fst, tamed, List.length_map]

end Broker

/-! ## Held mail -/

namespace HeldMail

variable {receive' receive : Reception C}

/-- Held mail whose subscribers were tamed. -/
def tamed (which : Choice) (m : HeldMail) : HeldMail :=
  { m with subscribers := m.subscribers.map (Prod.map id (Subscriber.tamed which)) }

/-- The subscribers of a queue, tamed. -/
theorem subscribersOf_tamed (m : HeldMail) (queue : String) :
    (m.tamed which).subscribersOf queue =
      (m.subscribersOf queue).map (Subscriber.tamed which) := by
  simp only [subscribersOf, tamed, List.filter_map, List.map_map]
  rfl

/-- A message is handed to a tamed subscriber as before. -/
theorem hand_tamed (h : receive'.Tames which receive) (subscriber : Subscriber) (queue : String)
    (ctx : Option Context) (m : Message) :
    hand receive' (subscriber.tamed which) queue ctx m = hand receive subscriber queue ctx m :=
  h subscriber queue _ m

/-- Handing over the oldest message of a queue is as before. -/
theorem handOver_tamed (h : receive'.Tames which receive) (queue : String) (place : Nat)
    (ctx : Option Context) (mail : HeldMail) :
    handOver receive' queue place ctx (mail.tamed which) =
      Prod.map id (tamed which) <$> handOver receive queue place ctx mail := by
  have hpending : (mail.tamed which).pending queue = mail.pending queue := rfl
  simp only [handOver, hpending, subscribersOf_tamed, List.getElem?_map]
  cases mail.pending queue with
  | nil => cases (mail.subscribersOf queue)[place]? <;> rfl
  | cons message rest =>
    cases (mail.subscribersOf queue)[place]? with
    | none => rfl
    | some subscriber =>
      simp only [Option.map_some, hand_tamed h, map_bind]
      refine bind_congr fun result => ?_
      cases result <;> rfl

end HeldMail
end Switchboard
