import Switchboard.Queue.Broker

/-!
# A consumer alone

The rounds of a broker that has a single consumer and no receivers are the turns of that consumer.
If messages wait at its queue it is handed the first one that is visible; otherwise it goes on
waiting.

Main results:

- Theorem {lit}`Broker.round_alone`: a round is a turn.
- Theorem {lit}`Consumer.turn_of_empty`: a turn at an empty queue.
- Theorem {lit}`Consumer.turn_of_visible`: a turn at a queue whose first message is visible.
-/

namespace Switchboard

variable {C : Catalogue} {receive : Reception C}

/-- A message that was never handed out and can be. -/
structure Waiting.Fresh (w : Waiting) (now : Instant) : Prop where
  never : w.receipt = none
  visible : ∃ t, w.visibleAt = some t ∧ t ≤ now

theorem Waiting.Fresh.isVisible {w : Waiting} {now : Instant} (h : w.Fresh now) :
    w.isVisible now = true := by
  obtain ⟨t, ht, hle⟩ := h.visible
  simp [Waiting.isVisible, Instant.reached, ht, hle]

theorem Waiting.Fresh.later {w : Waiting} {now : Instant} (h : w.Fresh now) (duration : Duration) :
    w.Fresh (now + duration) where
  never := h.never
  visible := h.visible.imp fun _ ht => ⟨ht.1, Nat.le_add_right_of_le ht.2⟩

theorem Waiting.fresh_sent (m : Message) (now : Instant) : (sent m now).Fresh now :=
  ⟨rfl, now, rfl, Nat.le_refl now⟩

/-! ## Looks at a queue -/

namespace Backlog

variable {b : Backlog} {now : Instant} {deadline : Option Instant} {queue receipt : String}

/-- Nothing is handed out of an empty queue. -/
theorem poll_of_empty (hopen : b.closed = false) (hempty : b.waiting queue = []) :
    b.poll now deadline queue receipt = .timedOut ∨
      b.poll now deadline queue receipt = .blocked := by
  rw [poll, hopen, hempty]
  cases Instant.reached deadline now
  · exact .inr rfl
  · exact .inl rfl

/-- A visible message at the front of its queue is handed out, and stays where it is until it is
deleted by its receipt. -/
theorem poll_of_visible (hopen : b.closed = false) {w : Waiting} {rest : List Waiting}
    (hwaiting : b.waiting queue = w :: rest) (hvisible : w.isVisible now = true)
    (hnever : ∀ v ∈ rest, v.receipt = none) :
    ∃ delivery b', b.poll now deadline queue receipt = .delivered delivery b' ∧
      delivery.message = w.message ∧ (b'.delete queue delivery.receipt).closed = false ∧
        (b'.delete queue delivery.receipt).waiting queue = rest := by
  have htaken : takeFirst now b.visibility receipt (b.waiting queue) =
      some (⟨w.message, receipt, w.receiveCount + 1⟩,
        w.handOut now b.visibility receipt :: rest) := by
    rw [hwaiting, takeFirst, if_pos hvisible]
    rfl
  refine ⟨_, _, poll_eq_delivered_iff.mpr ⟨hopen, _, htaken, rfl⟩, rfl, hopen, ?_⟩
  rw [waiting_delete, if_pos rfl, waiting, Dictionary.find?_insert_self, Option.getD_some,
    List.filter_cons_of_neg (by simp [Waiting.handOut]), List.filter_eq_self]
  intro v hv
  simp [hnever v hv]

end Backlog

/-! ## Turns -/

namespace Consumer

variable {c : Consumer} {now : Instant} {wait : Duration} {backlog : Backlog}

/-- How a turn of a consumer at work goes on after its look at the queue. -/
theorem turn_of_running (receive : Reception C) (hrunning : c.running = true) (s : Session C) :
    c.turn receive now wait backlog s =
      let drawn := { s with nextId := s.nextId + 1 }
      match backlog.poll now c.deadline c.queue (Uuid.random s.nextId).text with
      | .closed =>
        (⟨{ c with running := false }, backlog, true⟩,
          (Session.report .info "consumer stopped" [("queue", .text c.queue)] drawn).2)
      | .blocked => (⟨c, backlog, false⟩, drawn)
      | .timedOut => (⟨c.beginPoll now wait, backlog, false⟩, drawn)
      | .delivered delivery left =>
        let handled := c.handle receive delivery left drawn
        (⟨handled.1.1.beginPoll now wait, handled.1.2, true⟩, handled.2) := by
  rw [turn, hrunning]
  simp only [Bool.not_true, Bool.false_eq_true, if_false, bind_apply, Session.draw]
  cases backlog.poll now c.deadline c.queue (Uuid.random s.nextId).text <;> rfl

/-- A turn at an empty queue finds nothing to do. -/
theorem turn_of_empty (receive : Reception C) (now : Instant) (wait : Duration)
    (hrunning : c.running = true) (hopen : backlog.closed = false)
    (hempty : backlog.waiting c.queue = []) (s : Session C) :
    ∃ c', (c' = c ∨ c' = c.beginPoll now wait) ∧ c.turn receive now wait backlog s =
      (⟨c', backlog, false⟩, { s with nextId := s.nextId + 1 }) := by
  rw [turn_of_running receive hrunning]
  rcases Backlog.poll_of_empty hopen hempty with hpoll | hpoll
  · exact ⟨c.beginPoll now wait, .inr rfl, by rw [hpoll]⟩
  · exact ⟨c, .inl rfl, by rw [hpoll]⟩

/-- What becomes of a message that was handed out, by what its subscriber makes of it. -/
theorem handle_eq (receive : Reception C) (c : Consumer) (delivery : Delivery)
    (backlog : Backlog) (s : Session C) :
    c.handle receive delivery backlog s =
      let ctx := delivery.message.receivingContext (Uuid.random s.nextId).text
      let received := receive c.subscriber c.queue ctx delivery.message
        { s with nextId := s.nextId + 1 }
      match containCheck (delivery.message.typeInfo.getD "unknown") received.1 with
      | .ok () => ((c.countHandled, backlog.delete c.queue delivery.receipt), received.2)
      | .error e =>
        ((c.countFailed, backlog),
          (Session.report .error "message handling failed, leaving it for redelivery"
            [("queue", .text c.queue), ("message_id", .text delivery.message.id),
              ("receive_count", .number delivery.receiveCount.toNat),
              ("error", .text e.message)] received.2).2) := by
  simp only [handle, bind_apply, Session.draw]
  generalize receive c.subscriber c.queue _ delivery.message _ = received
  cases containCheck (delivery.message.typeInfo.getD "unknown") received.1 <;> rfl

/-- The calls on the way of a message are those that its subscriber makes of it. -/
theorem calls_handle (receive : Reception C) (c : Consumer) (delivery : Delivery)
    (backlog : Backlog) (s : Session C) :
    (c.handle receive delivery backlog s).2.calls =
      (receive c.subscriber c.queue
        (delivery.message.receivingContext (Uuid.random s.nextId).text) delivery.message
        { s with nextId := s.nextId + 1 }).2.calls := by
  rw [handle_eq]
  dsimp only
  split <;> rfl

/-- A turn at a queue whose first message is visible moves on with that message. -/
theorem turn_of_visible (receive : Reception C) (wait : Duration) (hrunning : c.running = true)
    (hopen : backlog.closed = false) {w : Waiting} {rest : List Waiting}
    (hwaiting : backlog.waiting c.queue = w :: rest) (hvisible : w.isVisible now = true)
    (hnever : ∀ v ∈ rest, v.receipt = none) (s : Session C) :
    let ctx := w.message.receivingContext (Uuid.random (s.nextId + 1)).text
    let received := receive c.subscriber c.queue ctx w.message
      { s with nextId := s.nextId + 1 + 1 }
    let outcome := c.turn receive now wait backlog s
    outcome.1.moved = true ∧ outcome.2.calls = received.2.calls ∧
      outcome.2.store = received.2.store ∧
      (received.1 = .returned (.ok ()) →
        outcome.1.consumer = c.countHandled.beginPoll now wait ∧
          outcome.1.backlog.closed = false ∧ outcome.1.backlog.waiting c.queue = rest) := by
  obtain ⟨delivery, left, hpoll, hmessage, hclosed, hrest⟩ := Backlog.poll_of_visible
    hopen hwaiting hvisible hnever
  rw [turn_of_running receive hrunning, hpoll]
  simp only [handle_eq, hmessage]
  refine ⟨trivial, ?_, ?_, fun hreceived => ?_⟩
  · split <;> rfl
  · split <;> rfl
  · rw [hreceived]
    exact ⟨rfl, hclosed, hrest⟩

end Consumer

/-! ## Rounds -/

/-- Without consumers and receivers there is nothing to do. -/
theorem Broker.round_deserted {b : Broker} (hconsumers : b.consumers = [])
    (hreceivers : b.receivers = []) (s : Session C) : b.round receive s = ((b, false), s) := by
  obtain ⟨now, waitTime, backlog, consumers, receivers⟩ := b
  subst hconsumers hreceivers
  rfl

/-- A round of a consumer that is alone is its turn. -/
theorem Broker.round_alone {b : Broker} {c : Consumer} (hconsumers : b.consumers = [c])
    (hreceivers : b.receivers = []) (s : Session C) :
    b.round receive s =
      let outcome := Session.inBackground (c.turn receive b.now b.waitTime b.backlog) s
      (({ b with backlog := outcome.1.backlog, consumers := [outcome.1.consumer] },
        outcome.1.moved), outcome.2) := by
  obtain ⟨now, waitTime, backlog, consumers, receivers⟩ := b
  subst hconsumers hreceivers
  simp only [round, takeTurns, takeLooks, bind_apply, pure_apply, Bool.or_false]

end Switchboard
