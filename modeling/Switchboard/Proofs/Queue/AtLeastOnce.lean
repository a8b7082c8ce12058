import Switchboard.Proofs.Queue.Shift

/-!
# At least once

What a consumer at a queue of its own makes sure of, however its handler behaves and whatever is
sent meanwhile.  Every delivery has its invocation; a message goes exactly when an invocation on it
has succeeded, which happens once at most; and a message on which none succeeded stays where it is,
to be handed out again after its visibility timeout.  An invocation succeeds if its handler returns
without an error, which is what is put on record by {lit}`Shift.mem_invocations_run`.

Main results:

- Definition {lit}`Shift.AtLeastOnce`: what a consumer makes sure of.
- Theorem {lit}`Shift.run_kept`: what every run keeps.
- Theorem {lit}`Shift.run_atLeastOnce`: it makes sure of that in every run.
-/

namespace Switchboard
namespace Shift

/-- The consumer finishes what it is at, the invocation under way ending as it may, and begins its
next poll. -/
def toNextPoll (s : Shift) (outcome : Outcome DispatchError Unit) (wait : Duration) : Shift :=
  s.run [.invoke outcome, .acknowledge, .begin wait]

/-- The earliest message of the queue that can be handed out. -/
def nextReady? (s : Shift) : Option Parcel :=
  s.traffic.ledger.find?
    (Parcel.readyOn s.traffic.backlog.visibility s.traffic.now s.consumer.queue)

/-- What a consumer at a queue of its own makes sure of at every moment. -/
structure AtLeastOnce (s : Shift) : Prop where
  /-- The handler is invoked once for each delivery, in the order of the deliveries; only the
  invocation on the message in hand has not ended yet. -/
  invoked_once : s.traffic.history.filterMap (Occurrence.deliveredOn? s.consumer.queue) =
    s.invocations.map Invocation.delivery ++ s.inHand
  /-- The parcels of the ledger are the messages that were sent. -/
  sends : s.traffic.ledger.sends = s.traffic.history.filterMap Occurrence.sent?
  /-- The queue holds what was sent to it and not removed, in the order of sending. -/
  stored : s.traffic.backlog.waiting s.consumer.queue =
    s.traffic.ledger.waiting s.traffic.backlog.visibility s.consumer.queue
  /-- A message was removed exactly if an invocation on it succeeded. -/
  removed_iff : ∀ p ∈ s.traffic.ledger, p.queue = s.consumer.queue → s.acknowledges p = false →
    (p.removed = true ↔ s.successes p = 1)
  /-- A message that the consumer is about to delete is still there, and an invocation on it
  succeeded. -/
  acknowledged : ∀ p ∈ s.traffic.ledger, p.queue = s.consumer.queue → s.acknowledges p = true →
    p.storedOn s.consumer.queue = true ∧ s.successes p = 1
  /-- No message has two invocations that succeeded. -/
  succeeds_once : ∀ p ∈ s.traffic.ledger, p.queue = s.consumer.queue → s.successes p ≤ 1
  /-- Every message that was sent to the queue is still there, or an invocation on it succeeded. -/
  accounted : ∀ p ∈ s.traffic.ledger, p.queue = s.consumer.queue →
    p.storedOn s.consumer.queue = true ∨ s.successes p = 1
  /-- A message that was handed out, and on which no invocation succeeded, stands at its place in
  the order of sending, hidden for the visibility timeout from its latest delivery on. -/
  stays : ∀ (i : Nat) (p : Parcel) (deliveredAt : Instant) (receipt : String)
    (older : List (Instant × String)), s.traffic.ledger[i]? = some p →
      p.queue = s.consumer.queue → p.deliveries = (deliveredAt, receipt) :: older →
        s.successes p = 0 →
          (s.traffic.backlog.waiting s.consumer.queue)[
              (s.traffic.ledger.take i).countP (Parcel.storedOn s.consumer.queue)]? =
            some ⟨p.message, some receipt,
              Instant.after? deliveredAt s.traffic.backlog.visibility,
              UInt32.ofNat (older.length + 1)⟩
  /-- No message is handed out again before the visibility timeout has passed. -/
  spaced : ∀ p ∈ s.traffic.ledger, p.Spaced s.traffic.backlog.visibility
  /-- Whatever becomes of the message in hand, the consumer goes on to its next poll with all other
  messages untouched, and a look hands it the earliest message that is ready. -/
  goes_on : s.stage ≠ .stopped → ∀ outcome wait,
    (s.toNextPoll outcome wait).stage = .polling ∧
      (s.toNextPoll outcome wait).consumer.running = true ∧
      (∀ p ∈ s.traffic.ledger,
        (∀ delivery, s.held? = some delivery → p.receipt ≠ some delivery.receipt) →
          p ∈ (s.toNextPoll outcome wait).traffic.ledger) ∧
      (s.traffic.backlog.closed = false → ∀ p receipt,
        (s.toNextPoll outcome wait).nextReady? = some p →
          ((s.toNextPoll outcome wait).step (.look receipt)).stage =
            .handling ⟨p.message, receipt, UInt32.ofNat (p.deliveries.length + 1)⟩)
  /-- The consumer ends only when the queues are closed. -/
  stops : s.stage = .stopped → s.traffic.backlog.closed = true
  handled : s.consumer.stats.handled = s.invocations.countP Invocation.succeeded
  failed : s.consumer.stats.failed = s.invocations.countP fun v => !v.succeeded
  /-- Between two polls, each poll gave a message that was handled, one whose handling failed, or
  none. -/
  polls : s.stage = .boundary → s.consumer.stats.polls =
    s.consumer.stats.handled + s.consumer.stats.failed + s.emptyPolls
  /-- A consumer that has ended began one poll more, in which it found the queues closed. -/
  polls_stopped : s.stage = .stopped → s.consumer.stats.polls =
    s.consumer.stats.handled + s.consumer.stats.failed + s.emptyPolls + 1

/-! ## Runs -/

/-- A consumer stays at its queue and with its subscriber. -/
theorem post_step (s : Shift) (move : Move) :
    (s.step move).consumer.queue = s.consumer.queue ∧
      (s.step move).consumer.subscriber = s.consumer.subscriber := by
  unfold step
  split
  · exact ⟨rfl, rfl⟩
  · exact ⟨rfl, rfl⟩
  · unfold look
    split <;> exact ⟨rfl, rfl⟩
  · unfold invoke
    split <;> exact ⟨rfl, rfl⟩
  · exact ⟨rfl, rfl⟩
  · exact ⟨rfl, rfl⟩

@[simp]
theorem queue_step (s : Shift) (move : Move) : (s.step move).consumer.queue = s.consumer.queue :=
  (s.post_step move).1

/-- Every run keeps what is to be kept, as long as the others spare the queue and no receipt is
given twice. -/
theorem run_kept {s : Shift} {given : List String} (h : s.Kept given) (moves : List Move)
    (hspares : ∀ move ∈ moves, move.spares s.consumer.queue = true)
    (hfresh : (given ++ moves.filterMap Move.receipt?).Nodup) :
    (s.run moves).Kept (given ++ moves.filterMap Move.receipt?) := by
  induction moves generalizing s given with
  | nil => simpa [run] using h
  | cons move moves ih =>
    have hsplit : given ++ (move :: moves).filterMap Move.receipt? =
        (given ++ move.receipt?.toList) ++ moves.filterMap Move.receipt? := by
      cases hmove : move.receipt? <;> simp [hmove]
    rw [hsplit] at hfresh ⊢
    refine ih (h.step move (hspares move List.mem_cons_self) fun receipt hmove hgiven => ?_)
      (fun later hlater => ?_) hfresh
    · have hbefore := List.nodup_append.mp (List.nodup_append.mp hfresh).1
      exact hbefore.2.2 receipt hgiven receipt (by simp [hmove]) rfl
    · rw [queue_step]
      exact hspares later (List.mem_cons_of_mem _ hlater)

/-- Every run keeps the counts of the consumer right. -/
theorem run_counted {s : Shift} (h : s.Counted) (moves : List Move) : (s.run moves).Counted := by
  induction moves generalizing s with
  | nil => exact h
  | cons move moves ih => exact ih (h.step move)

/-! ## What follows -/

namespace Kept

variable {s : Shift} {given : List String} {p : Parcel}

/-- What the consumer is about to delete is still on the queue. -/
theorem storedOn_of_acknowledges (h : s.Kept given) (hp : p ∈ s.traffic.ledger)
    (hacknowledges : s.acknowledges p = true) : p.storedOn s.consumer.queue = true := by
  unfold acknowledges at hacknowledges
  split at hacknowledges
  · rename_i delivery hstage
    obtain ⟨q, hq, hstored, hlatest⟩ := h.held delivery (by simp [held?, hstage])
    obtain rfl : p = q := Ledger.eq_of_mem_receipts h.sound.agrees.receipts_nodup hp hq
      (by simpa using hacknowledges) (Parcel.mem_receipts_of_receipt hlatest)
    exact hstored
  · cases hacknowledges

/-- On the message of which a delivery is in hand no invocation has succeeded. -/
theorem successes_of_handling (h : s.Kept given) {delivery : Delivery}
    (hstage : s.stage = .handling delivery) (hp : p ∈ s.traffic.ledger)
    (hreceipt : delivery.receipt ∈ p.receipts) : p.removed = false ∧ s.successes p = 0 := by
  obtain ⟨q, hq, hstored, hlatest⟩ := h.held delivery (by simp [held?, hstage])
  obtain rfl : p = q := Ledger.eq_of_mem_receipts h.sound.agrees.receipts_nodup hp hq hreceipt
    (Parcel.mem_receipts_of_receipt hlatest)
  obtain ⟨hqueue, hremoved⟩ := Parcel.storedOn_iff.mp hstored
  refine ⟨hremoved, ?_⟩
  rw [h.settled p hp hqueue, hremoved]
  simp [acknowledges, hstage]

/-- The consumer is not about to delete what was removed. -/
theorem acknowledges_of_removed (h : s.Kept given) (hp : p ∈ s.traffic.ledger)
    (hremoved : p.removed = true) : s.acknowledges p = false := by
  by_contra hacknowledges
  have hstored := h.storedOn_of_acknowledges hp (by simpa using hacknowledges)
  rw [(Parcel.storedOn_iff.mp hstored).2] at hremoved
  cases hremoved

/-- On what was removed one invocation succeeded. -/
theorem successes_of_removed (h : s.Kept given) (hp : p ∈ s.traffic.ledger)
    (hqueue : p.queue = s.consumer.queue) (hremoved : p.removed = true) : s.successes p = 1 := by
  rw [h.settled p hp hqueue, h.acknowledges_of_removed hp hremoved, hremoved]
  rfl

end Kept

/-- Whatever becomes of the message in hand, the consumer comes to its next poll, and all that may
have happened is that it deleted that message. -/
theorem toNextPoll_spec {s : Shift} (hstage : s.stage ≠ .stopped)
    (outcome : Outcome DispatchError Unit) (wait : Duration) :
    (s.toNextPoll outcome wait).stage = .polling ∧
      ((s.toNextPoll outcome wait).traffic = s.traffic ∨
        ∃ delivery, s.held? = some delivery ∧
          (s.toNextPoll outcome wait).traffic = (s.acknowledge delivery).traffic) := by
  unfold toNextPoll run
  cases h : s.stage with
  | stopped => exact absurd h hstage
  | boundary | polling => simp [step, h]
  | acknowledging delivery => simp [step, h, held?, acknowledge]
  | handling delivery =>
    cases hresult : containCheck (delivery.message.typeInfo.getD "unknown") outcome <;>
      simp [step, h, held?, invoke, hresult, acknowledge]

/-- A look in a poll hands out the earliest message that is ready. -/
theorem stage_look {s : Shift} (hagrees : s.traffic.backlog.Agrees s.traffic.ledger)
    (hstage : s.stage = .polling) (hopen : s.traffic.backlog.closed = false) {p : Parcel}
    (hready : s.nextReady? = some p) (receipt : String) :
    (s.step (.look receipt)).stage =
      .handling ⟨p.message, receipt, UInt32.ofNat (p.deliveries.length + 1)⟩ := by
  have hp := List.mem_of_find?_eq_some hready
  have hpready := List.find?_some hready
  obtain ⟨⟨delivery, messages⟩, hfound⟩ := Option.ne_none_iff_exists'.mp
    (Ledger.takeFirst_waiting_ne_none receipt hp hpready)
  rw [← hagrees.waiting_eq] at hfound
  have hpoll : s.traffic.backlog.poll s.traffic.now s.consumer.deadline s.consumer.queue receipt =
      .delivered delivery _ := Backlog.poll_eq_delivered_iff.mpr ⟨hopen, messages, hfound, rfl⟩
  obtain ⟨before, q, after, hledger, hbefore, hqready, hdelivery, -⟩ :=
    hagrees.poll_delivered hpoll
  have hfirst : s.nextReady? = some q := by
    rw [nextReady?, hledger, List.find?_append]
    have hnone : before.find?
        (Parcel.readyOn s.traffic.backlog.visibility s.traffic.now s.consumer.queue) = none := by
      rw [List.find?_eq_none]
      intro r hr
      simp [hbefore r hr]
    simp [hnone, hqready]
  obtain rfl := Option.some.inj (hready.symm.trans hfirst)
  simp [step, hstage, look, hpoll, hdelivery]

/-- What the invariants say about each message. -/
theorem atLeastOnce_of_kept {s : Shift} {given : List String} (h : s.Kept given)
    (hcounted : s.Counted) : s.AtLeastOnce where
  invoked_once := h.invoked
  sends := Ledger.sends_ofHistory _ _
  stored := h.sound.agrees.waiting_eq _
  removed_iff p hp hqueue hacknowledges := by
    rw [h.settled p hp hqueue, hacknowledges]
    cases p.removed <;> simp
  acknowledged p hp hqueue hacknowledges := by
    have hstored := h.storedOn_of_acknowledges hp hacknowledges
    refine ⟨hstored, ?_⟩
    rw [h.settled p hp hqueue, hacknowledges, (Parcel.storedOn_iff.mp hstored).2]
    rfl
  succeeds_once p hp hqueue := by
    cases hremoved : p.removed with
    | true => exact Nat.le_of_eq (h.successes_of_removed hp hqueue hremoved)
    | false =>
      rw [h.settled p hp hqueue, hremoved]
      cases s.acknowledges p <;> simp
  accounted p hp hqueue := by
    cases hremoved : p.removed with
    | false => exact .inl (Parcel.storedOn_iff.mpr ⟨hqueue, hremoved⟩)
    | true => exact .inr (h.successes_of_removed hp hqueue hremoved)
  stays i p deliveredAt receipt older hi hqueue hdeliveries hnone := by
    have hremoved : p.removed = false := by
      by_contra hgone
      have hone := h.successes_of_removed (List.mem_of_getElem? hi) hqueue (by simpa using hgone)
      omega
    have hstored := Parcel.storedOn_iff.mpr ⟨hqueue, hremoved⟩
    rw [h.sound.agrees.waiting_eq]
    refine (Ledger.getElem?_waiting _ hi hstored).trans ?_
    simp [Parcel.waiting, Parcel.receipt, Parcel.receipts, Parcel.visibleAt, hdeliveries]
  spaced := Ledger.spaced_ofHistory _ _
  goes_on hstage outcome wait := by
    obtain ⟨hpolling, htraffic⟩ := toNextPoll_spec hstage outcome wait
    have hrunning := (run_counted hcounted [.invoke outcome, .acknowledge, .begin wait]).running
    refine ⟨hpolling, hrunning (ne_of_eq_of_ne hpolling (by simp)), fun p hp hother => ?_,
      fun hopen p receipt hready => ?_⟩
    · rcases htraffic with htraffic | ⟨delivery, hheld, htraffic⟩
      · rwa [htraffic]
      · rw [htraffic, ledger_acknowledge]
        exact Ledger.mem_delete_of_ne _ hp (hother delivery hheld)
    · rcases htraffic with htraffic | ⟨delivery, -, htraffic⟩
      · exact stage_look (htraffic ▸ h.sound.agrees) hpolling (htraffic ▸ hopen) hready receipt
      · refine stage_look ?_ hpolling (htraffic ▸ hopen) hready receipt
        rw [htraffic, ledger_acknowledge]
        exact h.sound.agrees.delete _ _
  stops := hcounted.stopped
  handled := hcounted.handled
  failed := hcounted.failed
  polls hstage := by simpa [openPolls, hstage] using hcounted.polls
  polls_stopped hstage := by simpa [openPolls, hstage] using hcounted.polls

/-- In every run of a consumer to whom the others leave its queue, and in which no receipt is given
twice, the consumer makes sure that each message is handled at least once. -/
theorem run_atLeastOnce (visibility : Duration) (queue : String) (subscriber : Subscriber)
    (moves : List Move) (hspares : ∀ move ∈ moves, move.spares queue = true)
    (hfresh : (moves.filterMap Move.receipt?).Nodup) :
    ((start visibility queue subscriber).run moves).AtLeastOnce :=
  atLeastOnce_of_kept
    (run_kept (Kept.start visibility queue subscriber) moves hspares (by simpa using hfresh))
    (run_counted (Counted.start visibility queue subscriber) moves)

/-- Two messages, on the first of which the handler panics at first: the second one comes next, and
the first one again after its visibility timeout. -/
theorem run_atLeastOnce_panic :
    let moves : List Move :=
      [.others (.send "in" (.plain "a" "1")), .begin 5, .look "r1",
        .others (.send "in" (.plain "b" "2")), .invoke (.panicked .wordless), .begin 5, .look "r2",
        .invoke (.ok ()), .acknowledge, .begin 5, .look "r3", .others (.pass 40), .look "r4",
        .invoke (.ok ()), .acknowledge, .others .close, .begin 5, .look "r5"]
    let s := (start 40 "in" (.facade 0)).run moves
    (∀ move ∈ moves, move.spares "in" = true) ∧ (moves.filterMap Move.receipt?).Nodup ∧
      s.AtLeastOnce ∧ s.consumer.stats = ⟨4, 2, 1⟩ ∧ s.traffic.backlog.waiting "in" = [] :=
  ⟨by decide, by decide, run_atLeastOnce 40 "in" (.facade 0) _ (by decide) (by decide), by decide,
    by decide⟩

end Shift
end Switchboard
