import Switchboard.Network
import Switchboard.Proofs.Queue.Closing
import Switchboard.Proofs.Queue.Exclusion
import Switchboard.Proofs.Facade.Draining

/-!
# Waking up in time

Somebody who waits alone for a message of a queue sleeps from one look to the next.  He must not
sleep past the first message that becomes visible, nor past his own deadline, and where there is
neither he must sleep on.  What a look finds depends only on which messages are visible at its
instant, so the next one is due at the least of the deadline and of all instants at which a message
becomes visible.

Main results:

- Definition {lit}`Broker.receiveOne`: to wait for one message.
- Theorem {lit}`Backlog.exists_poll_eq_delivered`: a look hands out the first visible message.
- Theorem {lit}`Broker.Waits.await_of_blocked`: a look that finds nothing is repeated at the next
  instant that matters.
- Theorem {lit}`Broker.receiveOne_punctual`: when a wait ends, and how.
-/

namespace Switchboard

variable {C : Catalogue}

/-! ## What a look finds -/

/-- A deadline has come from its instant on. -/
theorem Instant.reached_iff {deadline : Option Instant} {now : Instant} :
    reached deadline now = true ↔ ∃ t, deadline = some t ∧ t ≤ now := by
  cases deadline <;> simp [reached]

theorem Instant.reached_eq_false_iff {deadline : Option Instant} {now : Instant} :
    reached deadline now = false ↔ ∀ t, deadline = some t → now < t := by
  cases deadline <;> simp [reached]

/-- A message is visible from the instant on at which it becomes so. -/
theorem Waiting.isVisible_iff {w : Waiting} {now : Instant} :
    w.isVisible now = true ↔ ∃ t, w.visibleAt = some t ∧ t ≤ now :=
  Instant.reached_iff

namespace Backlog

variable {b : Backlog} {queue : String} {now : Instant}

/-- Some message of a queue can be handed out. -/
def AnyVisible (b : Backlog) (queue : String) (now : Instant) : Prop :=
  ∃ w ∈ b.waiting queue, w.isVisible now = true

/-- The earliest instant at which a message of a queue becomes visible, or became so. -/
structure FirstVisible (b : Backlog) (queue : String) (first : Instant) : Prop where
  appears : ∃ w ∈ b.waiting queue, w.visibleAt = some first
  least : ∀ w ∈ b.waiting queue, ∀ t, w.visibleAt = some t → first ≤ t

/-- From the earliest instant on some message is visible, and before it none is. -/
theorem FirstVisible.anyVisible_iff {first : Instant} (h : b.FirstVisible queue first) :
    b.AnyVisible queue now ↔ first ≤ now := by
  constructor
  · rintro ⟨w, hw, hvisible⟩
    obtain ⟨t, ht, hle⟩ := Waiting.isVisible_iff.mp hvisible
    exact Nat.le_trans (h.least w hw t ht) hle
  · intro hle
    obtain ⟨w, hw, hfirst⟩ := h.appears
    exact ⟨w, hw, Waiting.isVisible_iff.mpr ⟨first, hfirst, hle⟩⟩

/-- As long as no message becomes visible none can be handed out. -/
theorem not_anyVisible_of_forall_lt
    (h : ∀ w ∈ b.waiting queue, ∀ t, w.visibleAt = some t → now < t) :
    ¬ b.AnyVisible queue now := by
  rintro ⟨w, hw, hvisible⟩
  obtain ⟨t, ht, hle⟩ := Waiting.isVisible_iff.mp hvisible
  exact Nat.not_le_of_lt (h w hw t ht) hle

/-- A queue and a deadline promise one of four things: a message is visible; the first one becomes
visible later, by the deadline; none becomes visible by the deadline; or there is no deadline and
none ever becomes visible. -/
theorem prospects (b : Backlog) (queue : String) (now : Instant) (deadline : Option Instant) :
    b.AnyVisible queue now ∨
      (∃ first, b.FirstVisible queue first ∧ now < first ∧ ∀ d, deadline = some d → first ≤ d) ∨
      (∃ d, deadline = some d ∧ ∀ w ∈ b.waiting queue, ∀ t, w.visibleAt = some t → d < t) ∨
      (deadline = none ∧ ∀ w ∈ b.waiting queue, w.visibleAt = none) := by
  cases hmin : ((b.waiting queue).filterMap Waiting.visibleAt).min? with
  | none =>
    have hnever : ∀ w ∈ b.waiting queue, w.visibleAt = none := by
      simpa using List.min?_eq_none_iff.mp hmin
    cases deadline with
    | none => exact .inr (.inr (.inr ⟨rfl, hnever⟩))
    | some d =>
      refine .inr (.inr (.inl ⟨d, rfl, fun w hw t ht => ?_⟩))
      rw [hnever w hw] at ht
      cases ht
  | some first =>
    obtain ⟨hmem, hleast⟩ := List.min?_eq_some_iff.mp hmin
    have hfirst : b.FirstVisible queue first :=
      ⟨List.mem_filterMap.mp hmem, fun w hw t ht => hleast t (List.mem_filterMap.mpr ⟨w, hw, ht⟩)⟩
    by_cases hnow : first ≤ now
    · exact .inl (hfirst.anyVisible_iff.mpr hnow)
    by_cases hearly : ∀ d, deadline = some d → first ≤ d
    · exact .inr (.inl ⟨first, hfirst, Nat.lt_of_not_le hnow, hearly⟩)
    · simp only [Classical.not_forall] at hearly
      obtain ⟨d, hd, hlate⟩ := hearly
      exact .inr (.inr (.inl ⟨d, hd, fun w hw t ht =>
        Nat.lt_of_lt_of_le (Nat.lt_of_not_le hlate) (hfirst.least w hw t ht)⟩))

theorem takeFirst_of_hidden {visibility : Duration} {receipt : String} {messages : List Waiting}
    (hhidden : ∀ w ∈ messages, w.isVisible now = false) :
    takeFirst now visibility receipt messages = none := by
  induction messages with
  | nil => rfl
  | cons w rest ih =>
    have hw := hhidden w List.mem_cons_self
    have hrest := ih fun v hv => hhidden v (List.mem_cons_of_mem w hv)
    simp [takeFirst, hw, hrest]

theorem takeFirst_of_visible (visibility : Duration) (receipt : String) {before : List Waiting}
    {w : Waiting} (after : List Waiting) (hbefore : ∀ v ∈ before, v.isVisible now = false)
    (hvisible : w.isVisible now = true) :
    takeFirst now visibility receipt (before ++ w :: after) =
      some (⟨w.message, receipt, w.receiveCount + 1⟩,
        before ++ w.handOut now visibility receipt :: after) := by
  induction before with
  | nil => simp [takeFirst, hvisible, Waiting.handOut]
  | cons v rest ih =>
    have hv := hbefore v List.mem_cons_self
    have hrest := ih fun u hu => hbefore u (List.mem_cons_of_mem v hu)
    simp [takeFirst, hv, hrest]

/-- If any message of an open queue is visible, then a look hands out the first one that is. -/
theorem exists_poll_eq_delivered (hopen : b.closed = false) (hvisible : b.AnyVisible queue now)
    (deadline : Option Instant) (receipt : String) :
    ∃ place d b', b.poll now deadline queue receipt = .delivered d b' ∧
      b.HandsOutFrom b' now queue place d := by
  obtain ⟨w, hfind⟩ :
      ∃ w, (b.waiting queue).find? (fun w => w.isVisible now) = some w := by
    rw [← Option.isSome_iff_exists, List.find?_isSome]
    exact hvisible
  obtain ⟨hw, before, after, hsplit, hbefore⟩ := List.find?_eq_some_iff_append.mp hfind
  have hhidden : ∀ v ∈ before, v.isVisible now = false := fun v hv => by
    simpa using hbefore v hv
  have htaken := takeFirst_of_visible b.visibility receipt after hhidden hw
  rw [← hsplit] at htaken
  refine ⟨before.length, _, _, poll_eq_delivered_iff.mpr ⟨hopen, _, htaken, rfl⟩,
    before, w, after, hsplit, rfl, hhidden, hw, rfl, ?_, fun other hother => ?_⟩
  · simp [waiting]
  · simp [waiting, Dictionary.find?_insert_of_ne _ hother]

/-- If no message of an open queue is visible, then a look ends a wait whose deadline has come, and
blocks any other. -/
theorem poll_of_hidden (hopen : b.closed = false) (hhidden : ¬ b.AnyVisible queue now)
    (deadline : Option Instant) (receipt : String) :
    b.poll now deadline queue receipt =
      if Instant.reached deadline now then .timedOut else .blocked := by
  have hnone : ∀ w ∈ b.waiting queue, w.isVisible now = false := fun w hw =>
    Bool.eq_false_iff.mpr fun hvisible => hhidden ⟨w, hw, hvisible⟩
  simp [poll, hopen, takeFirst_of_hidden hnone]

end Backlog

/-! ## A receiver alone -/

namespace Broker

/-- Somebody waits at open queues where nobody else is at work. -/
structure Waits (b : Broker) (r : Receiver) : Prop where
  opened : b.backlog.closed = false
  consumers : b.consumers = []
  receivers : b.receivers = [r]
  unanswered : r.reply = none

/-- A round of a receiver that is alone is a look of it. -/
theorem round_of_receiver (receive : Reception C) {b : Broker} {r : Receiver}
    (hconsumers : b.consumers = []) (hreceivers : b.receivers = [r]) (s : Session C) :
    b.round receive s =
      let look := r.look b.now b.backlog (Session.draw s).1
      (({ b with backlog := look.backlog, receivers := [look.receiver] }, look.ended),
        (Session.draw s).2) := by
  obtain ⟨now, waitTime, backlog, consumers, receivers⟩ := b
  subst hconsumers hreceivers
  simp only [round, takeTurns, takeLooks, bind_apply, pure_apply, Bool.or_false, Bool.false_or]

/-- Where a look finds nothing the work is done. -/
theorem work_of_idle (receive : Reception C) {b : Broker} {r : Receiver}
    (hconsumers : b.consumers = []) (hreceivers : b.receivers = [r]) {s : Session C}
    (hlook : r.look b.now b.backlog (Session.draw s).1 = ⟨r, b.backlog, false⟩) (rounds : Nat) :
    b.work receive (rounds + 1) s = ((b, true), (Session.draw s).2) := by
  rw [work_succ, round_of_receiver receive hconsumers hreceivers, hlook]
  dsimp only
  rw [← hreceivers]
  rfl

/-- Whoever has his reply is dismissed with it. -/
theorem await_of_reply (receive : Reception C) {b : Broker} {r : Receiver} {reply : Reply}
    (hreceivers : b.receivers = [r]) (hreply : r.reply = some reply) (instants : Nat)
    (s : Session C) :
    b.await receive (instants + 1) s = ((some reply, { b with receivers := [] }), s) := by
  simp [await, hreceivers, hreply, pure_apply]

/-- A wait ends with a delivery at an instant: of the first message of the queue, in the order of
sending, that is visible then. -/
def EndsWithDelivery (b : Broker) (queue : String) (moment : Instant)
    (outcome : Option Reply × Broker) : Prop :=
  ∃ place d backlog, outcome = (some (.delivered d), { b with now := moment, backlog }) ∧
    b.backlog.HandsOutFrom backlog moment queue place d

namespace Waits

variable {b : Broker} {r : Receiver}

/-- A look that ends a wait is followed by one at which nothing is left to do. -/
theorem work_of_ended (receive : Reception C) (h : b.Waits r) {s : Session C} {reply : Reply}
    {backlog : Backlog} (hlook : r.look b.now b.backlog (Session.draw s).1 =
      ⟨{ r with reply := some reply }, backlog, true⟩) (rounds : Nat) :
    (b.work receive (rounds + 2) s).1 =
      ({ b with backlog, receivers := [{ r with reply := some reply }] }, true) := by
  have hround := round_of_receiver receive h.consumers h.receivers s
  rw [hlook] at hround
  rw [work_succ, hround]
  -- In the second round the receiver has his reply.
  let answered : Broker := { b with backlog, receivers := [{ r with reply := some reply }] }
  have hidle := work_of_idle receive (b := answered) h.consumers rfl (s := (Session.draw s).2) rfl
    rounds
  exact congrArg Prod.fst hidle

/-- A look that ends a wait is the last one. -/
theorem await_of_ended (receive : Reception C) (h : b.Waits r) {s : Session C} {reply : Reply}
    {backlog : Backlog} (hlook : r.look b.now b.backlog (Session.draw s).1 =
      ⟨{ r with reply := some reply }, backlog, true⟩) (instants : Nat) :
    (b.await receive (instants + 1) s).1 = (some reply, { b with backlog, receivers := [] }) := by
  have hwork := h.work_of_ended receive hlook 9998
  have hpatience : patience = 9998 + 2 := rfl
  simp [await, h.receivers, h.unanswered, hpatience, bind_apply, hwork, pure_apply]

/-- A look that finds nothing leaves everything as it is. -/
theorem work_of_blocked (receive : Reception C) (h : b.Waits r)
    (hblocked : ∀ receipt, b.backlog.poll b.now r.deadline r.queue receipt = .blocked)
    (rounds : Nat) (s : Session C) :
    b.work receive (rounds + 1) s = ((b, true), (Session.draw s).2) := by
  have hlook : r.look b.now b.backlog (Session.draw s).1 = ⟨r, b.backlog, false⟩ := by
    simp [Receiver.look, h.unanswered, hblocked]
  exact work_of_idle receive h.consumers h.receivers hlook rounds

/-- A look that finds nothing is repeated at the next instant that matters, if there is one. -/
theorem await_of_blocked (receive : Reception C) (h : b.Waits r)
    (hblocked : ∀ receipt, b.backlog.poll b.now r.deadline r.queue receipt = .blocked)
    (instants : Nat) (s : Session C) :
    b.await receive (instants + 1) s =
      match b.nextInstant with
      | some t => await receive instants { b with now := t } (Session.draw s).2
      | none => ((none, b), (Session.draw s).2) := by
  have hpatience : patience = 9999 + 1 := rfl
  simp only [await, h.receivers, List.getLast?_singleton, Option.bind_some, h.unanswered,
    hpatience, bind_apply, h.work_of_blocked receive hblocked]
  cases b.nextInstant <;> rfl

/-- If no message is visible, then what matters to a receiver is when any becomes visible, and his
deadline. -/
theorem nextInstant_eq (h : b.Waits r) (hhidden : ¬ b.backlog.AnyVisible r.queue b.now) :
    b.nextInstant =
      ((b.backlog.waiting r.queue).filterMap Waiting.visibleAt ++ r.deadline.toList).min? := by
  have hlater : b.reappearances r.queue =
      (b.backlog.waiting r.queue).filterMap Waiting.visibleAt := by
    rw [reappearances, List.filter_eq_self]
    intro t ht
    obtain ⟨w, hw, hvisible⟩ := List.mem_filterMap.mp ht
    have hnot : ¬ t ≤ b.now := fun hle =>
      hhidden ⟨w, hw, Waiting.isVisible_iff.mpr ⟨t, hvisible, hle⟩⟩
    simpa using hnot
  have hdeadlines : b.deadlines = r.deadline.toList := by
    rw [deadlines, h.receivers]
    cases hdeadline : r.deadline <;> simp [h.unanswered, hdeadline]
  simp [nextInstant, watchedQueues, h.consumers, h.receivers, h.unanswered, hlater, hdeadlines]

/-- A visible message ends the wait. -/
theorem await_of_visible (receive : Reception C) (h : b.Waits r)
    (hvisible : b.backlog.AnyVisible r.queue b.now) (instants : Nat) (s : Session C) :
    EndsWithDelivery { b with receivers := [] } r.queue b.now
      (b.await receive (instants + 1) s).1 := by
  obtain ⟨place, d, backlog, hpoll, hhandsOut⟩ :=
    Backlog.exists_poll_eq_delivered h.opened hvisible r.deadline (Session.draw s).1
  have hlook : r.look b.now b.backlog (Session.draw s).1 =
      ⟨{ r with reply := some (.delivered d) }, backlog, true⟩ := by
    simp [Receiver.look, h.unanswered, hpoll]
  exact ⟨place, d, backlog, h.await_of_ended receive hlook instants, hhandsOut⟩

/-- The deadline ends the wait if no message is visible. -/
theorem await_of_reached (receive : Reception C) (h : b.Waits r)
    (hhidden : ¬ b.backlog.AnyVisible r.queue b.now)
    (hreached : Instant.reached r.deadline b.now = true) (instants : Nat) (s : Session C) :
    (b.await receive (instants + 1) s).1 = (some .timedOut, { b with receivers := [] }) := by
  have hlook : r.look b.now b.backlog (Session.draw s).1 =
      ⟨{ r with reply := some .timedOut }, b.backlog, true⟩ := by
    simp [Receiver.look, h.unanswered, Backlog.poll_of_hidden h.opened hhidden, hreached]
  exact h.await_of_ended receive hlook instants

/-- Whoever waits goes on to wait as time passes. -/
theorem later (h : b.Waits r) (now : Instant) : Waits { b with now } r :=
  ⟨h.opened, h.consumers, h.receivers, h.unanswered⟩

end Waits

/-! ## Waits that last -/

/-- Somebody waits without a deadline at a queue of which no message will ever become visible. -/
structure Lingers (b : Broker) (queue : String) : Prop where
  waits : b.Waits ⟨queue, none, none⟩
  never : ∀ w ∈ b.backlog.waiting queue, w.visibleAt = none

namespace Lingers

variable {b : Broker} {queue : String}

theorem not_anyVisible (h : b.Lingers queue) (now : Instant) :
    ¬ b.backlog.AnyVisible queue now := by
  refine Backlog.not_anyVisible_of_forall_lt fun w hw t ht => ?_
  rw [h.never w hw] at ht
  cases ht

theorem blocked (h : b.Lingers queue) (receipt : String) :
    b.backlog.poll b.now none queue receipt = .blocked := by
  rw [Backlog.poll_of_hidden h.waits.opened (h.not_anyVisible b.now)]
  rfl

theorem nextInstant (h : b.Lingers queue) : b.nextInstant = none := by
  rw [h.waits.nextInstant_eq (h.not_anyVisible b.now), List.min?_eq_none_iff]
  simpa using h.never

theorem later (h : b.Lingers queue) (now : Instant) : Lingers { b with now } queue :=
  ⟨h.waits.later now, h.never⟩

/-- There is no reply. -/
theorem await_eq (receive : Reception C) (h : b.Lingers queue) (instants : Nat) (s : Session C) :
    (b.await receive (instants + 1) s).1 = (none, b) := by
  rw [h.waits.await_of_blocked receive h.blocked, h.nextInstant]

theorem settle_eq (receive : Reception C) (h : b.Lingers queue) (rounds : Nat) (horizon : Instant)
    (instants : Nat) (s : Session C) :
    (b.settle receive (rounds + 1) horizon (instants + 1) s).1 = (b, true) := by
  simp [settle, bind_apply, h.waits.work_of_blocked receive h.blocked, h.nextInstant, pure_apply]

/-- Time passes, and nothing else happens. -/
theorem sleep_eq (receive : Reception C) (h : b.Lingers queue) (duration : Duration)
    (s : Session C) : (b.sleep receive duration s).1 = { b with now := b.now + duration } := by
  have hpatience : patience = 9999 + 1 := rfl
  have hsettle := h.settle_eq receive 9999 (b.now + duration) 9999 s
  rw [← hpatience] at hsettle
  simp [sleep, map_apply, hsettle]

/-- A message that is sent to the queue is handed out at once. -/
theorem await_send (receive : Reception C) (h : b.Lingers queue) (m : Message) (instants : Nat)
    (s : Session C) : ∃ d backlog, (b.send queue m).1 = .ok () ∧ d.message = m ∧
      ((b.send queue m).2.await receive (instants + 1) s).1 =
        (some (.delivered d), { b with backlog, receivers := [] }) := by
  obtain ⟨sent, hsend, hbroker⟩ := send_of_open h.waits.opened queue m
  have hopened := (Backlog.send_eq_ok_iff.mp hsend).2
  have hwaiting := Backlog.waiting_send hsend
  have hwaits : Waits { b with backlog := sent } ⟨queue, none, none⟩ :=
    ⟨by rw [hopened]; exact h.waits.opened, h.waits.consumers, h.waits.receivers, rfl⟩
  have hfresh := (Waiting.fresh_sent m b.now).isVisible
  have hvisible : sent.AnyVisible queue b.now :=
    ⟨.sent m b.now, by rw [hwaiting]; exact List.mem_append_right _ List.mem_cons_self, hfresh⟩
  obtain ⟨place, d, backlog, hawait, before, w, after, hsplit, -, -, hw, hd, -⟩ :=
    hwaits.await_of_visible receive hvisible instants s
  refine ⟨d, backlog, by rw [hbroker], ?_, by rw [hbroker, hawait]⟩
  -- The message that was sent is the only one that is visible.
  have hmem : w ∈ b.backlog.waiting queue ++ [.sent m b.now] := by
    rw [← hwaiting, hsplit]
    exact List.mem_append_right _ List.mem_cons_self
  rw [hd]
  rcases List.mem_append.mp hmem with hold | hnew
  · exact absurd ⟨w, hold, hw⟩ (h.not_anyVisible b.now)
  · rw [List.mem_singleton.mp hnew]
    rfl

/-- Closing the queues ends the wait. -/
theorem await_close (receive : Reception C) (h : b.Lingers queue) (instants : Nat)
    (s s' : Session C) :
    (((b.close receive s).1.await receive (instants + 1)) s').1.1 = some .closed := by
  obtain ⟨hclose, -⟩ := close_of_open receive h.waits.opened s
  have hreceivers : (b.close receive s).1.receivers = [⟨queue, none, some .closed⟩] := by
    rw [hclose, h.waits.receivers]
    rfl
  rw [await_of_reply receive hreceivers rfl]

end Lingers

/-- A wait goes on as time passes, until a message is sent to its queue, which it gets at once, or
until the queues are closed. -/
structure GoesOn (b : Broker) (receive : Reception C) (queue : String) : Prop where
  sleeps : ∀ (duration : Duration) (x : Session C),
    (b.sleep receive duration x).1 = { b with now := b.now + duration }
  unanswered : ∀ (now : Instant) (instants : Nat) (x : Session C),
    (await receive (instants + 1) { b with now } x).1 = (none, { b with now })
  sent : ∀ (now : Instant) (m : Message) (instants : Nat) (x : Session C), ∃ d backlog,
    (send { b with now } queue m).1 = .ok () ∧ d.message = m ∧
      ((send { b with now } queue m).2.await receive (instants + 1) x).1 =
        (some (.delivered d), { b with now, backlog, receivers := [] })
  closed : ∀ (now : Instant) (instants : Nat) (x y : Session C),
    ((close receive { b with now } x).1.await receive (instants + 1) y).1.1 = some .closed

theorem Lingers.goesOn (receive : Reception C) {b : Broker} {queue : String}
    (h : b.Lingers queue) : b.GoesOn receive queue where
  sleeps := h.sleep_eq receive
  unanswered now := (h.later now).await_eq receive
  sent now m := (h.later now).await_send receive m
  closed now := (h.later now).await_close receive

/-! ## Waits from beginning to end -/

/-- Open queues where nobody is at work. -/
structure Quiet (b : Broker) : Prop where
  opened : b.backlog.closed = false
  consumers : b.consumers = []
  receivers : b.receivers = []

/-- Wait for one message of a queue. -/
def receiveOne (receive : Reception C) (queue : String) (wait : Duration) (b : Broker) :
    Activity C (Option Reply × Broker) := do
  (← b.beginReceive queue wait).await receive patience

/-- A wait begins with a look. -/
theorem receiveOne_apply (receive : Reception C) (queue : String) (wait : Duration) (b : Broker)
    (s : Session C) :
    b.receiveOne receive queue wait s =
      let look := Receiver.look b.now b.backlog (Session.draw s).1
        ⟨queue, Instant.after? b.now wait, none⟩
      await receive patience
        { b with backlog := look.backlog, receivers := b.receivers ++ [look.receiver] }
        (Session.draw s).2 :=
  rfl

namespace Quiet

variable {b : Broker} {queue : String} {wait : Duration}

theorem waits (h : b.Quiet) (queue : String) (deadline : Option Instant) :
    Waits { b with receivers := [⟨queue, deadline, none⟩] } ⟨queue, deadline, none⟩ :=
  ⟨h.opened, h.consumers, rfl, rfl⟩

/-- If the first look ends the wait, then it was the only one. -/
theorem receiveOne_of_ended (receive : Reception C) (h : b.Quiet) {s : Session C} {reply : Reply}
    {backlog : Backlog} (hlook : Receiver.look b.now b.backlog (Session.draw s).1
      ⟨queue, Instant.after? b.now wait, none⟩ =
        ⟨⟨queue, Instant.after? b.now wait, some reply⟩, backlog, true⟩) :
    (b.receiveOne receive queue wait s).1 = (some reply, { b with backlog }) := by
  have hpatience : patience = 9999 + 1 := rfl
  rw [receiveOne_apply, hlook, h.receivers, hpatience]
  exact congrArg Prod.fst (await_of_reply receive rfl rfl 9999 _)

/-- If the first look finds nothing, then the next one is at the instant at which the first message
becomes visible or the deadline comes. -/
theorem receiveOne_of_blocked (receive : Reception C) (h : b.Quiet)
    (hhidden : ¬ b.backlog.AnyVisible queue b.now)
    (hearly : Instant.reached (Instant.after? b.now wait) b.now = false) (s : Session C) :
    let waiting : Broker := { b with receivers := [⟨queue, Instant.after? b.now wait, none⟩] }
    let looked := (Session.draw (Session.draw s).2).2
    b.receiveOne receive queue wait s =
      match ((b.backlog.waiting queue).filterMap Waiting.visibleAt
        ++ (Instant.after? b.now wait).toList).min? with
      | some t => await receive 9999 { waiting with now := t } looked
      | none => ((none, waiting), looked) := by
  have hpatience : patience = 9999 + 1 := rfl
  have hblocked : ∀ receipt,
      b.backlog.poll b.now (Instant.after? b.now wait) queue receipt = .blocked := fun receipt => by
    simp [Backlog.poll_of_hidden h.opened hhidden, hearly]
  have hlook : Receiver.look b.now b.backlog (Session.draw s).1
      ⟨queue, Instant.after? b.now wait, none⟩ =
        ⟨⟨queue, Instant.after? b.now wait, none⟩, b.backlog, false⟩ := by
    simp [Receiver.look, hblocked]
  have hwaits := h.waits queue (Instant.after? b.now wait)
  rw [receiveOne_apply, hlook, h.receivers, hpatience]
  exact (hwaits.await_of_blocked receive hblocked 9999 _).trans
    (by rw [hwaits.nextInstant_eq hhidden])

/-- If a message is visible, then the wait is over at once. -/
theorem receiveOne_of_visible (receive : Reception C) (h : b.Quiet)
    (hvisible : b.backlog.AnyVisible queue b.now) (s : Session C) :
    b.EndsWithDelivery queue b.now (b.receiveOne receive queue wait s).1 := by
  obtain ⟨place, d, backlog, hpoll, hhandsOut⟩ := Backlog.exists_poll_eq_delivered h.opened hvisible
    (Instant.after? b.now wait) (Session.draw s).1
  refine ⟨place, d, backlog, h.receiveOne_of_ended receive ?_, hhandsOut⟩
  simp [Receiver.look, hpoll]

/-- If the first message becomes visible later and not after the deadline, then the wait is over as
soon as it does. -/
theorem receiveOne_of_firstVisible (receive : Reception C) (h : b.Quiet) {first : Instant}
    (hfirst : b.backlog.FirstVisible queue first) (hlater : b.now < first)
    (hdeadline : ∀ deadline, Instant.after? b.now wait = some deadline → first ≤ deadline)
    (s : Session C) : b.EndsWithDelivery queue first (b.receiveOne receive queue wait s).1 := by
  have hhidden : ¬ b.backlog.AnyVisible queue b.now := fun hvisible =>
    Nat.not_le_of_lt hlater (hfirst.anyVisible_iff.mp hvisible)
  have hearly : Instant.reached (Instant.after? b.now wait) b.now = false :=
    Instant.reached_eq_false_iff.mpr fun deadline hsome =>
      Nat.lt_of_lt_of_le hlater (hdeadline deadline hsome)
  have hnext : ((b.backlog.waiting queue).filterMap Waiting.visibleAt
      ++ (Instant.after? b.now wait).toList).min? = some first := by
    refine List.min?_eq_some_iff.mpr
      ⟨List.mem_append_left _ (List.mem_filterMap.mpr hfirst.appears), fun t ht => ?_⟩
    rcases List.mem_append.mp ht with ht | ht
    · obtain ⟨w, hw, hvisible⟩ := List.mem_filterMap.mp ht
      exact hfirst.least w hw t hvisible
    · exact hdeadline t (Option.mem_toList.mp ht)
  obtain ⟨place, d, backlog, hawait, hhandsOut⟩ :=
    ((h.waits queue (Instant.after? b.now wait)).later first).await_of_visible receive
      (hfirst.anyVisible_iff.mpr (Nat.le_refl first)) 9998 (Session.draw (Session.draw s).2).2
  refine ⟨place, d, backlog, ?_, hhandsOut⟩
  rw [h.receiveOne_of_blocked receive hhidden hearly, hnext, h.receivers]
  exact hawait

/-- If no message becomes visible by the deadline, then the wait is over at the deadline. -/
theorem receiveOne_of_expires (receive : Reception C) (h : b.Quiet) {deadline : Instant}
    (hdeadline : Instant.after? b.now wait = some deadline)
    (hlate : ∀ w ∈ b.backlog.waiting queue, ∀ t, w.visibleAt = some t → deadline < t)
    (s : Session C) :
    (b.receiveOne receive queue wait s).1 = (some .timedOut, { b with now := deadline }) := by
  have hhidden : ∀ t, t ≤ deadline → ¬ b.backlog.AnyVisible queue t := fun t hle =>
    Backlog.not_anyVisible_of_forall_lt fun w hw u hu => Nat.lt_of_le_of_lt hle (hlate w hw u hu)
  have hle : b.now ≤ deadline := by
    rw [(Instant.after?_eq_some_iff.mp hdeadline).1]
    exact Nat.le_add_right _ _
  cases hreached : Instant.reached (Instant.after? b.now wait) b.now with
  | true =>
    obtain ⟨t, hsome, ht⟩ := Instant.reached_iff.mp hreached
    obtain rfl : deadline = t := Option.some_inj.mp (hdeadline.symm.trans hsome)
    obtain rfl : deadline = b.now := Nat.le_antisymm ht hle
    refine h.receiveOne_of_ended receive ?_
    simp [Receiver.look, Backlog.poll_of_hidden h.opened (hhidden _ (Nat.le_refl _)), hreached]
  | false =>
    have hnext : ((b.backlog.waiting queue).filterMap Waiting.visibleAt
        ++ (Instant.after? b.now wait).toList).min? = some deadline := by
      refine List.min?_eq_some_iff.mpr
        ⟨List.mem_append_right _ (by simp [hdeadline]), fun t ht => ?_⟩
      rcases List.mem_append.mp ht with ht | ht
      · obtain ⟨w, hw, hvisible⟩ := List.mem_filterMap.mp ht
        exact Nat.le_of_lt (hlate w hw t hvisible)
      · simp only [hdeadline, Option.toList_some, List.mem_singleton] at ht
        exact Nat.le_of_eq ht.symm
    have hawait :=
      ((h.waits queue (Instant.after? b.now wait)).later deadline).await_of_reached receive
        (hhidden deadline (Nat.le_refl deadline))
        (Instant.reached_iff.mpr ⟨deadline, hdeadline, Nat.le_refl deadline⟩) 9998
        (Session.draw (Session.draw s).2).2
    rw [h.receiveOne_of_blocked receive (hhidden b.now hle) hreached, hnext, h.receivers]
    exact hawait

/-- If there is no deadline and no message ever becomes visible, then the wait goes on. -/
theorem receiveOne_of_never (receive : Reception C) (h : b.Quiet)
    (hdeadline : Instant.after? b.now wait = none)
    (hnever : ∀ w ∈ b.backlog.waiting queue, w.visibleAt = none) (s : Session C) :
    (b.receiveOne receive queue wait s).1 =
        (none, { b with receivers := [⟨queue, none, none⟩] }) ∧
      Lingers { b with receivers := [⟨queue, none, none⟩] } queue := by
  have hlingers : Lingers { b with receivers := [⟨queue, none, none⟩] } queue :=
    ⟨h.waits queue none, hnever⟩
  have hnext : ((b.backlog.waiting queue).filterMap Waiting.visibleAt
      ++ (Instant.after? b.now wait).toList).min? = none := by
    rw [List.min?_eq_none_iff]
    simpa [hdeadline] using hnever
  refine ⟨?_, hlingers⟩
  have hearly : Instant.reached (Instant.after? b.now wait) b.now = false := by
    rw [hdeadline]
    rfl
  rw [h.receiveOne_of_blocked receive (hlingers.not_anyVisible b.now) hearly, hnext, hdeadline]

/-- At no instant before the end of the wait there is anything to wake up for. -/
theorem poll_of_lt (receive : Reception C) (h : b.Quiet) (s : Session C) {t : Instant}
    (hle : b.now ≤ t) (hlt : t < (b.receiveOne receive queue wait s).1.2.now) (receipt : String) :
    b.backlog.poll t (Instant.after? b.now wait) queue receipt = .blocked := by
  have hblocked : ¬ b.backlog.AnyVisible queue t →
      (∀ deadline, Instant.after? b.now wait = some deadline → t < deadline) →
        b.backlog.poll t (Instant.after? b.now wait) queue receipt = .blocked := by
    intro hhidden hearly
    rw [Backlog.poll_of_hidden h.opened hhidden, Instant.reached_eq_false_iff.mpr hearly]
    rfl
  rcases b.backlog.prospects queue b.now (Instant.after? b.now wait) with
    hvisible | ⟨first, hfirst, hlater, hdeadline⟩ | ⟨deadline, hdeadline, hlate⟩ | ⟨hnone, hnever⟩
  · obtain ⟨place, d, backlog, houtcome, -⟩ := h.receiveOne_of_visible receive hvisible s
    rw [houtcome] at hlt
    exact absurd hle (Nat.not_le_of_lt hlt)
  · obtain ⟨place, d, backlog, houtcome, -⟩ :=
      h.receiveOne_of_firstVisible receive hfirst hlater hdeadline s
    rw [houtcome] at hlt
    refine hblocked (fun hvisible => ?_) fun deadline hsome =>
      Nat.lt_of_lt_of_le hlt (hdeadline deadline hsome)
    exact Nat.not_le_of_lt hlt (hfirst.anyVisible_iff.mp hvisible)
  · rw [h.receiveOne_of_expires receive hdeadline hlate s] at hlt
    refine hblocked ?_ fun u hsome => ?_
    · exact Backlog.not_anyVisible_of_forall_lt fun w hw u hu => Nat.lt_trans hlt (hlate w hw u hu)
    · obtain rfl : deadline = u := Option.some_inj.mp (hdeadline.symm.trans hsome)
      exact hlt
  · rw [(h.receiveOne_of_never receive hnone hnever s).1] at hlt
    exact absurd hle (Nat.not_le_of_lt hlt)

/-- A wait of no length is over at once. -/
theorem receiveOne_of_zero (receive : Reception C) (h : b.Quiet) (hwait : wait = 0)
    (hlast : b.now ≤ Instant.last) (s : Session C) :
    (b.receiveOne receive queue wait s).1.1.isSome = true ∧
      (b.receiveOne receive queue wait s).1.2.now = b.now := by
  have hdeadline : Instant.after? b.now wait = some b.now :=
    Instant.after?_eq_some_iff.mpr ⟨by rw [hwait]; rfl, by rw [hwait]; exact hlast⟩
  by_cases hvisible : b.backlog.AnyVisible queue b.now
  · obtain ⟨place, d, backlog, houtcome, -⟩ := h.receiveOne_of_visible receive hvisible s
    rw [houtcome]
    exact ⟨rfl, rfl⟩
  · have hlate : ∀ w ∈ b.backlog.waiting queue, ∀ t, w.visibleAt = some t → b.now < t := by
      intro w hw t ht
      refine Nat.lt_of_not_le fun hle => hvisible ⟨w, hw, Waiting.isVisible_iff.mpr ⟨t, ht, hle⟩⟩
    rw [h.receiveOne_of_expires receive hdeadline hlate s]
    exact ⟨rfl, rfl⟩

end Quiet

/-- When a wait for a message ends and how, by what stands on the queue when it begins. -/
structure Punctual (b : Broker) (receive : Reception C) (queue : String) (wait : Duration)
    (outcome : Option Reply × Broker) : Prop where
  /-- If a message is visible, then the wait is over at once. -/
  present : b.backlog.AnyVisible queue b.now → b.EndsWithDelivery queue b.now outcome
  /-- If the first message becomes visible later and not after the deadline, then the wait is over
  as soon as it does. -/
  appears : ∀ first, b.backlog.FirstVisible queue first → b.now < first →
    (∀ deadline, Instant.after? b.now wait = some deadline → first ≤ deadline) →
      b.EndsWithDelivery queue first outcome
  /-- If all messages become visible only after the deadline, then the wait is over at the deadline,
  with nothing. -/
  expires : ∀ deadline, Instant.after? b.now wait = some deadline →
    (∀ w ∈ b.backlog.waiting queue, ∀ t, w.visibleAt = some t → deadline < t) →
      outcome = (some .timedOut, { b with now := deadline })
  /-- If there is no deadline and no message ever becomes visible, then the wait goes on. -/
  lasts : Instant.after? b.now wait = none →
    (∀ w ∈ b.backlog.waiting queue, w.visibleAt = none) →
      outcome = (none, { b with receivers := [⟨queue, none, none⟩] }) ∧
        outcome.2.GoesOn receive queue
  /-- At no instant before its end there is anything to wake up for. -/
  asleep : ∀ t, b.now ≤ t → t < outcome.2.now → ∀ receipt,
    b.backlog.poll t (Instant.after? b.now wait) queue receipt = .blocked
  /-- A wait of no length is over at once. -/
  instantly : wait = 0 → b.now ≤ Instant.last → outcome.1.isSome = true ∧ outcome.2.now = b.now

/-- Whoever waits alone wakes up for the first message that becomes visible, or else at the
deadline, or else never. -/
theorem receiveOne_punctual (receive : Reception C) {b : Broker} (h : b.Quiet) (queue : String)
    (wait : Duration) (s : Session C) :
    b.Punctual receive queue wait (b.receiveOne receive queue wait s).1 where
  present hvisible := h.receiveOne_of_visible receive hvisible s
  appears first hfirst hlater hdeadline :=
    h.receiveOne_of_firstVisible receive hfirst hlater hdeadline s
  expires deadline hdeadline hlate := h.receiveOne_of_expires receive hdeadline hlate s
  lasts hdeadline hnever := by
    obtain ⟨houtcome, hlingers⟩ := h.receiveOne_of_never receive hdeadline hnever s
    rw [houtcome]
    exact ⟨rfl, hlingers.goesOn receive⟩
  asleep _ hle hlt receipt := h.poll_of_lt receive s hle hlt receipt
  instantly hwait hlast := h.receiveOne_of_zero receive hwait hlast s

end Broker

namespace Network

/-- What is done first and second with the broker of a network is done with it one after the
other. -/
theorem withBroker_then {n : Rehearsal C} {b : Broker}
    (hbroker : n.exchange.transport.inner = .broker b) (first : Broker → Activity C Broker)
    (second : Reception C → Broker → Activity C (Option Reply × Broker)) :
    let both : StateM (Rehearsal C) (Option Reply) := do
      let _ ← withBroker fun _ b => do return ((), ← first b)
      let reply ← withBroker second
      return reply.join
    let alone : Activity C (Option Reply × Broker) := do second (reception n.facades) (← first b)
    (both n).1 = (alone n.exchange.session).1.1 ∧
      (both n).2.exchange.transport.inner = .broker (alone n.exchange.session).1.2 := by
  simp only [bind_apply, pure_apply, withBroker, hbroker]
  exact ⟨rfl, rfl⟩

/-- To wait for a message over a network is to wait at its broker. -/
theorem receive_of_broker {n : Rehearsal C} {b : Broker}
    (hbroker : n.exchange.transport.inner = .broker b) (queue : String) (wait : Duration) :
    let outcome := b.receiveOne (reception n.facades) queue wait n.exchange.session
    (receive queue wait n).1 = outcome.1.1 ∧
      (receive queue wait n).2.exchange.transport.inner = .broker outcome.1.2 := by
  have hboth := withBroker_then hbroker (fun b => b.beginReceive queue wait) fun receive b =>
    b.await receive Broker.patience
  unfold receive beginReceive await Broker.receiveOne
  exact hboth

end Network

/-! ## A message that comes back at the last moment -/

namespace Sample

/-- A queue whose only message was handed out just now and comes back after five nanoseconds. -/
def outstanding : Broker :=
  { Broker.start 5 0 with
    backlog :=
      { Backlog.start 5 with
        queues := .insert ∅ "q" [(Waiting.sent (.plain "1" "null") 0).handOut 0 5 "r"] } }

end Sample

/-- A message that becomes visible exactly at the deadline is delivered. -/
theorem Broker.receiveOne_at_deadline :
    Sample.outstanding.Quiet ∧ Sample.outstanding.EndsWithDelivery "q" 5
      (Sample.outstanding.receiveOne (Network.reception []) "q" 5
        (.start ⟨[], []⟩ 0 : Session Sample.nameless)).1 := by
  have hquiet : Sample.outstanding.Quiet := ⟨rfl, rfl, rfl⟩
  have hfirst : Sample.outstanding.backlog.FirstVisible "q" 5 := ⟨by decide, by decide⟩
  refine ⟨hquiet,
    (receiveOne_punctual (Network.reception []) hquiet "q" 5 _).appears 5 hfirst (by decide) ?_⟩
  intro deadline hdeadline
  exact Nat.le_of_eq (Option.some_inj.mp hdeadline)

end Switchboard
