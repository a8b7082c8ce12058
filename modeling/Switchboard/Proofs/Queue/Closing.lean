import Switchboard.Proofs.Queue.Alone
import Switchboard.Proofs.Queue.AtLeastOnce
import Switchboard.Proofs.Queue.Crew

/-!
# Closed queues

Once the queues are closed they stay so, take nothing more and hand nothing out.  Whoever waits for
a message, or comes to wait, is turned away.  Consumers finish what they have in hand and end; what
was handled then is still deleted, and everything else stays on its queue.  What was handled and
what failed is told by the records of the consumers, which say what their handlers returned, by
{lit}`Crew.mem_invocations_run`.

Main results:

- Theorem {lit}`Backlog.Step.of_closed`: what one step of closed queues may do.
- Theorem {lit}`Crew.Drains.step`: what becomes of closed queues and their consumers.
- Theorem {lit}`Broker.close_of_open`: closing ends all consumers and all waits.
- Theorem {lit}`Crew.Resolves.step`: what becomes of a delivery that was in flight.
- Theorem {lit}`Crew.run_final`: closing is final, and the consumers drain what they hold.
-/

namespace Switchboard

/-! ## The queues -/

/-- Closed queues take nothing and hand nothing out, and their messages only get fewer. -/
theorem Backlog.Step.of_closed {now : Instant} {b b' : Backlog} {new : List Occurrence}
    (h : Step now b b' new) (hclosed : b.closed = true) :
    (∀ o ∈ new, o.sent? = none ∧ o.receipt? = none) ∧
      ∀ queue, (b'.waiting queue).Sublist (b.waiting queue) := by
  cases h with
  | quiet | closed => exact ⟨by simp, fun _ => .refl _⟩
  | sent hsend =>
    rw [(send_eq_ok_iff.mp hsend).1] at hclosed
    cases hclosed
  | delivered hpoll =>
    rw [(poll_eq_delivered_iff.mp hpoll).1] at hclosed
    cases hclosed
  | deleted queue receipt =>
    refine ⟨by simp [Occurrence.sent?, Occurrence.receipt?], fun other => ?_⟩
    rw [waiting_delete]
    split
    · rename_i hother
      rw [hother]
      exact List.filter_sublist
    · exact .refl _
  | purged queue =>
    refine ⟨by simp [Occurrence.sent?, Occurrence.receipt?], fun other => ?_⟩
    rw [waiting_purge]
    split
    · exact List.nil_sublist _
    · exact .refl _

/-- A closed queue at which nothing is seen to happen does not change. -/
theorem Backlog.Step.eq_of_closed {now : Instant} {b b' : Backlog} (h : Step now b b' [])
    (hclosed : b.closed = true) : b' = b := by
  cases h with
  | quiet => rfl
  | closed =>
    obtain ⟨visibility, queues, closed⟩ := b
    obtain rfl : closed = true := hclosed
    rfl

/-- Closed queues turn away whoever waits for a message. -/
theorem Receiver.look_of_closed {b : Backlog} (hclosed : b.closed = true) (now : Instant)
    (receipt : String) {r : Receiver} (hwaits : r.reply = none) :
    r.look now b receipt = ⟨{ r with reply := some .closed }, b, true⟩ := by
  simp [look, hwaits, Backlog.poll_eq_closed_iff.mpr hclosed]

/-- A call that waits at closed queues has the reply that it had, or none yet, or it is turned
away. -/
theorem Traffic.reply_step {t : Traffic} (hclosed : t.backlog.closed = true) (act : Act) {i : Nat}
    {r' : Caller} (hr' : (t.step act).callers[i]? = some r') :
    r'.receiver.reply = none ∨ r'.receiver.reply = some .closed ∨
      ∃ r, t.callers[i]? = some r ∧ r'.receiver = r.receiver := by
  cases act with
  | pass | delete | purge | close => exact .inr (.inr ⟨r', hr', rfl⟩)
  | send queue message =>
    simp only [step, Backlog.send, hclosed, if_true] at hr'
    exact .inr (.inr ⟨r', hr', rfl⟩)
  | beginReceive queue wait takes =>
    simp only [step, List.getElem?_append] at hr'
    split at hr'
    · exact .inr (.inr ⟨r', hr', rfl⟩)
    · rw [List.mem_singleton.mp (List.mem_of_getElem? hr')]
      exact .inl rfl
  | look caller receipt =>
    change (t.look caller receipt).callers[i]? = some r' at hr'
    rw [callers_look] at hr'
    obtain ⟨r, hr, rfl⟩ := Option.map_eq_some_iff.mp ((List.getElem?_modify ..).symm.trans hr')
    split
    · cases hreply : r.receiver.reply with
      | none => exact .inr (.inl (by rw [Receiver.look_of_closed hclosed t.now receipt hreply]))
      | some reply => exact .inr (.inr ⟨r, hr, by simp [Receiver.look, hreply]⟩)
    · exact .inr (.inr ⟨r, hr, rfl⟩)
  | take caller =>
    simp only [step] at hr'
    split at hr'
    · obtain ⟨r, hr, rfl⟩ := Option.map_eq_some_iff.mp ((List.getElem?_modify ..).symm.trans hr')
      refine .inr (.inr ⟨r, hr, ?_⟩)
      split <;> rfl
    · exact .inr (.inr ⟨r', hr', rfl⟩)

/-! ## The consumers -/

/-- What may become of a consumer that is handed nothing more: it goes through with what it has in
hand. -/
structure Shift.Drains (s s' : Shift) : Prop where
  post : s'.consumer.queue = s.consumer.queue
  /-- The invocations that are left are those on what was in hand. -/
  invocations : s.invocations <+: s'.invocations
  invoked : s'.invocations.map Invocation.delivery ++ s'.inHand =
    s.invocations.map Invocation.delivery ++ s.inHand
  held : ∀ delivery, s'.held? = some delivery → s.held? = some delivery

namespace Shift.Drains

variable {s s' s'' : Shift}

theorem refl (s : Shift) : s.Drains s :=
  ⟨rfl, List.prefix_rfl, rfl, fun _ h => h⟩

theorem trans (h : s.Drains s') (h' : s'.Drains s'') : s.Drains s'' where
  post := h'.post.trans h.post
  invocations := h.invocations.trans h'.invocations
  invoked := h'.invoked.trans h.invoked
  held delivery hheld := h.held delivery (h'.held delivery hheld)

/-- A consumer at closed queues only goes through with what it has in hand. -/
theorem step (hclosed : s.traffic.backlog.closed = true) {move : Move} (hown : move.isOwn = true) :
    s.Drains (s.step move) := by
  unfold Shift.step
  split
  · cases hown
  · rename_i hstage
    exact ⟨rfl, List.prefix_rfl, by simp [inHand, hstage], fun _ hheld => by cases hheld⟩
  · rename_i receipt hstage
    rw [look, Backlog.poll_eq_closed_iff.mpr hclosed]
    exact ⟨rfl, List.prefix_rfl, by simp [inHand, hstage], fun _ hheld => by cases hheld⟩
  · rename_i outcome delivery hstage
    unfold invoke
    split
    · refine ⟨rfl, List.prefix_append _ _, by simp [inHand, hstage], fun delivery' hheld => ?_⟩
      simpa [held?, hstage] using hheld
    · exact ⟨rfl, List.prefix_append _ _, by simp [inHand, hstage], fun _ hheld => by cases hheld⟩
  · rename_i hstage
    exact ⟨rfl, List.prefix_rfl, by simp [inHand, hstage, acknowledge],
      fun _ hheld => by cases hheld⟩
  · exact .refl s

/-- A consumer with nothing in hand makes no more invocations. -/
theorem invocations_eq (h : s.Drains s') (hdone : s.inHand = []) :
    s'.invocations = s.invocations := by
  obtain ⟨new, hnew⟩ := h.invocations
  have hinvoked := h.invoked
  rw [hdone, ← hnew, List.map_append, List.append_assoc, List.append_right_inj,
    List.append_eq_nil_iff, List.map_eq_nil_iff] at hinvoked
  rw [← hnew, hinvoked.1, List.append_nil]

end Shift.Drains

/-- The counts of a consumer are those of its invocations. -/
theorem Shift.Counted.total {s : Shift} (h : s.Counted) :
    s.consumer.stats.handled + s.consumer.stats.failed = s.invocations.length := by
  rw [h.handled, h.failed]
  simp [List.length_eq_countP_add_countP Invocation.succeeded]

namespace Crew

/-- What may become of closed queues with their consumers. -/
structure Drains (c c' : Crew) : Prop where
  closed : c'.traffic.backlog.closed = true
  /-- Nothing more is taken or handed out. -/
  history : ∃ new, c'.traffic.history = c.traffic.history ++ new ∧
    ∀ o ∈ new, o.sent? = none ∧ o.receipt? = none
  shrinks : ∀ queue, (c'.traffic.backlog.waiting queue).Sublist (c.traffic.backlog.waiting queue)
  /-- All messages stay as they are, or are removed. -/
  parcels : ∀ (i : Nat) (p : Parcel), c.traffic.ledger[i]? = some p →
    ∃ p', c'.traffic.ledger[i]? = some p' ∧ (p' = p ∨ p' = p.remove)
  /-- Whoever had no message is turned away. -/
  replies : ∀ (i : Nat) (r' : Caller), c'.traffic.callers[i]? = some r' →
    r'.receiver.reply = none ∨ r'.receiver.reply = some .closed ∨
      ∃ r, c.traffic.callers[i]? = some r ∧ r'.receiver = r.receiver
  /-- The consumers go through with what they have in hand. -/
  shifts : ∀ (place : Nat) (s : Shift), c.shift? place = some s →
    ∃ s', c'.shift? place = some s' ∧ s.Drains s'
  /-- No consumer comes. -/
  none_comes : ∀ (place : Nat) (s' : Shift), c'.shift? place = some s' →
    ∃ s, c.shift? place = some s

/-- Moves of consumers leave the other callers alone. -/
theorem callers_step (c : Crew) (h : Happening) :
    (c.step h).traffic.callers = c.traffic.callers ∨
      ∃ act, h = .others act ∧ (c.step h).traffic = c.traffic.step act := by
  cases h with
  | others act => exact .inr ⟨act, rfl, rfl⟩
  | subscribe queue subscriber => exact .inl (by rw [traffic_subscribe])
  | work place move =>
    rcases c.step_work_cases place move with ⟨hsame, -⟩ | ⟨s, hs, hown⟩
    · exact .inl (by rw [hsame])
    · obtain ⟨new, hshows⟩ := s.step_spec hown
      exact .inl (by rw [step_work hs hown, hshows.callers, traffic_of_shift hs])

namespace Drains

variable {c c' c'' : Crew}

theorem refl (hclosed : c.traffic.backlog.closed = true) : c.Drains c where
  closed := hclosed
  history := ⟨[], by simp, by simp⟩
  shrinks _ := .refl _
  parcels _ p hp := ⟨p, hp, .inl rfl⟩
  replies _ r' hr' := .inr (.inr ⟨r', hr', rfl⟩)
  shifts _ s hs := ⟨s, hs, .refl s⟩
  none_comes _ s' hs' := ⟨s', hs'⟩

theorem trans (h : c.Drains c') (h' : c'.Drains c'') : c.Drains c'' where
  closed := h'.closed
  history := by
    obtain ⟨new, hhistory, hnew⟩ := h.history
    obtain ⟨new', hhistory', hnew'⟩ := h'.history
    refine ⟨new ++ new', by rw [hhistory', hhistory, List.append_assoc], fun o ho => ?_⟩
    rcases List.mem_append.mp ho with ho | ho
    · exact hnew o ho
    · exact hnew' o ho
  shrinks queue := (h'.shrinks queue).trans (h.shrinks queue)
  parcels i p hp := by
    obtain ⟨p', hp', hcases⟩ := h.parcels i p hp
    obtain ⟨p'', hp'', hcases'⟩ := h'.parcels i p' hp'
    refine ⟨p'', hp'', ?_⟩
    rcases hcases with rfl | rfl
    · exact hcases'
    · exact .inr (or_self_iff.mp hcases')
  replies i r'' hr'' := by
    rcases h'.replies i r'' hr'' with hnone | hturned | ⟨r', hr', heq⟩
    · exact .inl hnone
    · exact .inr (.inl hturned)
    · rw [heq]
      exact h.replies i r' hr'
  shifts place s hs := by
    obtain ⟨s', hs', hdrains⟩ := h.shifts place s hs
    obtain ⟨s'', hs'', hdrains'⟩ := h'.shifts place s' hs'
    exact ⟨s'', hs'', hdrains.trans hdrains'⟩
  none_comes place s'' hs'' := by
    obtain ⟨s', hs'⟩ := h'.none_comes place s'' hs''
    exact h.none_comes place s' hs'

/-- What becomes of closed queues and their consumers by whatever happens next. -/
theorem step (hclosed : c.traffic.backlog.closed = true) (next : Happening) :
    c.Drains (c.step next) := by
  obtain ⟨new, hshows⟩ := c.step_spec next
  have hstep := hshows.step
  have hhistory := hshows.history
  obtain ⟨hnew, hshrinks⟩ := hstep.of_closed hclosed
  refine ⟨hstep.closed_of_closed hclosed, ⟨new, hhistory, hnew⟩, hshrinks, fun i p hp => ?_,
    fun i r' hr' => ?_, fun place s hs => ?_, fun place s' hs' => ?_⟩
  · rw [Traffic.ledger_step hstep hhistory]
    rcases hstep.new_cases with rfl | ⟨o, rfl⟩
    · exact ⟨p, hp, .inl rfl⟩
    · obtain ⟨p', hp', hkept | hremoved | ⟨queue, delivery, deliveredAt, rfl, -⟩⟩ :=
        Ledger.enter_cases c.traffic.backlog.visibility o hp
      · exact ⟨p', hp', .inl hkept⟩
      · exact ⟨p', hp', .inr hremoved⟩
      · cases (hnew _ List.mem_cons_self).2
  · rcases c.callers_step next with hcallers | ⟨act, -, htraffic⟩
    · exact .inr (.inr ⟨r', hcallers ▸ hr', rfl⟩)
    · rw [htraffic] at hr'
      exact Traffic.reply_step hclosed act hr'
  · rcases shift?_step next hs with hstays | ⟨move, -, hown, hmoves⟩
    · exact ⟨_, hstays, rfl, List.prefix_rfl, rfl, fun _ h => h⟩
    · exact ⟨_, hmoves, .step (traffic_of_shift hs ▸ hclosed) hown⟩
  · rcases shift?_of_step hs' with hs | ⟨hopen, -⟩
    · exact hs
    · rw [hclosed] at hopen
      cases hopen

theorem run (hclosed : c.traffic.backlog.closed = true) (later : List Happening) :
    c.Drains (c.run later) := by
  induction later generalizing c with
  | nil => exact .refl hclosed
  | cons next rest ih =>
    have hstep := step hclosed next
    exact hstep.trans (ih hstep.closed)

end Drains
end Crew

/-! ## What is refused -/

/-- What a broker answers once its queues are closed. -/
structure Broker.Shut (b : Broker) : Prop where
  send : ∀ queue message, b.send queue message = (.error .closed, b)
  subscribe : ∀ (C : Catalogue) (x : Session C) queue subscriber,
    b.subscribe queue subscriber x = ((.error .closed, b), x)
  /-- Whoever comes to wait for a message has his reply at once. -/
  receive : ∀ (C : Catalogue) (x y : Session C) (receive : Reception C) queue wait instants,
    ((b.beginReceive queue wait x).1.await receive (instants + 1) y).1 = (some .closed, b)
  /-- A consumer that wakes up ends, without an invocation. -/
  turn : ∀ (C : Catalogue) (x : Session C) (receive : Reception C) (c : Consumer),
    c.running = true → ∃ log,
      c.turn receive b.now b.waitTime b.backlog x =
        (⟨{ c with running := false }, b.backlog, true⟩,
          { x with nextId := x.nextId + 1, log := log })
  close : ∀ (C : Catalogue) (x : Session C) (receive : Reception C), b.close receive x = (b, x)

theorem Broker.shut_of_closed {b : Broker} (hclosed : b.backlog.closed = true) : b.Shut where
  send queue message := by simp [send, Backlog.send, hclosed]
  subscribe C x queue subscriber := by simp [subscribe, hclosed, pure_apply]
  receive C x y receive queue wait instants := by
    simp [beginReceive, await, map_apply, pure_apply, Receiver.look_of_closed hclosed]
  turn C x receive c hrunning := by
    rw [Consumer.turn_of_running receive hrunning, Backlog.poll_eq_closed_iff.mpr hclosed]
    exact ⟨_, rfl⟩
  close C x receive := by simp [close, hclosed, pure_apply]

namespace Broker

variable {C : Catalogue}

/-- Consumers that wake up at closed queues end, without an invocation. -/
theorem takeTurns_of_closed (receive : Reception C) {backlog : Backlog}
    (hclosed : backlog.closed = true) (now : Instant) (wait : Duration) (consumers : List Consumer)
    (x : Session C) :
    let taken := takeTurns receive now wait backlog consumers x
    taken.1.1 = backlog ∧ taken.1.2.1 = consumers.map (fun c => { c with running := false }) ∧
      taken.2.calls = x.calls := by
  induction consumers generalizing x with
  | nil => exact ⟨rfl, rfl, rfl⟩
  | cons c rest ih =>
    have hturn : ∃ moved y, Session.inBackground (c.turn receive now wait backlog) x =
        (⟨{ c with running := false }, backlog, moved⟩, y) ∧ y.calls = x.calls := by
      cases hrunning : c.running with
      | false =>
        obtain ⟨queue, subscriber, stats, deadline, running⟩ := c
        obtain rfl : running = false := hrunning
        exact ⟨false, _, rfl, rfl⟩
      | true =>
        rw [Session.inBackground, Consumer.turn_of_running receive hrunning,
          Backlog.poll_eq_closed_iff.mpr hclosed]
        exact ⟨true, _, rfl, rfl⟩
    obtain ⟨moved, y, hturn, hcalls⟩ := hturn
    obtain ⟨hbacklog, hconsumers, hrest⟩ := ih y
    simp only [takeTurns, bind_apply, pure_apply, hturn, List.map_cons]
    exact ⟨hbacklog, by rw [hconsumers], hrest.trans hcalls⟩

/-- Those who wait at closed queues are turned away. -/
theorem takeLooks_of_closed {backlog : Backlog} (hclosed : backlog.closed = true) (now : Instant)
    (receivers : List Receiver) (x : Session C) :
    let taken := takeLooks now backlog receivers x
    taken.1.1 = backlog ∧
      taken.1.2.1 = receivers.map (fun r => { r with reply := some (r.reply.getD .closed) }) ∧
      taken.2.calls = x.calls := by
  induction receivers generalizing x with
  | nil => exact ⟨rfl, rfl, rfl⟩
  | cons r rest ih =>
    have hlook : ∃ ended, r.look now backlog (Session.draw x).1 =
        ⟨{ r with reply := some (r.reply.getD .closed) }, backlog, ended⟩ := by
      obtain ⟨queue, deadline, reply⟩ := r
      cases reply with
      | none => exact ⟨true, Receiver.look_of_closed hclosed now _ rfl⟩
      | some reply => exact ⟨false, rfl⟩
    obtain ⟨ended, hlook⟩ := hlook
    obtain ⟨hbacklog, hreceivers, hcalls⟩ := ih (Session.draw x).2
    simp only [takeLooks, bind_apply, pure_apply, hlook, List.map_cons]
    exact ⟨hbacklog, by rw [hreceivers], hcalls⟩

/-- Closing open queues leaves all messages where they are, ends the consumers without another
invocation, and turns away those who wait. -/
theorem close_of_open (receive : Reception C) {b : Broker} (hopen : b.backlog.closed = false)
    (x : Session C) :
    (b.close receive x).1 =
        { b with
          backlog := b.backlog.close
          consumers := b.consumers.map fun c => { c with running := false }
          receivers := b.receivers.map fun r => { r with reply := some (r.reply.getD .closed) } } ∧
      (b.close receive x).2.calls = x.calls := by
  have hclosed : b.backlog.close.closed = true := rfl
  obtain ⟨hturns, hconsumers, hcalls⟩ :=
    takeTurns_of_closed receive hclosed b.now b.waitTime b.consumers x
  obtain ⟨hlooks, hreceivers, hcalls'⟩ := takeLooks_of_closed hclosed b.now b.receivers
    (takeTurns receive b.now b.waitTime b.backlog.close b.consumers x).2
  rw [close, hopen]
  simp only [Bool.false_eq_true, if_false, bind_apply, pure_apply, round, hturns, hconsumers,
    hlooks, hreceivers]
  exact ⟨trivial, (Session.calls_report ..).trans (hcalls'.trans hcalls)⟩

end Broker

namespace Crew

/-- What is refused once the queues are closed, and what is not. -/
structure Shut (c : Crew) : Prop where
  send : ∀ queue message,
    c.traffic.backlog.send c.traffic.now queue message = .error .closed ∧
      c.step (.others (.send queue message)) = c
  receive : ∀ (r : Receiver) receipt, r.reply = none →
    r.look c.traffic.now c.traffic.backlog receipt =
      ⟨{ r with reply := some .closed }, c.traffic.backlog, true⟩
  subscribe : ∀ queue subscriber,
    c.subscribe queue subscriber = .error .closed ∧ c.step (.subscribe queue subscriber) = c
  /-- Closing again changes nothing. -/
  close : c.step (.others .close) = c
  /-- Messages can still be deleted. -/
  delete : ∀ queue receipt other,
    (c.step (.others (.delete queue receipt))).traffic.backlog.waiting other =
      if other = queue then
        (c.traffic.backlog.waiting queue).filter fun w => w.receipt ≠ some receipt
      else c.traffic.backlog.waiting other
  /-- Queues can still be purged. -/
  purge : ∀ queue other, (c.step (.others (.purge queue))).traffic.backlog.waiting other =
    if other = queue then [] else c.traffic.backlog.waiting other

variable {c : Crew} {place : Nat} {s s' : Shift} {delivery : Delivery}

theorem shut_of_closed (hclosed : c.traffic.backlog.closed = true) : c.Shut where
  send queue message := by
    have hrefused : c.traffic.backlog.send c.traffic.now queue message = .error .closed := by
      simp [Backlog.send, hclosed]
    exact ⟨hrefused, by simp only [step, Traffic.step, hrefused]⟩
  receive _ receipt hwaits := Receiver.look_of_closed hclosed _ receipt hwaits
  subscribe queue subscriber := by
    have hrefused : c.subscribe queue subscriber = .error .closed := by
      simp [Crew.subscribe, hclosed]
    exact ⟨hrefused, by simp only [step, hrefused]⟩
  close := by
    have hstep : c.traffic.backlog.Step c.traffic.now c.traffic.backlog.close [] := .closed
    have hsame := hstep.eq_of_closed hclosed
    simp only [step, Traffic.step, hsame]
  delete queue receipt other := Backlog.waiting_delete _ queue receipt other
  purge queue other := Backlog.waiting_purge _ queue other

end Crew

/-! ## Deliveries in flight -/

/-- A consumer that holds a delivery goes on to hold it, or lets go of it: the invocation on it has
failed, or it succeeded, and the consumer deletes by its receipt. -/
theorem Shift.Sane.letsGo {s : Shift} (h : s.Sane) {delivery : Delivery}
    (hheld : s.held? = some delivery) {move : Move} (hown : move.isOwn = true) :
    (s.step move).held? = some delivery ∨
      (s.step move).held? = none ∧
        ((s.step move).invocations.getLast? = some ⟨delivery, false⟩ ∨
          (s.step move).invocations.getLast? = some ⟨delivery, true⟩ ∧
            s.deletion? move = some (s.consumer.queue, delivery.receipt)) := by
  unfold Shift.step
  split
  · cases hown
  · rename_i hstage
    simp [held?, hstage] at hheld
  · rename_i hstage
    simp [held?, hstage] at hheld
  · rename_i outcome delivery' hstage
    obtain rfl : delivery' = delivery := by simpa [held?, hstage] using hheld
    unfold Shift.invoke
    split
    · exact .inl rfl
    · exact .inr ⟨rfl, .inl (by simp)⟩
  · rename_i delivery' hstage
    obtain rfl : delivery' = delivery := by simpa [held?, hstage] using hheld
    exact .inr ⟨rfl, .inr ⟨h.acknowledged _ hstage, by simp [deletion?, hstage]⟩⟩
  · exact .inl hheld

/-- A consumer that deletes is at an acknowledgement. -/
theorem Shift.stage_of_deletion {s : Shift} {move : Move} {found : String × String}
    (h : s.deletion? move = some found) : ∃ delivery, s.stage = .acknowledging delivery := by
  unfold deletion? at h
  split at h
  · split at h
    · exact ⟨_, ‹_›⟩
    · cases h
  · cases h

namespace Crew

variable {c : Crew} {place : Nat} {s s' : Shift} {delivery : Delivery}

/-- What has become of a delivery that was in flight: its consumer still holds it, or the invocation
on it has ended, and if it succeeded, then the message whose latest delivery it was is removed. -/
def Resolves (c c' : Crew) (s s' : Shift) (delivery : Delivery) : Prop :=
  s'.held? = some delivery ∨
    s'.held? = none ∧ ∃ succeeded, s'.invocations.getLast? = some ⟨delivery, succeeded⟩ ∧
      (succeeded = true → ∀ (i : Nat) (p : Parcel), c.traffic.ledger[i]? = some p →
        p.queue = s.consumer.queue → p.receipt = some delivery.receipt →
          ∃ p', c'.traffic.ledger[i]? = some p' ∧ p'.removed = true)

/-- What is removed stays so. -/
theorem removed_step (c : Crew) (next : Happening) {i : Nat} {p : Parcel}
    (hp : c.traffic.ledger[i]? = some p) (hremoved : p.removed = true) :
    ∃ p', (c.step next).traffic.ledger[i]? = some p' ∧ p'.removed = true := by
  obtain ⟨p', hp', -, hiff⟩ := c.getElem?_ledger_step next hp
  exact ⟨p', hp', hiff.mpr (.inl hremoved)⟩

/-- What becomes of a delivery in flight by whatever happens next. -/
theorem Resolves.step {c₀ : Crew} {s₀ : Shift} (hdrains : c₀.Drains c) (hpost : s₀.Drains s)
    (hsane : c.Sane) (hs : c.shift? place = some s) (h : c₀.Resolves c s₀ s delivery)
    {next : Happening} (hs' : (c.step next).shift? place = some s') :
    c₀.Resolves (c.step next) s₀ s' delivery := by
  have hclosed := hdrains.closed
  rcases h with hheld | ⟨hdone, succeeded, hlast, hgone⟩
  · rcases shift?_step next hs with hstays | ⟨move, rfl, hown, hmoves⟩
    · obtain rfl := Option.some_inj.mp (hstays.symm.trans hs')
      exact .inl hheld
    · obtain rfl := Option.some_inj.mp (hmoves.symm.trans hs')
      rcases (hsane.shifts place s hs).letsGo hheld hown with
        hstill | ⟨hdone, hfailed | ⟨hsucceeded, hdeletes⟩⟩
      · exact .inl hstill
      · exact .inr ⟨hdone, false, hfailed, nofun⟩
      · refine .inr ⟨hdone, true, hsucceeded, fun _ i p hp hqueue hreceipt => ?_⟩
        -- no delivery came since, so the receipt is still the latest one
        obtain ⟨p', hp', hcases⟩ := hdrains.parcels i p hp
        obtain ⟨p'', hp'', -, hiff⟩ := c.getElem?_ledger_step (.work place move) hp'
        refine ⟨p'', hp'', hiff.mpr (.inr (.inr ⟨delivery.receipt, ?_, ?_⟩))⟩
        · rw [deletion?, hs, Option.bind_some, hdeletes, hpost.post, ← hqueue]
          rcases hcases with rfl | rfl <;> rfl
        · rcases hcases with rfl | rfl <;> exact hreceipt
  · have hs'drains : s.Drains s' ∧ s'.held? = none := by
      obtain ⟨s'', hs'', hdrains'⟩ := (Drains.step hclosed next).shifts place s hs
      obtain rfl := Option.some_inj.mp (hs''.symm.trans hs')
      refine ⟨hdrains', Option.eq_none_iff_forall_ne_some.mpr fun delivery' hheld => ?_⟩
      rw [hdrains'.held delivery' hheld] at hdone
      cases hdone
    refine .inr ⟨hs'drains.2, succeeded, ?_, fun hok i p hp hqueue hreceipt => ?_⟩
    · rw [hs'drains.1.invocations_eq (Shift.inHand_of_held hdone), hlast]
    · obtain ⟨p', hp', hremoved⟩ := hgone hok i p hp hqueue hreceipt
      exact c.removed_step next hp' hremoved

/-- What has become of a delivery in flight, whatever happened since. -/
theorem resolves_run (hsane : c.Sane) (hclosed : c.traffic.backlog.closed = true)
    (hs : c.shift? place = some s) (hheld : s.held? = some delivery) (later : List Happening)
    (hs' : (c.run later).shift? place = some s') : c.Resolves (c.run later) s s' delivery := by
  induction later using List.reverseRecOn generalizing s' with
  | nil =>
    obtain rfl := Option.some_inj.mp (hs.symm.trans hs')
    exact .inl hheld
  | append_singleton before next ih =>
    have hdrains := Drains.run hclosed before
    obtain ⟨s₁, hs₁, hs₁drains⟩ := hdrains.shifts place s hs
    rw [run, List.foldl_append] at hs' ⊢
    exact (ih hs₁).step hdrains hs₁drains (hsane.run before) hs₁ hs'

/-- What happens at closed queues leaves them as they are, if it is no deletion and no purge. -/
theorem backlog_step_of_closed (hclosed : c.traffic.backlog.closed = true) {h : Happening}
    (hnone : c.deletion? h = none) (hne : ∀ queue, h ≠ .others (.purge queue)) :
    (c.step h).traffic.backlog = c.traffic.backlog := by
  obtain ⟨new, hshows⟩ := c.step_spec h
  have hnew : new = [] := by
    rw [List.eq_nil_iff_forall_not_mem]
    intro o ho
    have hrefused := (hshows.step.of_closed hclosed).1 o ho
    cases o with
    | sent => cases hrefused.1
    | delivered => cases hrefused.2
    | deleted queue receipt =>
      have hdeletes := (hshows.deleted queue receipt).mp ho
      rw [hnone] at hdeletes
      cases hdeletes
    | purged queue => exact hne queue ((hshows.purged queue).mp ho)
  subst hnew
  exact hshows.step.eq_of_closed hclosed

/-- A consumer of which an invocation on the delivery in flight has failed did not touch the
queues. -/
theorem left_run (hsane : c.Sane) (hclosed : c.traffic.backlog.closed = true)
    (hs : c.shift? place = some s) (hheld : s.held? = some delivery) {earlier rest : List Happening}
    {move : Move} (hs' : (c.run (earlier ++ .work place move :: rest)).shift? place = some s')
    (hlast : s'.invocations.getLast? = some ⟨delivery, false⟩) :
    ((c.run earlier).step (.work place move)).traffic.backlog =
      (c.run earlier).traffic.backlog := by
  have hdrains := Drains.run hclosed earlier
  obtain ⟨s₁, hs₁, hs₁drains⟩ := hdrains.shifts place s hs
  refine backlog_step_of_closed hdrains.closed ?_ nofun
  rw [deletion?, hs₁, Option.bind_some, Option.eq_none_iff_forall_ne_some]
  intro found hfound
  obtain ⟨delivery', hstage⟩ := Shift.stage_of_deletion hfound
  have hheld₁ : s₁.held? = some delivery' := by simp [Shift.held?, hstage]
  obtain rfl : delivery' = delivery :=
    Option.some_inj.mp ((hs₁drains.held delivery' hheld₁).symm.trans hheld)
  -- its last invocation had succeeded, and no other comes after it
  have hsucceeded := ((hsane.run earlier).shifts place s₁ hs₁).acknowledged _ hstage
  rw [run, List.foldl_append] at hs'
  obtain ⟨s₂, hs₂, hs₂drains⟩ :=
    (Drains.run hdrains.closed (.work place move :: rest)).shifts place s₁ hs₁
  obtain rfl := Option.some_inj.mp (hs₂.symm.trans hs')
  rw [hs₂drains.invocations_eq (by simp [Shift.inHand, hstage]), hsucceeded] at hlast
  simp at hlast

/-! ## Removal -/

/-- When a message is removed depends on its queue and its latest receipt. -/
theorem removes_congr {next : Happening} {p p' : Parcel} (hqueue : p'.queue = p.queue)
    (hreceipt : p'.receipt = p.receipt) : c.Removes next p' ↔ c.Removes next p := by
  rw [Removes, Removes, hqueue, hreceipt]

/-- A message of closed queues is removed exactly if something that happens removes it. -/
theorem removed_run (hclosed : c.traffic.backlog.closed = true) (later : List Happening) {i : Nat}
    {p p' : Parcel} (hp : c.traffic.ledger[i]? = some p)
    (hp' : (c.run later).traffic.ledger[i]? = some p') :
    p'.removed = true ↔ p.removed = true ∨
      ∃ earlier next rest, later = earlier ++ next :: rest ∧ (c.run earlier).Removes next p := by
  induction later generalizing c p with
  | nil =>
    obtain rfl := Option.some_inj.mp (hp.symm.trans hp')
    simp
  | cons next rest ih =>
    have hdrains := Drains.step hclosed next
    obtain ⟨q, hq, hcases⟩ := hdrains.parcels i p hp
    have hsame : q.queue = p.queue ∧ q.receipt = p.receipt := by
      rcases hcases with rfl | rfl <;> exact ⟨rfl, rfl⟩
    obtain ⟨q', hq', -, hremoved⟩ := c.getElem?_ledger_step next hp
    obtain rfl := Option.some_inj.mp (hq'.symm.trans hq)
    rw [ih hdrains.closed hq hp', hremoved, or_assoc, exists_moment_cons]
    simp only [removes_congr hsame.1 hsame.2]
    rfl

/-! ## The end -/

/-- Four moves of a consumer bring it to its end, whatever it is at. -/
theorem stops_run (hclosed : c.traffic.backlog.closed = true) (hs : c.shift? place = some s)
    (outcome : Outcome DispatchError Unit) (wait : Duration) (receipt : String) :
    ∃ s', (c.run [.work place (.invoke outcome), .work place .acknowledge,
      .work place (.begin wait), .work place (.look receipt)]).shift? place = some s' ∧
        s'.stage = .stopped := by
  have hpolls : (c.run [.work place (.invoke outcome), .work place .acknowledge,
      .work place (.begin wait)]).shift? place = some (s.toNextPoll outcome wait) :=
    shift?_work (shift?_work (shift?_work hs rfl) rfl) rfl
  refine ⟨_, shift?_work hpolls rfl, ?_⟩
  by_cases hstopped : s.stage = .stopped
  · simp [Shift.toNextPoll, Shift.run, Shift.step, hstopped]
  · have hclosed' := (Drains.run hclosed [.work place (.invoke outcome), .work place .acknowledge,
      .work place (.begin wait)]).closed
    rw [← traffic_of_shift hpolls] at hclosed'
    simp only [Shift.step, (Shift.toNextPoll_spec hstopped outcome wait).1, Shift.look,
      Backlog.poll_eq_closed_iff.mpr hclosed']

/-- What holds of queues that were just closed, whatever happens later. -/
structure Final (c : Crew) (later : List Happening) : Prop where
  /-- What becomes of them: nothing more is taken or handed out, no consumer comes, and there are no
  invocations but those on what was in hand. -/
  drains : c.Drains (c.run later)
  refuses : (c.run later).Shut
  service : ∀ b : Broker, b.backlog = (c.run later).traffic.backlog → b.Shut
  /-- What a consumer had in hand was a message of its queue. -/
  handed : ∀ (place : Nat) (s : Shift) (delivery : Delivery), c.shift? place = some s →
    s.held? = some delivery → ∃ (i : Nat) (p : Parcel), c.traffic.ledger[i]? = some p ∧
      p.queue = s.consumer.queue ∧ p.message = delivery.message ∧ delivery.receipt ∈ p.receipts
  /-- If the invocation on it succeeds and it was the latest delivery of its message, then that is
  removed. -/
  resolves : ∀ (place : Nat) (s s' : Shift) (delivery : Delivery), c.shift? place = some s →
    s.held? = some delivery → (c.run later).shift? place = some s' →
      c.Resolves (c.run later) s s' delivery
  /-- If the invocation fails, then the consumer leaves all messages where they are. -/
  leaves : ∀ (place : Nat) (s s' : Shift) (delivery : Delivery), c.shift? place = some s →
    s.held? = some delivery → (c.run later).shift? place = some s' →
      s'.invocations.getLast? = some ⟨delivery, false⟩ →
        ∀ earlier move rest, later = earlier ++ .work place move :: rest →
          ((c.run earlier).step (.work place move)).traffic.backlog =
            (c.run earlier).traffic.backlog
  /-- The messages are those that were sent before. -/
  sends : (c.run later).traffic.ledger.sends = c.traffic.history.filterMap Occurrence.sent?
  /-- A message is removed exactly by a purge of its queue, or by a deletion there that names the
  receipt of its latest delivery. -/
  removal : ∀ (i : Nat) (p p' : Parcel), c.traffic.ledger[i]? = some p →
    (c.run later).traffic.ledger[i]? = some p' → (p'.removed = true ↔ p.removed = true ∨
      ∃ earlier next rest, later = earlier ++ next :: rest ∧ (c.run earlier).Removes next p)
  /-- Every message that was not removed is still on its queue. -/
  stored : ∀ queue, (c.run later).traffic.backlog.waiting queue =
    (c.run later).traffic.ledger.waiting (c.run later).traffic.backlog.visibility queue
  counts : ∀ (place : Nat) (s' : Shift), (c.run later).shift? place = some s' →
    s'.consumer.stats.handled + s'.consumer.stats.failed = s'.invocations.length
  /-- Every consumer comes to its end. -/
  stops : ∀ (place : Nat) (s' : Shift), (c.run later).shift? place = some s' →
    ∀ outcome wait receipt, ∃ s'',
      ((c.run later).run [.work place (.invoke outcome), .work place .acknowledge,
        .work place (.begin wait), .work place (.look receipt)]).shift? place = some s'' ∧
          s''.stage = .stopped

/-- Nothing that happens later is seen as a message sent. -/
theorem Drains.sends {c' : Crew} (h : c.Drains c') :
    c'.traffic.ledger.sends = c.traffic.history.filterMap Occurrence.sent? := by
  obtain ⟨new, hhistory, hnew⟩ := h.history
  have hnone : new.filterMap Occurrence.sent? = [] := by
    rw [List.filterMap_eq_nil_iff]
    exact fun o ho => (hnew o ho).1
  rw [Traffic.ledger, Ledger.sends_ofHistory, hhistory, List.filterMap_append, hnone,
    List.append_nil]

theorem final_of_closed (hsane : c.Sane) (hclosed : c.traffic.backlog.closed = true)
    (later : List Happening) : c.Final later where
  drains := .run hclosed later
  refuses := shut_of_closed (Drains.run hclosed later).closed
  service b hb := Broker.shut_of_closed (hb ▸ (Drains.run hclosed later).closed)
  handed place s delivery hs hheld := by
    rw [← traffic_of_shift hs]
    exact (hsane.shifts place s hs).handed delivery hheld
  resolves _ _ _ _ hs hheld hs' := resolves_run hsane hclosed hs hheld later hs'
  leaves _ _ _ _ hs hheld hs' hlast earlier move rest hlater :=
    left_run hsane hclosed hs hheld (hlater ▸ hs') hlast
  sends := (Drains.run hclosed later).sends
  removal _ _ _ hp hp' := removed_run hclosed later hp hp'
  stored := (hsane.run later).matched
  counts place s' hs' := ((hsane.run later).shifts place s' hs').counted.total
  stops _ _ hs' outcome wait receipt :=
    stops_run (Drains.run hclosed later).closed hs' outcome wait receipt

/-- Whatever happened before, closing the queues is final: nothing is taken or handed out any more,
and the consumers drain what they have in hand. -/
theorem run_final (visibility : Duration) (before later : List Happening) :
    (((start visibility).run before).step (.others .close)).Final later :=
  final_of_closed (((Sane.start visibility).run before).step _) rfl later

end Crew
end Switchboard
