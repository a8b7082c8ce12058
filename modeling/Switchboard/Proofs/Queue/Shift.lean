import Switchboard.Proofs.Queue.Traffic

/-!
# A consumer at work

One consumer at its queue, in the midst of all other traffic.  It does one thing after the other: it
begins a poll, looks at its queue until the poll has an end, has its handler invoked on what it was
handed, and deletes that message if the invocation succeeded.  The acts of others and the passing of
time come between any two of its moves, and an invocation may end as it likes: the handler returns,
fails or panics.

Main results:

- Definition {lit}`Shift.step`: what one move does.
- Theorem {lit}`Shift.turn_eq_run`: a turn of a consumer is four of these moves in a row.
- Theorem {lit}`Shift.mem_invocations_run`: which invocations are on record, and that they are said
  to have succeeded exactly if their handler did.
- Theorem {lit}`Kept.step`: what every move keeps, as long as the others spare the queue.
- Theorem {lit}`Counted.step`: every move keeps the counts of the consumer right.
-/

namespace Switchboard

/-- Where a consumer stands. -/
inductive Stage where
  /-- Between two polls. -/
  | boundary
  /-- In a poll. -/
  | polling
  /-- It was handed a message, and the invocation on it has not ended. -/
  | handling (delivery : Delivery)
  /-- The invocation on a message succeeded, and the message is still to be deleted. -/
  | acknowledging (delivery : Delivery)
  /-- It found the queues closed. -/
  | stopped

/-- An invocation of the handler that has ended. -/
structure Invocation where
  delivery : Delivery
  /-- Whether the handler returned without an error. -/
  succeeded : Bool

/-- A consumer at its queue, and all other traffic. -/
structure Shift where
  traffic : Traffic
  consumer : Consumer
  stage : Stage
  /-- The invocations that have ended, the latest last. -/
  invocations : List Invocation
  /-- How many polls ended without a message. -/
  emptyPolls : Nat

/-- What the consumer does next, or somebody else. -/
inductive Move where
  | others (act : Act)
  | begin (wait : Duration)
  | look (receipt : String)
  /-- The invocation on the message in hand ends. -/
  | invoke (outcome : Outcome DispatchError Unit)
  | acknowledge

/-- The receipt that a move may give. -/
def Move.receipt? : Move → Option String
  | others act => act.receipt?
  | look receipt => some receipt
  | _ => none

/-- Whether an act leaves the messages of a queue to its consumer: nobody else receives them,
deletes them or purges the queue. -/
def Act.spares (queue : String) : Act → Bool
  | beginReceive other _ _ => other ≠ queue
  | delete other _ => other ≠ queue
  | purge other => other ≠ queue
  | _ => true

/-- Whether a move of somebody else leaves the messages of a queue to its consumer. -/
def Move.spares (queue : String) : Move → Bool
  | others act => act.spares queue
  | _ => true

namespace Traffic

variable {t : Traffic} {act : Act} {queue : String}

/-- If those who wait for messages wait elsewhere, then an act that spares a queue does no more
there than send to it. -/
theorem spares_of_explains (hspares : act.spares queue = true)
    (helsewhere : ∀ c ∈ t.callers, c.receiver.queue ≠ queue) {o : Occurrence}
    (hexplains : t.Explains act o) : o.queue ≠ queue ∨ o.sent? ≠ none := by
  have hwaits : ∀ (caller : Nat) (other : String),
      (t.callers[caller]?.map fun c => c.receiver.queue) = some other → other ≠ queue := by
    intro caller other h
    obtain ⟨c, hc, rfl⟩ := Option.map_eq_some_iff.mp h
    exact helsewhere c (List.mem_of_getElem? hc)
  cases o with
  | sent => exact .inr (by simp [Occurrence.sent?])
  | delivered other delivery deliveredAt =>
    obtain ⟨hreceipt, hqueue⟩ := hexplains
    cases act with
    | look caller receipt => exact .inl (hwaits caller other hqueue)
    | _ => cases hreceipt
  | deleted other receipt =>
    obtain ⟨hdeletion, hqueue⟩ := hexplains
    cases act with
    | take caller => exact .inl (hwaits caller other hqueue)
    | delete named receipt =>
      obtain rfl : named = other := by simpa [queueOf?] using hqueue
      exact .inl (by simpa [Act.spares, Occurrence.queue] using hspares)
    | _ => cases hdeletion
  | purged other =>
    obtain rfl := hexplains
    exact .inl (by simpa [Act.spares, Occurrence.queue] using hspares)

/-- Such an act hands nothing out from the queue, and it leaves the parcels of the queue in the
ledger and adds no others than sent ones. -/
theorem step_of_spares (hspares : act.spares queue = true)
    (helsewhere : ∀ c ∈ t.callers, c.receiver.queue ≠ queue) :
    (t.step act).history.filterMap (Occurrence.deliveredOn? queue) =
        t.history.filterMap (Occurrence.deliveredOn? queue) ∧
      (∀ p ∈ t.ledger, p.queue = queue → p ∈ (t.step act).ledger) ∧
      ∀ p ∈ (t.step act).ledger, p.queue = queue →
        p ∈ t.ledger ∨ ∃ message sentAt, p = .sent queue message sentAt := by
  obtain ⟨new, hstep, hhistory, hexplains, -⟩ := t.step_spec act
  rw [hhistory, ledger_step hstep hhistory]
  rcases hstep.new_cases with rfl | ⟨o, rfl⟩
  · exact ⟨by simp, fun p hp _ => hp, fun p hp _ => .inl hp⟩
  · have ho := spares_of_explains hspares helsewhere (hexplains o List.mem_cons_self)
    refine ⟨?_, fun p hp hqueue => ?_, fun p hp hqueue => ?_⟩
    · have hnone : o.deliveredOn? queue = none := by
        cases o with
        | delivered other delivery deliveredAt =>
          have hne : other ≠ queue := by simpa [Occurrence.queue, Occurrence.sent?] using ho
          simp [Occurrence.deliveredOn?, hne]
        | sent | deleted | purged => rfl
      simp [hnone]
    · exact (Ledger.mem_enter_of_spares (hqueue ▸ ho)).mpr (.inl hp)
    · rcases (Ledger.mem_enter_of_spares (hqueue ▸ ho)).mp hp with hold | ⟨m, sentAt, -, hnew⟩
      · exact .inl hold
      · exact .inr ⟨m, sentAt, hqueue ▸ hnew⟩

/-- Those who wait for messages stay elsewhere if nobody comes to the queue. -/
theorem elsewhere_step (hspares : act.spares queue = true)
    (helsewhere : ∀ c ∈ t.callers, c.receiver.queue ≠ queue) :
    ∀ c ∈ (t.step act).callers, c.receiver.queue ≠ queue := by
  cases act with
  | pass | delete | purge | close => exact helsewhere
  | send other message =>
    simp only [step]
    split <;> exact helsewhere
  | beginReceive other wait takes =>
    intro c hc
    rcases List.mem_append.mp hc with hold | hnew
    · exact helsewhere c hold
    · obtain rfl := List.mem_singleton.mp hnew
      simpa [Act.spares] using hspares
  | look caller receipt =>
    simp only [step, look]
    split
    · exact helsewhere
    · rename_i c hcaller
      have hset : ∀ c' ∈ t.callers.set caller
          { c with receiver := (c.receiver.look t.now t.backlog receipt).receiver },
          c'.receiver.queue ≠ queue := by
        intro c' hc'
        rcases List.mem_or_eq_of_mem_set hc' with hold | rfl
        · exact helsewhere c' hold
        · simpa using helsewhere c (List.mem_of_getElem? hcaller)
      split <;> exact hset
  | take caller =>
    simp only [step]
    split
    · intro c hc
      obtain ⟨i, hi⟩ := List.mem_iff_getElem?.mp hc
      rw [List.getElem?_modify] at hi
      obtain ⟨c', hc', rfl⟩ := Option.map_eq_some_iff.mp hi
      have hqueue := helsewhere c' (List.mem_of_getElem? hc')
      split <;> exact hqueue
    · exact helsewhere

end Traffic

namespace Shift

/-- A consumer that was just started, at open queues without messages. -/
def start (visibility : Duration) (queue : String) (subscriber : Subscriber) : Shift :=
  ⟨.start visibility, ⟨queue, subscriber, ⟨0, 0, 0⟩, none, true⟩, .boundary, [], 0⟩

/-! ## Moves -/

/-- A look of the consumer at its queue. -/
def look (s : Shift) (receipt : String) : Shift :=
  match s.traffic.backlog.poll s.traffic.now s.consumer.deadline s.consumer.queue receipt with
  | .closed => { s with consumer := { s.consumer with running := false }, stage := .stopped }
  | .blocked => s
  | .timedOut => { s with stage := .boundary, emptyPolls := s.emptyPolls + 1 }
  | .delivered delivery backlog =>
    { s with
      traffic := s.traffic.note backlog (.delivered s.consumer.queue delivery s.traffic.now)
      stage := .handling delivery }

/-- The invocation on a message ends. -/
def invoke (s : Shift) (delivery : Delivery) (outcome : Outcome DispatchError Unit) : Shift :=
  match containCheck (delivery.message.typeInfo.getD "unknown") outcome with
  | .ok () =>
    { s with
      consumer := s.consumer.countHandled
      stage := .acknowledging delivery
      invocations := s.invocations ++ [⟨delivery, true⟩] }
  | .error _ =>
    { s with
      consumer := s.consumer.countFailed
      stage := .boundary
      invocations := s.invocations ++ [⟨delivery, false⟩] }

/-- The consumer deletes a message that was handled. -/
def acknowledge (s : Shift) (delivery : Delivery) : Shift :=
  { s with
    traffic := s.traffic.note (s.traffic.backlog.delete s.consumer.queue delivery.receipt)
      (.deleted s.consumer.queue delivery.receipt)
    stage := .boundary }

/-- Make a move.  The consumer makes only those that its stage allows. -/
def step (s : Shift) (move : Move) : Shift :=
  match move, s.stage with
  | .others act, _ => { s with traffic := s.traffic.step act }
  | .begin wait, .boundary =>
    { s with consumer := s.consumer.beginPoll s.traffic.now wait, stage := .polling }
  | .look receipt, .polling => s.look receipt
  | .invoke outcome, .handling delivery => s.invoke delivery outcome
  | .acknowledge, .acknowledging delivery => s.acknowledge delivery
  | _, _ => s

/-- Make moves one after the other. -/
def run (s : Shift) (moves : List Move) : Shift :=
  moves.foldl step s

/-- A turn of a consumer is four of its moves in a row: a look, the invocation on what it finds,
the deletion if that succeeds, and the next poll. -/
theorem turn_eq_run {C : Catalogue} {s : Shift} (hstage : s.stage = .polling)
    (hrunning : s.consumer.running = true) (receive : Reception C) (wait : Duration)
    (x : Session C) :
    ∃ outcome,
      let receipt := (Session.draw x).1
      let turn := (s.consumer.turn receive s.traffic.now wait s.traffic.backlog x).1
      let s' := s.run [.look receipt, .invoke outcome, .acknowledge, .begin wait]
      turn.consumer = s'.consumer ∧ turn.backlog = s'.traffic.backlog ∧
        ∀ delivery, (s.look receipt).stage = .handling delivery →
          outcome = (receive s.consumer.subscriber s.consumer.queue
            (delivery.message.receivingContext (Session.draw (Session.draw x).2).1)
            delivery.message (Session.draw (Session.draw x).2).2).1 := by
  obtain ⟨⟨now, backlog, callers, history⟩, c, stage, invocations, emptyPolls⟩ := s
  obtain rfl := hstage
  obtain ⟨queue, subscriber, stats, deadline, running⟩ := c
  obtain rfl : running = true := hrunning
  cases hpoll : backlog.poll now deadline queue (Session.draw x).1 with
  | closed | blocked | timedOut =>
    refine ⟨.ok (), ?_⟩
    simp [Consumer.turn, run, step, look, bind_apply, map_apply, pure_apply, hpoll]
  | delivered delivery backlog' =>
    refine ⟨(receive subscriber queue
      (delivery.message.receivingContext (Session.draw (Session.draw x).2).1)
      delivery.message (Session.draw (Session.draw x).2).2).1, ?_⟩
    cases hresult : containCheck (delivery.message.typeInfo.getD "unknown")
        (receive subscriber queue
          (delivery.message.receivingContext (Session.draw (Session.draw x).2).1)
          delivery.message (Session.draw (Session.draw x).2).2).1 <;>
      simp [Consumer.turn, Consumer.handle, run, step, look, invoke, acknowledge, Traffic.note,
        bind_apply, map_apply, pure_apply, hpoll, hresult]

/-! ## The record of invocations -/

/-- A result counts as handled exactly if the handler returned it as a success. -/
theorem isOk_containCheck (tag : String) (outcome : Outcome DispatchError Unit) :
    (containCheck tag outcome).isOk = outcome.succeeded := by
  cases outcome with
  | returned result => cases result <;> rfl
  | panicked value => rfl

/-- The end of an invocation is recorded as succeeded exactly if the handler succeeded, which is
if its result counts as handled. -/
theorem invocations_invoke (s : Shift) (delivery : Delivery)
    (outcome : Outcome DispatchError Unit) :
    (s.invoke delivery outcome).invocations =
      s.invocations ++ [⟨delivery, outcome.succeeded⟩] := by
  rw [← isOk_containCheck (delivery.message.typeInfo.getD "unknown"), invoke]
  cases containCheck (delivery.message.typeInfo.getD "unknown") outcome <;> rfl

/-- The invocation that ends with a move, if one does, and whether its handler succeeded. -/
def ending? (s : Shift) : Move → Option Invocation
  | .invoke outcome =>
    match s.stage with
    | .handling delivery => some ⟨delivery, outcome.succeeded⟩
    | _ => none
  | _ => none

/-- A move records the invocation that ends with it, and nothing else. -/
theorem invocations_step (s : Shift) (move : Move) :
    (s.step move).invocations = s.invocations ++ (s.ending? move).toList := by
  cases move with
  | others act => exact (List.append_nil _).symm
  | begin wait =>
    cases hstage : s.stage <;> simp [step, hstage, ending?]
  | look receipt =>
    cases hstage : s.stage with
    | polling =>
      simp only [step, hstage, ending?, Option.toList_none, List.append_nil, look]
      split <;> rfl
    | _ => simp [step, hstage, ending?]
  | invoke outcome =>
    cases hstage : s.stage <;> simp [step, hstage, ending?, invocations_invoke]
  | acknowledge =>
    cases hstage : s.stage <;> simp [step, hstage, ending?, acknowledge]

/-- What is on record after a run was there before, or it is an invocation that ended in the run,
with what its handler made of it. -/
theorem mem_invocations_run (s : Shift) (moves : List Move) {v : Invocation} :
    v ∈ (s.run moves).invocations ↔ v ∈ s.invocations ∨ ∃ before move after,
      moves = before ++ move :: after ∧ (s.run before).ending? move = some v := by
  induction moves generalizing s with
  | nil => simp [run]
  | cons move rest ih =>
    refine (ih (s.step move)).trans ?_
    rw [invocations_step, List.mem_append, Option.mem_toList, or_assoc, exists_moment_cons]
    rfl

/-! ## Counts -/

/-- The message on which an invocation is under way. -/
def inHand (s : Shift) : List Delivery :=
  match s.stage with
  | .handling delivery => [delivery]
  | _ => []

/-- How many polls were begun whose end is not counted yet: the one that the consumer stands in, or
the one that found the queues closed. -/
def openPolls (s : Shift) : Nat :=
  match s.stage with
  | .boundary => 0
  | .acknowledging _ => 0
  | _ => 1

/-- The counts of the consumer are those of what it did. -/
structure Counted (s : Shift) : Prop where
  handled : s.consumer.stats.handled = s.invocations.countP Invocation.succeeded
  failed : s.consumer.stats.failed = s.invocations.countP fun v => !v.succeeded
  polls : s.consumer.stats.polls =
    s.consumer.stats.handled + s.consumer.stats.failed + s.emptyPolls + s.openPolls
  running : s.stage ≠ .stopped → s.consumer.running = true
  stopped : s.stage = .stopped → s.traffic.backlog.closed = true

namespace Counted

variable {s : Shift}

theorem start (visibility : Duration) (queue : String) (subscriber : Subscriber) :
    (Shift.start visibility queue subscriber).Counted where
  handled := rfl
  failed := rfl
  polls := rfl
  running _ := rfl
  stopped h := by cases h

theorem look (h : s.Counted) (hstage : s.stage = .polling) (receipt : String) :
    (s.look receipt).Counted := by
  have hpolls := h.polls
  have hrunning := h.running (by simp [hstage])
  simp only [openPolls, hstage] at hpolls
  unfold Shift.look
  split
  · rename_i hpoll
    exact ⟨h.handled, h.failed, hpolls, fun hne => absurd rfl hne,
      fun _ => Backlog.poll_eq_closed_iff.mp hpoll⟩
  · exact h
  · refine ⟨h.handled, h.failed, ?_, fun _ => hrunning, nofun⟩
    simp only [openPolls]
    omega
  · exact ⟨h.handled, h.failed, hpolls, fun _ => hrunning, nofun⟩

theorem invoke (h : s.Counted) {delivery : Delivery} (hstage : s.stage = .handling delivery)
    (outcome : Outcome DispatchError Unit) : (s.invoke delivery outcome).Counted := by
  have hpolls := h.polls
  have hrunning := h.running (by simp [hstage])
  simp only [openPolls, hstage] at hpolls
  unfold Shift.invoke
  split
  · refine ⟨?_, ?_, ?_, fun _ => hrunning, nofun⟩
    · simp [Consumer.countHandled, h.handled]
    · simp [Consumer.countHandled, h.failed]
    · simp only [Consumer.countHandled, openPolls]
      omega
  · refine ⟨?_, ?_, ?_, fun _ => hrunning, nofun⟩
    · simp [Consumer.countFailed, h.handled]
    · simp [Consumer.countFailed, h.failed]
    · simp only [Consumer.countFailed, openPolls]
      omega

/-- Every move keeps the counts of the consumer right. -/
theorem step (h : s.Counted) (move : Move) : (s.step move).Counted := by
  unfold Shift.step
  split
  · rename_i act
    obtain ⟨new, hstep, -⟩ := s.traffic.step_spec act
    exact ⟨h.handled, h.failed, h.polls, h.running, fun hstopped =>
      hstep.closed_of_closed (h.stopped hstopped)⟩
  · rename_i wait hstage
    have hpolls := h.polls
    simp only [openPolls, hstage] at hpolls
    refine ⟨h.handled, h.failed, ?_, fun _ => h.running (by simp [hstage]), nofun⟩
    simp only [Consumer.beginPoll, openPolls]
    omega
  · exact h.look ‹_› _
  · exact h.invoke ‹_› _
  · rename_i delivery hstage
    have hpolls := h.polls
    simp only [openPolls, hstage] at hpolls
    exact ⟨h.handled, h.failed, hpolls, fun _ => h.running (by simp [hstage]), nofun⟩
  · exact h

end Counted

/-! ## What is kept of every message -/

/-- The message that was handed out last, as long as the consumer is not done with it. -/
def held? (s : Shift) : Option Delivery :=
  match s.stage with
  | .handling delivery => some delivery
  | .acknowledging delivery => some delivery
  | _ => none

/-- Whether the consumer is about to delete a message, the invocation on it having succeeded. -/
def acknowledges (s : Shift) (p : Parcel) : Bool :=
  match s.stage with
  | .acknowledging delivery => p.receipts.contains delivery.receipt
  | _ => false

/-- How many invocations on a message succeeded. -/
def successes (s : Shift) (p : Parcel) : Nat :=
  s.invocations.countP fun v => v.succeeded && p.receipts.contains v.delivery.receipt

/-- What the consumer deletes is entered in the ledger. -/
theorem ledger_acknowledge (s : Shift) (delivery : Delivery) :
    (s.acknowledge delivery).traffic.ledger =
      s.traffic.ledger.delete s.consumer.queue delivery.receipt :=
  Traffic.ledger_note rfl _

theorem inHand_of_held {s : Shift} (h : s.held? = none) : s.inHand = [] := by
  unfold held? at h
  unfold inHand
  split at h <;> simp_all

theorem acknowledges_of_held {s : Shift} (h : s.held? = none) (p : Parcel) :
    s.acknowledges p = false := by
  unfold held? at h
  unfold acknowledges
  split at h <;> simp_all

/-- What the consumer and its queue keep at every moment, the receipts that were given being among
some texts. -/
structure Kept (s : Shift) (given : List String) : Prop where
  sound : Sound s.traffic.backlog s.traffic.history given
  /-- Nobody else waits for a message of the queue. -/
  elsewhere : ∀ c ∈ s.traffic.callers, c.receiver.queue ≠ s.consumer.queue
  /-- Each delivery from the queue had its invocation, but for the one that is under way. -/
  invoked : s.traffic.history.filterMap (Occurrence.deliveredOn? s.consumer.queue) =
    s.invocations.map Invocation.delivery ++ s.inHand
  /-- A message was removed, or is about to be, once an invocation on it succeeded. -/
  settled : ∀ p ∈ s.traffic.ledger, p.queue = s.consumer.queue →
    s.successes p = p.removed.toNat + (s.acknowledges p).toNat
  /-- What the consumer holds is still on the queue, and was not handed out again. -/
  held : ∀ delivery, s.held? = some delivery →
    ∃ p ∈ s.traffic.ledger, p.storedOn s.consumer.queue = true ∧
      p.receipt = some delivery.receipt

namespace Kept

variable {s : Shift} {given : List String}

theorem start (visibility : Duration) (queue : String) (subscriber : Subscriber) :
    (Shift.start visibility queue subscriber).Kept [] where
  sound := .start visibility
  elsewhere _ h := absurd h List.not_mem_nil
  invoked := rfl
  settled _ h := absurd h List.not_mem_nil
  held _ h := by cases h

/-- More receipts may have been given. -/
theorem grow (h : s.Kept given) (fresh : List String) : s.Kept (given ++ fresh) :=
  ⟨⟨h.sound.agrees, fun receipt hreceipt =>
    List.mem_append_left _ (h.sound.given_mem receipt hreceipt)⟩,
    h.elsewhere, h.invoked, h.settled, h.held⟩

/-- The receipts of all invocations were given. -/
theorem receipt_mem (h : s.Kept given) {v : Invocation} (hv : v ∈ s.invocations) :
    v.delivery.receipt ∈ given := by
  have hdelivered : v.delivery ∈
      s.traffic.history.filterMap (Occurrence.deliveredOn? s.consumer.queue) := by
    rw [h.invoked]
    exact List.mem_append_left _ (List.mem_map_of_mem hv)
  obtain ⟨o, ho, hsome⟩ := List.mem_filterMap.mp hdelivered
  apply h.sound.given_mem
  exact List.mem_filterMap.mpr ⟨o, ho, Occurrence.receipt?_of_deliveredOn hsome⟩

/-- A consumer with nothing in its hands turns to something else. -/
theorem turnTo (h : s.Kept given) (hheld : s.held? = none) (c : Consumer) (stage : Stage)
    (emptyPolls : Nat) (hqueue : c.queue = s.consumer.queue)
    (hstage : Shift.held? ⟨s.traffic, c, stage, s.invocations, emptyPolls⟩ = none) :
    Shift.Kept ⟨s.traffic, c, stage, s.invocations, emptyPolls⟩ given where
  sound := h.sound
  elsewhere := hqueue ▸ h.elsewhere
  invoked := by
    rw [inHand_of_held hstage, ← inHand_of_held hheld, hqueue]
    exact h.invoked
  settled p hp hpqueue := by
    rw [acknowledges_of_held hstage, ← acknowledges_of_held hheld p]
    exact h.settled p hp (hpqueue.trans hqueue)
  held delivery hdelivery := by
    rw [hstage] at hdelivery
    cases hdelivery

/-- Acts of others that spare the queue. -/
theorem others (h : s.Kept given) (act : Act) (hspares : act.spares s.consumer.queue = true)
    (hfresh : ∀ receipt, act.receipt? = some receipt → receipt ∉ given) :
    Shift.Kept { s with traffic := s.traffic.step act } (given ++ act.receipt?.toList) := by
  obtain ⟨hdelivered, hold, hnew⟩ := Traffic.step_of_spares hspares h.elsewhere
  refine ⟨Traffic.sound_step h.sound act hfresh, Traffic.elsewhere_step hspares h.elsewhere,
    hdelivered.trans h.invoked, fun p hp hqueue => ?_, fun delivery hheld => ?_⟩
  · rcases hnew p hp hqueue with hp | ⟨message, sentAt, rfl⟩
    · exact h.settled p hp hqueue
    · -- a message that was just sent has no receipt yet
      have hsuccesses : s.successes (.sent s.consumer.queue message sentAt) = 0 := by
        simp [successes, Parcel.sent, Parcel.receipts]
      have hacknowledges : s.acknowledges (.sent s.consumer.queue message sentAt) = false := by
        unfold acknowledges
        split <;> simp [Parcel.sent, Parcel.receipts]
      change s.successes _ = _ + (s.acknowledges _).toNat
      rw [hsuccesses, hacknowledges]
      rfl
  · obtain ⟨p, hp, hstored, hreceipt⟩ := h.held delivery hheld
    exact ⟨p, hold p hp (Parcel.storedOn_iff.mp hstored).1, hstored, hreceipt⟩

/-- A look of the consumer under a fresh receipt. -/
theorem look (h : s.Kept given) (hstage : s.stage = .polling) {receipt : String}
    (hfresh : receipt ∉ given) : (s.look receipt).Kept (given ++ [receipt]) := by
  have hheld : s.held? = none := by simp [held?, hstage]
  unfold Shift.look
  split
  · exact (h.turnTo hheld { s.consumer with running := false } .stopped _ rfl rfl).grow _
  · exact h.grow _
  · exact (h.turnTo hheld s.consumer .boundary _ rfl rfl).grow _
  · rename_i delivery backlog hpoll
    obtain ⟨before, p, after, hledger, -, hready, hdelivery, hentered, hvisibility, -⟩ :=
      h.sound.agrees.poll_delivered hpoll
    have hreceipt : delivery.receipt = receipt := by rw [hdelivery]
    have hnoted : (s.traffic.note backlog
        (.delivered s.consumer.queue delivery s.traffic.now)).ledger =
          before ++ p.handOut s.traffic.now receipt :: after := by
      rw [Traffic.ledger_note hvisibility, Ledger.enter, hreceipt, ← hentered]
      rfl
    refine ⟨?_, h.elsewhere, ?_, fun q hq hqueue => ?_, ?_⟩
    · exact h.sound.step (.delivered hpoll) (by simp [Occurrence.receipt?, hreceipt])
        (by simpa using hfresh)
    · have hinvoked := h.invoked
      rw [inHand_of_held hheld] at hinvoked
      simp [Traffic.note, Occurrence.deliveredOn?, hinvoked, inHand]
    · have hsettled : ∀ r ∈ s.traffic.ledger, r.queue = s.consumer.queue →
          s.successes r = r.removed.toNat := by
        intro r hr hrqueue
        simpa [acknowledges_of_held hheld] using h.settled r hr hrqueue
      change s.successes q = q.removed.toNat + 0
      rw [hnoted] at hq
      have hcases : q ∈ s.traffic.ledger ∨ q = p.handOut s.traffic.now receipt := by
        rw [show s.traffic.ledger = before ++ p :: after from hledger]
        simp only [List.mem_append, List.mem_cons] at hq ⊢
        tauto
      rcases hcases with hold | rfl
      · exact hsettled q hold hqueue
      · -- the new receipt is that of no invocation
        have hp : p ∈ s.traffic.ledger := by
          rw [show s.traffic.ledger = before ++ p :: after from hledger]
          simp
        change s.successes (p.handOut s.traffic.now receipt) = p.removed.toNat
        rw [← hsettled p hp hqueue]
        apply List.countP_congr
        intro v hv
        have hne : v.delivery.receipt ≠ receipt := fun heq => hfresh (heq ▸ h.receipt_mem hv)
        simp [hne]
    · rintro _ ⟨⟩
      simp only [Parcel.readyOn, Bool.and_eq_true] at hready
      refine ⟨p.handOut s.traffic.now receipt, ?_, hready.1, ?_⟩
      · rw [hnoted]
        simp
      · rw [hreceipt]
        rfl

/-- The invocation on the message in hand ends. -/
theorem invoke (h : s.Kept given) {delivery : Delivery} (hstage : s.stage = .handling delivery)
    (outcome : Outcome DispatchError Unit) : (s.invoke delivery outcome).Kept given := by
  have hinvoked := h.invoked
  have hacknowledges : ∀ p, s.acknowledges p = false := fun p => by simp [acknowledges, hstage]
  simp only [inHand, hstage] at hinvoked
  unfold Shift.invoke
  split
  · refine ⟨h.sound, h.elsewhere, ?_, fun p hp hqueue => ?_, ?_⟩
    · simpa [inHand] using hinvoked
    · have hsettled := h.settled p hp hqueue
      rw [hacknowledges] at hsettled
      simp only [successes, acknowledges] at hsettled ⊢
      rw [List.countP_append, hsettled, List.countP_singleton]
      cases p.receipts.contains delivery.receipt <;> rfl
    · rintro _ ⟨⟩
      exact h.held delivery (by simp [held?, hstage])
  · refine ⟨h.sound, h.elsewhere, ?_, fun p hp hqueue => ?_, ?_⟩
    · simpa [inHand] using hinvoked
    · have hsettled := h.settled p hp hqueue
      rw [hacknowledges] at hsettled
      simp only [successes, acknowledges] at hsettled ⊢
      rw [List.countP_append, hsettled, List.countP_singleton]
      rfl
    · rintro _ ⟨⟩

/-- The consumer deletes the message that it acknowledges. -/
theorem acknowledge (h : s.Kept given) {delivery : Delivery}
    (hstage : s.stage = .acknowledging delivery) : (s.acknowledge delivery).Kept given := by
  have hinvoked := h.invoked
  simp only [inHand, hstage] at hinvoked
  obtain ⟨p, hp, hstored, hlatest⟩ := h.held delivery (by simp [held?, hstage])
  refine ⟨?_, h.elsewhere, ?_, fun q' hq' hqueue => ?_, ?_⟩
  · have hdeleted : s.traffic.backlog.Step s.traffic.now _ _ :=
      .deleted s.consumer.queue delivery.receipt
    have hsound : Sound _ _ (given ++ []) :=
      h.sound.step hdeleted (by simp [Occurrence.receipt?]) (by simp)
    rwa [List.append_nil] at hsound
  · simpa [Shift.acknowledge, Traffic.note, Occurrence.deliveredOn?, inHand, List.filterMap_cons]
      using hinvoked
  · rw [ledger_acknowledge] at hq'
    obtain ⟨q, hq, rfl⟩ := List.mem_map.mp hq'
    have hqqueue : q.queue = s.consumer.queue := by
      split at hqueue <;> exact hqueue
    have hsettled := h.settled q hq hqqueue
    simp only [acknowledges, hstage] at hsettled
    by_cases hheld : delivery.receipt ∈ q.receipts
    · -- the held receipt is the latest one of its message
      obtain rfl : q = p := Ledger.eq_of_mem_receipts h.sound.agrees.receipts_nodup hq hp hheld
        (Parcel.mem_receipts_of_receipt hlatest)
      rw [if_pos (by simp [hqqueue, hlatest])]
      change s.successes q = 1
      rw [hsettled, (Parcel.storedOn_iff.mp hstored).2]
      simp [hheld]
    · have hother : q.receipt ≠ some delivery.receipt := fun heq =>
        hheld (Parcel.mem_receipts_of_receipt heq)
      rw [if_neg (by simp [hother])]
      change s.successes q = q.removed.toNat + 0
      rw [hsettled]
      simp [hheld]
  · rintro _ ⟨⟩

/-- Every move keeps what is to be kept, as long as the others spare the queue and no receipt is
given twice. -/
theorem step (h : s.Kept given) (move : Move) (hspares : move.spares s.consumer.queue = true)
    (hfresh : ∀ receipt, move.receipt? = some receipt → receipt ∉ given) :
    (s.step move).Kept (given ++ move.receipt?.toList) := by
  unfold Shift.step
  split
  · exact h.others _ hspares hfresh
  · rename_i wait hstage
    exact (h.turnTo (by simp [held?, hstage]) _ .polling _ (by simp) rfl).grow _
  · exact h.look ‹_› (hfresh _ rfl)
  · exact (h.invoke ‹_› _).grow _
  · exact (h.acknowledge ‹_›).grow _
  · exact h.grow _

end Kept
end Shift
end Switchboard
