import Switchboard.Proofs.Queue.Exclusion
import Switchboard.Proofs.Queue.Shift

/-!
# Consumers at work

Any number of consumers at any queues, several at one queue if it comes to that, in the midst of all
other traffic.  Each of them stands somewhere in its own loop, and all of them, and the others, take
their moves in any order.  Nothing is asked of receipts.

Main results:

- Definition {lit}`Crew.step`: what happens next.
- Definition {lit}`Crew.Shows`: what is seen of it, as one step of the backlog.
- Theorem {lit}`Crew.step_spec`: what is seen of whatever happens.
- Theorem {lit}`Crew.shift?_step`: what it makes of a consumer that is at work.
- Theorem {lit}`Crew.mem_invocations_run`: which invocations a consumer has on record.
- Theorem {lit}`Crew.Sane.run`: what every run keeps.
-/

namespace Switchboard

/-- Whether a move is one of the consumer itself. -/
def Move.isOwn : Move → Bool
  | others _ => false
  | _ => true

/-- A consumer and where it stands, apart from the traffic around it. -/
structure Worker where
  consumer : Consumer
  stage : Stage
  /-- The invocations that have ended, the latest last. -/
  invocations : List Invocation
  emptyPolls : Nat

/-- A worker in the midst of some traffic. -/
def Worker.among (t : Traffic) (w : Worker) : Shift :=
  ⟨t, w.consumer, w.stage, w.invocations, w.emptyPolls⟩

/-- A worker that was just started. -/
def Worker.start (queue : String) (subscriber : Subscriber) : Worker :=
  ⟨⟨queue, subscriber, ⟨0, 0, 0⟩, none, true⟩, .boundary, [], 0⟩

namespace Shift

/-- The worker of a shift. -/
def worker (s : Shift) : Worker :=
  ⟨s.consumer, s.stage, s.invocations, s.emptyPolls⟩

/-- The queue and the receipt of the deletion that a move of the consumer stands for, if it is
one. -/
def deletion? (s : Shift) : Move → Option (String × String)
  | .acknowledge =>
    match s.stage with
    | .acknowledging delivery => some (s.consumer.queue, delivery.receipt)
    | _ => none
  | _ => none

/-- What is seen of a move of the consumer: it is one step of the backlog, with a delivery under the
receipt that it gives, or with the deletion that it stands for. -/
structure Shows (s s' : Shift) (move : Move) (new : List Occurrence) : Prop where
  step : s.traffic.backlog.Step s.traffic.now s'.traffic.backlog new
  history : s'.traffic.history = s.traffic.history ++ new
  callers : s'.traffic.callers = s.traffic.callers
  given : ∀ receipt ∈ new.filterMap Occurrence.receipt?, move.receipt? = some receipt
  deleted : ∀ queue receipt,
    .deleted queue receipt ∈ new ↔ s.deletion? move = some (queue, receipt)
  purged : ∀ queue, .purged queue ∉ new

/-- Nothing is seen of a move that leaves the traffic as it is. -/
theorem Shows.quiet {s s' : Shift} {move : Move} (htraffic : s'.traffic = s.traffic)
    (hnone : s.deletion? move = none) : s.Shows s' move [] where
  step := htraffic ▸ .quiet
  history := by rw [htraffic, List.append_nil]
  callers := by rw [htraffic]
  given := by simp
  deleted := by simp [hnone]
  purged := by simp

/-- What is seen of every move of the consumer. -/
theorem step_spec (s : Shift) {move : Move} (hown : move.isOwn = true) :
    ∃ new, s.Shows (s.step move) move new := by
  unfold step
  split
  · cases hown
  · exact ⟨[], .quiet rfl rfl⟩
  · unfold look
    split
    · exact ⟨[], .quiet rfl rfl⟩
    · exact ⟨[], .quiet rfl rfl⟩
    · exact ⟨[], .quiet rfl rfl⟩
    · rename_i hpoll
      refine ⟨_, .delivered hpoll, rfl, rfl, ?_, by simp [deletion?], by simp⟩
      simp [Occurrence.receipt?, Move.receipt?, Backlog.receipt_of_poll hpoll]
  · unfold invoke
    split
    · exact ⟨[], .quiet rfl rfl⟩
    · exact ⟨[], .quiet rfl rfl⟩
  · rename_i delivery hstage
    refine ⟨_, .deleted s.consumer.queue delivery.receipt, rfl, rfl, ?_, fun queue receipt => ?_,
      by simp⟩
    · simp [Occurrence.receipt?]
    · simp [deletion?, hstage, eq_comm]
  · rename_i hidle
    refine ⟨[], .quiet rfl ?_⟩
    unfold deletion?
    split
    · split
      · rename_i hstage
        exact absurd hstage (hidle _ rfl)
      · rfl
    · rfl

end Shift

/-- Consumers, in the order of subscription, and all other traffic. -/
structure Crew where
  traffic : Traffic
  workers : List Worker

namespace Crew

/-- What happens next.  A subscription counts from the moment at which it finds the queues open; its
consumer may take its time to begin. -/
inductive Happening where
  | others (act : Act)
  | subscribe (queue : String) (subscriber : Subscriber)
  /-- The consumer of a place makes a move of its own. -/
  | work (place : Nat) (move : Move)

/-- Open queues without messages and without consumers. -/
def start (visibility : Duration) : Crew :=
  ⟨.start visibility, []⟩

/-- The consumer of a place, in the midst of the traffic. -/
def shift? (c : Crew) (place : Nat) : Option Shift :=
  c.workers[place]?.map (Worker.among c.traffic)

/-- Start a consumer for a queue. -/
def subscribe (c : Crew) (queue : String) (subscriber : Subscriber) :
    Except TransportError Crew :=
  if c.traffic.backlog.closed then .error .closed
  else .ok { c with workers := c.workers ++ [.start queue subscriber] }

/-- Let something happen. -/
def step (c : Crew) : Happening → Crew
  | .others act => { c with traffic := c.traffic.step act }
  | .subscribe queue subscriber =>
    match c.subscribe queue subscriber with
    | .ok c' => c'
    | .error _ => c
  | .work place move =>
    match c.shift? place, move.isOwn with
    | some s, true => ⟨(s.step move).traffic, c.workers.set place (s.step move).worker⟩
    | _, _ => c

/-- Let things happen one after the other. -/
def run (c : Crew) (happenings : List Happening) : Crew :=
  happenings.foldl step c

/-- The queue and the receipt of the deletion that happens, if one does. -/
def deletion? (c : Crew) : Happening → Option (String × String)
  | .others act => c.traffic.deletion? act
  | .subscribe _ _ => none
  | .work place move => (c.shift? place).bind fun s => s.deletion? move

/-- Whether a message is removed by what happens next: its queue is purged, or somebody deletes by
the receipt of its latest delivery. -/
def Removes (c : Crew) (h : Happening) (p : Parcel) : Prop :=
  h = .others (.purge p.queue) ∨
    ∃ receipt, c.deletion? h = some (p.queue, receipt) ∧ p.receipt = some receipt

variable {c : Crew} {h : Happening} {place : Nat} {s s' : Shift}

/-! ## What happens to the traffic -/

/-- All consumers stand in the same traffic. -/
theorem traffic_of_shift (hs : c.shift? place = some s) : s.traffic = c.traffic := by
  obtain ⟨w, -, rfl⟩ := Option.map_eq_some_iff.mp hs
  rfl

/-- A move of a consumer of its own. -/
theorem step_work (hs : c.shift? place = some s) {move : Move} (hown : move.isOwn = true) :
    c.step (.work place move) =
      ⟨(s.step move).traffic, c.workers.set place (s.step move).worker⟩ := by
  rw [step, hs, hown]

/-- What happens at the place of no consumer, or is no move of a consumer of its own, changes
nothing. -/
theorem step_work_cases (c : Crew) (place : Nat) (move : Move) :
    c.step (.work place move) = c ∧ c.deletion? (.work place move) = none ∨
      ∃ s, c.shift? place = some s ∧ move.isOwn = true := by
  cases hs : c.shift? place with
  | none => exact .inl ⟨by rw [step, hs], by rw [deletion?, hs]; rfl⟩
  | some s =>
    cases hown : move.isOwn with
    | true => exact .inr ⟨s, rfl, rfl⟩
    | false =>
      cases move with
      | others act => exact .inl ⟨by rw [step, hs]; rfl, by rw [deletion?, hs]; rfl⟩
      | begin | look | invoke | acknowledge => cases hown

/-- A subscription to open queues adds a consumer, and one to closed queues does nothing. -/
theorem step_subscribe (c : Crew) (queue : String) (subscriber : Subscriber) :
    c.step (.subscribe queue subscriber) =
      if c.traffic.backlog.closed then c
      else { c with workers := c.workers ++ [.start queue subscriber] } := by
  simp only [step, subscribe]
  by_cases hclosed : c.traffic.backlog.closed <;> simp [hclosed]

theorem traffic_subscribe (c : Crew) (queue : String) (subscriber : Subscriber) :
    (c.step (.subscribe queue subscriber)).traffic = c.traffic := by
  rw [step_subscribe]
  split <;> rfl

/-- What is seen of what happens: it is one step of the backlog, with the deletion or the purge that
happens. -/
structure Shows (c c' : Crew) (h : Happening) (new : List Occurrence) : Prop where
  step : c.traffic.backlog.Step c.traffic.now c'.traffic.backlog new
  history : c'.traffic.history = c.traffic.history ++ new
  deleted : ∀ queue receipt, .deleted queue receipt ∈ new ↔ c.deletion? h = some (queue, receipt)
  purged : ∀ queue, .purged queue ∈ new ↔ h = .others (.purge queue)

/-- Nothing is seen if the traffic stays as it is. -/
theorem Shows.quiet {c' : Crew} (htraffic : c'.traffic = c.traffic) (hnone : c.deletion? h = none)
    (hne : ∀ queue, h ≠ .others (.purge queue)) : c.Shows c' h [] where
  step := htraffic ▸ .quiet
  history := by rw [htraffic, List.append_nil]
  deleted := by simp [hnone]
  purged := by simp [hne]

/-- What is seen of whatever happens. -/
theorem step_spec (c : Crew) (h : Happening) : ∃ new, c.Shows (c.step h) h new := by
  cases h with
  | others act =>
    obtain ⟨new, hstep, hhistory, hexplains, hpurge, hdelete⟩ := c.traffic.step_spec act
    refine ⟨new, hstep, hhistory, fun queue receipt => ⟨fun ho => ?_, hdelete queue receipt⟩,
      fun queue => ⟨fun ho => ?_, fun hact => ?_⟩⟩
    · exact (hexplains _ ho).1
    · exact congrArg Happening.others (hexplains _ ho)
    · exact hpurge queue (Happening.others.inj hact)
  | subscribe queue subscriber =>
    exact ⟨[], .quiet (c.traffic_subscribe queue subscriber) rfl nofun⟩
  | work place move =>
    rcases c.step_work_cases place move with ⟨hsame, hnone⟩ | ⟨s, hs, hown⟩
    · exact ⟨[], .quiet (by rw [hsame]) hnone nofun⟩
    · obtain ⟨new, hshows⟩ := s.step_spec hown
      rw [step_work hs hown]
      have htraffic := traffic_of_shift hs
      refine ⟨new, htraffic ▸ hshows.step, htraffic ▸ hshows.history, fun queue receipt => ?_,
        fun queue => by simp [hshows.purged]⟩
      rw [hshows.deleted, deletion?, hs, Option.bind_some]

/-- What becomes of a message that was sent, and when it is removed. -/
theorem getElem?_ledger_step (c : Crew) (h : Happening) {i : Nat} {p : Parcel}
    (hp : c.traffic.ledger[i]? = some p) :
    ∃ p', (c.step h).traffic.ledger[i]? = some p' ∧ p.Becomes p' ∧
      (p'.removed = true ↔ p.removed = true ∨ c.Removes h p) := by
  obtain ⟨new, hstep, hhistory, hdelete, hpurge⟩ := c.step_spec h
  obtain ⟨p', hp', hbecomes⟩ := Ledger.becomes_enterAll c.traffic.backlog.visibility new hp
  rw [Traffic.ledger_step hstep hhistory]
  refine ⟨p', hp', hbecomes, ?_⟩
  unfold Removes
  simp only [← hdelete, ← hpurge]
  rcases hstep.new_cases with rfl | ⟨o, rfl⟩
  · obtain rfl : p = p' := Option.some_inj.mp (hp.symm.trans hp')
    simp
  · obtain ⟨q, hq, -, -, hremoved⟩ := Ledger.getElem?_enter c.traffic.backlog.visibility o hp
    obtain rfl : q = p' := Option.some_inj.mp (hq.symm.trans hp')
    rw [hremoved]
    simp only [List.mem_singleton, @eq_comm _ o]

/-! ## What happens to a consumer -/

/-- A consumer that makes a move of its own. -/
theorem shift?_work (hs : c.shift? place = some s) {move : Move} (hown : move.isOwn = true) :
    (c.step (.work place move)).shift? place = some (s.step move) := by
  obtain ⟨w, hw, -⟩ := Option.map_eq_some_iff.mp hs
  rw [step_work hs hown, shift?, List.getElem?_set_self (List.getElem?_eq_some_iff.mp hw).1]
  rfl

/-- What happens to a consumer that is at work: it makes a move of its own, or only the traffic
changes around it. -/
theorem shift?_step (h : Happening) (hs : c.shift? place = some s) :
    (c.step h).shift? place = some { s with traffic := (c.step h).traffic } ∨
      ∃ move, h = .work place move ∧ move.isOwn = true ∧
        (c.step h).shift? place = some (s.step move) := by
  obtain ⟨w, hw, rfl⟩ := Option.map_eq_some_iff.mp hs
  have hstays : ∀ c' : Crew, c'.workers[place]? = some w →
      c'.shift? place = some { w.among c.traffic with traffic := c'.traffic } := by
    intro c' hw'
    rw [shift?, hw']
    rfl
  cases h with
  | others act => exact .inl (hstays _ hw)
  | subscribe queue subscriber =>
    refine .inl (hstays _ ?_)
    rw [step_subscribe]
    split
    · exact hw
    · exact (List.getElem?_append_left (List.getElem?_eq_some_iff.mp hw).1).trans hw
  | work other move =>
    rcases c.step_work_cases other move with ⟨hsame, -⟩ | ⟨s', hs', hown⟩
    · exact .inl (by rw [hsame]; exact hstays c hw)
    · by_cases hplace : other = place
      · subst hplace
        exact .inr ⟨move, rfl, hown, shift?_work hs hown⟩
      · refine .inl (hstays _ ?_)
        rw [step_work hs' hown, List.getElem?_set_ne hplace, hw]

/-- Where a consumer comes from that is at work after something happened: it was there before, or it
was just started, which takes open queues. -/
theorem shift?_of_step (hs' : (c.step h).shift? place = some s') :
    (∃ s, c.shift? place = some s) ∨
      c.traffic.backlog.closed = false ∧ (c.step h).traffic = c.traffic ∧
        ∃ queue subscriber, s' = (Worker.start queue subscriber).among c.traffic := by
  obtain ⟨w', hw', rfl⟩ := Option.map_eq_some_iff.mp hs'
  have hthere : ∀ v : Worker, c.workers[place]? = some v → ∃ s, c.shift? place = some s := by
    intro v hv
    exact ⟨v.among c.traffic, by rw [shift?, hv]; rfl⟩
  cases h with
  | others act => exact .inl (hthere w' hw')
  | subscribe queue subscriber =>
    have htraffic := c.traffic_subscribe queue subscriber
    rw [step_subscribe] at hw'
    split at hw'
    · exact .inl (hthere w' hw')
    · rename_i hopen
      rw [List.getElem?_append] at hw'
      split at hw'
      · exact .inl (hthere w' hw')
      · have hmem := List.mem_singleton.mp (List.mem_of_getElem? hw')
        exact .inr ⟨by simpa using hopen, htraffic, queue, subscriber, by rw [hmem, htraffic]⟩
  | work other move =>
    rcases c.step_work_cases other move with ⟨hsame, -⟩ | ⟨s, hs, hown⟩
    · rw [hsame] at hw'
      exact .inl (hthere w' hw')
    · rw [step_work hs hown] at hw'
      obtain ⟨hlt, -⟩ := List.getElem?_eq_some_iff.mp hw'
      rw [List.length_set] at hlt
      exact .inl (hthere _ (List.getElem?_eq_getElem hlt))

/-! ## The record of a consumer -/

/-- The invocation by the consumer of a place that ends with what happens, if one does, and whether
its handler succeeded. -/
def ending? (c : Crew) (place : Nat) : Happening → Option Invocation
  | .work other move => if other = place then (c.shift? place).bind (·.ending? move) else none
  | _ => none

/-- A consumer that makes no move of its own ends no invocation. -/
theorem ending?_of_idle (hs : c.shift? place = some s)
    (hidle : ∀ move, h = .work place move → move.isOwn = false) : c.ending? place h = none := by
  cases h with
  | others | subscribe => rfl
  | work other move =>
    rw [ending?]
    split
    · rename_i hplace
      subst hplace
      rw [hs, Option.bind_some]
      cases move with
      | others act => rfl
      | begin | look | invoke | acknowledge => cases hidle _ rfl
    · rfl

/-- Whatever happens, a consumer records the invocation that ends with it, and nothing else. -/
theorem invocations_step (hs : c.shift? place = some s) (hs' : (c.step h).shift? place = some s') :
    s'.invocations = s.invocations ++ (c.ending? place h).toList := by
  by_cases hworks : ∃ move, h = .work place move ∧ move.isOwn = true
  · obtain ⟨move, rfl, hown⟩ := hworks
    obtain rfl := Option.some_inj.mp ((shift?_work hs hown).symm.trans hs')
    rw [s.invocations_step, ending?, if_pos rfl, hs, Option.bind_some]
  · have hidle : ∀ move, h = .work place move → move.isOwn = false := fun move heq =>
      Bool.eq_false_iff.mpr fun hown => hworks ⟨move, heq, hown⟩
    rw [ending?_of_idle hs hidle, Option.toList_none, List.append_nil]
    rcases shift?_step h hs with hstays | ⟨move, heq, hown, -⟩
    · obtain rfl := Option.some_inj.mp (hstays.symm.trans hs')
      rfl
    · exact absurd ⟨move, heq, hown⟩ hworks

/-- Where there is no consumer nothing is on record, and a consumer that comes has nothing there. -/
theorem not_mem_invocations_step (hnone : c.shift? place = none) {v : Invocation}
    (hs' : (c.step h).shift? place = some s') : v ∉ s'.invocations := by
  rcases shift?_of_step hs' with ⟨s, hs⟩ | ⟨-, -, queue, subscriber, rfl⟩
  · rw [hnone] at hs
    cases hs
  · exact List.not_mem_nil

/-- What a consumer has on record after something happened was there before, or it is the invocation
that ended with it. -/
theorem mem_invocations_step (c : Crew) (h : Happening) (place : Nat) {v : Invocation} :
    (∃ s, (c.step h).shift? place = some s ∧ v ∈ s.invocations) ↔
      (∃ s, c.shift? place = some s ∧ v ∈ s.invocations) ∨ c.ending? place h = some v := by
  cases hs : c.shift? place with
  | none =>
    have hends : c.ending? place h = none := by
      cases h with
      | others | subscribe => rfl
      | work other move => simp [ending?, hs]
    simp only [hends, reduceCtorEq, or_false, false_and, exists_false, iff_false, not_exists,
      not_and]
    exact fun s' hs' => not_mem_invocations_step hs hs'
  | some s =>
    obtain ⟨s', hs'⟩ : ∃ s', (c.step h).shift? place = some s' := by
      rcases shift?_step h hs with hstays | ⟨move, -, -, hmoves⟩
      · exact ⟨_, hstays⟩
      · exact ⟨_, hmoves⟩
    simp only [hs', Option.some_inj, exists_eq_left', invocations_step hs hs', List.mem_append,
      Option.mem_toList]

/-- What a consumer has on record after a run was there before, or it is an invocation that ended in
the run, with what its handler made of it. -/
theorem mem_invocations_run (c : Crew) (happenings : List Happening) (place : Nat)
    {v : Invocation} :
    (∃ s, (c.run happenings).shift? place = some s ∧ v ∈ s.invocations) ↔
      (∃ s, c.shift? place = some s ∧ v ∈ s.invocations) ∨ ∃ before next after,
        happenings = before ++ next :: after ∧ (c.run before).ending? place next = some v := by
  induction happenings generalizing c with
  | nil => simp [run]
  | cons next rest ih =>
    refine (ih (c.step next)).trans ?_
    rw [mem_invocations_step, or_assoc, exists_moment_cons]
    rfl

end Crew

/-! ## What is kept -/

namespace Shift

/-- What a consumer keeps: its counts are right, it deletes only what an invocation succeeded on,
and it was handed what it holds. -/
structure Sane (s : Shift) : Prop where
  counted : s.Counted
  acknowledged : ∀ delivery, s.stage = .acknowledging delivery →
    s.invocations.getLast? = some ⟨delivery, true⟩
  handed : ∀ delivery, s.held? = some delivery → ∃ (i : Nat) (p : Parcel),
    s.traffic.ledger[i]? = some p ∧ p.queue = s.consumer.queue ∧ p.message = delivery.message ∧
      delivery.receipt ∈ p.receipts

namespace Sane

variable {s : Shift}

/-- Of a consumer that holds nothing only the counts matter. -/
theorem of_free (hcounted : s.Counted) (hfree : s.held? = none) : s.Sane where
  counted := hcounted
  acknowledged delivery hstage := by simp [held?, hstage] at hfree
  handed delivery hheld := by
    rw [hfree] at hheld
    cases hheld

theorem start (t : Traffic) (queue : String) (subscriber : Subscriber) :
    ((Worker.start queue subscriber).among t).Sane :=
  .of_free ⟨rfl, rfl, rfl, fun _ => rfl, nofun⟩ rfl

/-- The traffic around a consumer does not disturb it. -/
theorem around (h : s.Sane) {t' : Traffic}
    (hclosed : s.traffic.backlog.closed = true → t'.backlog.closed = true)
    (hbecomes : ∀ (i : Nat) (p : Parcel), s.traffic.ledger[i]? = some p →
      ∃ p', t'.ledger[i]? = some p' ∧ p.Becomes p') :
    Sane { s with traffic := t' } where
  counted :=
    ⟨h.counted.handled, h.counted.failed, h.counted.polls, h.counted.running,
      fun hstopped => hclosed (h.counted.stopped hstopped)⟩
  acknowledged := h.acknowledged
  handed delivery hheld := by
    obtain ⟨i, p, hp, hqueue, hmessage, hreceipt⟩ := h.handed delivery hheld
    obtain ⟨p', hp', hp⟩ := hbecomes i p hp
    exact ⟨i, p', hp', hp.queue.trans hqueue, hp.message.trans hmessage,
      List.map_subset _ hp.deliveries.subset hreceipt⟩

/-- A look hands out a message of the ledger. -/
theorem look (h : s.Sane) (hmatches : s.traffic.backlog.Matches s.traffic.ledger)
    (hstage : s.stage = .polling) (receipt : String) : (s.look receipt).Sane := by
  refine ⟨h.counted.look hstage receipt, ?_, ?_⟩
  · intro delivery hstage'
    unfold Shift.look at hstage'
    split at hstage' <;> simp_all
  · intro delivery hheld
    unfold Shift.look at hheld ⊢
    split at hheld
    · cases hheld
    · simp [held?, hstage] at hheld
    · cases hheld
    · rename_i delivery' backlog hpoll
      obtain rfl : delivery' = delivery := Option.some_inj.mp hheld
      obtain ⟨before, p, after, -, -, hready, hdelivery, hentered, hvisibility, -⟩ :=
        hmatches.poll_delivered hpoll
      have hreceipt : delivery'.receipt = receipt := by rw [hdelivery]
      have hqueue := Parcel.queue_of_readyOn hready
      refine ⟨before.length, p.handOut s.traffic.now receipt, ?_, hqueue, ?_, ?_⟩
      · dsimp only
        rw [Traffic.ledger_note hvisibility, Ledger.enter, hreceipt, hentered]
        simp
      · rw [hdelivery]
        rfl
      · rw [hreceipt]
        exact List.mem_cons_self

/-- The invocation on the message in hand ends. -/
theorem invoke (h : s.Sane) {delivery : Delivery} (hstage : s.stage = .handling delivery)
    (outcome : Outcome DispatchError Unit) : (s.invoke delivery outcome).Sane := by
  refine ⟨h.counted.invoke hstage outcome, ?_, ?_⟩
  · intro delivery' hstage'
    unfold Shift.invoke at hstage' ⊢
    split at hstage'
    · obtain rfl : delivery = delivery' := by simpa using hstage'
      simp_all
    · cases hstage'
  · intro delivery' hheld
    have hhanded := h.handed delivery (by simp [held?, hstage])
    unfold Shift.invoke at hheld ⊢
    split at hheld
    · obtain rfl : delivery = delivery' := by simpa [held?] using hheld
      simp_all
    · cases hheld

/-- A consumer keeps this with every move of its own. -/
theorem step (h : s.Sane) (hmatches : s.traffic.backlog.Matches s.traffic.ledger) {move : Move}
    (hown : move.isOwn = true) : (s.step move).Sane := by
  unfold Shift.step
  split
  · cases hown
  · rename_i wait hstage
    have hcounted := h.counted.step (.begin wait)
    simp only [Shift.step, hstage] at hcounted
    exact .of_free hcounted rfl
  · exact h.look hmatches ‹_› _
  · exact h.invoke ‹_› _
  · rename_i delivery hstage
    have hcounted := h.counted.step .acknowledge
    simp only [Shift.step, hstage] at hcounted
    exact .of_free hcounted rfl
  · exact h

end Sane
end Shift

namespace Crew

/-- What holds at every moment of every run. -/
structure Sane (c : Crew) : Prop where
  /-- The queues hold what was sent to them and not removed. -/
  matched : c.traffic.backlog.Matches c.traffic.ledger
  shifts : ∀ place s, c.shift? place = some s → s.Sane

namespace Sane

variable {c : Crew}

theorem start (visibility : Duration) : (Crew.start visibility).Sane where
  matched _ := rfl
  shifts _ _ hs := by cases hs

theorem step (h : c.Sane) (next : Happening) : (c.step next).Sane := by
  obtain ⟨new, hstep, hhistory, -⟩ := c.step_spec next
  have hmatched : (c.step next).traffic.backlog.Matches (c.step next).traffic.ledger := by
    rw [Traffic.ledger_step hstep hhistory]
    exact h.matched.step hstep
  refine ⟨hmatched, fun place s' hs' => ?_⟩
  rcases shift?_of_step hs' with ⟨s, hs⟩ | ⟨-, -, queue, subscriber, rfl⟩
  · rcases shift?_step next hs with hstays | ⟨move, -, hown, hmoves⟩
    · obtain rfl := Option.some_inj.mp (hstays.symm.trans hs')
      refine (h.shifts place s hs).around (fun hclosed => ?_) fun i p hp => ?_
      · rw [traffic_of_shift hs] at hclosed
        exact hstep.closed_of_closed hclosed
      · rw [traffic_of_shift hs] at hp
        obtain ⟨p', hp', hbecomes, -⟩ := c.getElem?_ledger_step next hp
        exact ⟨p', hp', hbecomes⟩
    · obtain rfl := Option.some_inj.mp (hmoves.symm.trans hs')
      exact (h.shifts place s hs).step (traffic_of_shift hs ▸ h.matched) hown
  · exact .start _ queue subscriber

theorem run (h : c.Sane) (happenings : List Happening) : (c.run happenings).Sane := by
  induction happenings generalizing c with
  | nil => exact h
  | cons next rest ih => exact ih (h.step next)

end Sane
end Crew
end Switchboard
