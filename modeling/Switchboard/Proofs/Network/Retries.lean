import Switchboard.Proofs.Facade.Carriage
import Switchboard.Proofs.Network.Reception
import Switchboard.Proofs.Network.Staffing
import Switchboard.Proofs.Queue.Trace

/-!
# Events that are tried again

The consumer of an event façade at a queue of its own.  Every delivery of an event is an attempt at
all of its handlers, whatever became of the attempts before it, and the message goes when every call
of an attempt has succeeded.  Between two moves of the consumer others may send to the queue, use
all other queues, and do anything in the session.

Main results:

- Definition {lit}`Relay.step`: what one move does.
- Theorem {lit}`Relay.turn_eq_run`: a turn of the consumer is made of such moves.
- Theorem {lit}`EventFacade.Hears.receive`: an attempt at all handlers of an event.
- Theorem {lit}`Relay.Kept.step`: what every move keeps.
- Theorem {lit}`Relay.run_retries`: an event is tried as a whole until it succeeds as a whole.
-/

namespace Switchboard

variable {C : Catalogue}

/-- Only the end of an invocation adds to the invocations. -/
theorem Shift.invocations_step_of_ne (s : Shift) {m : Move}
    (hinvoke : ∀ outcome, m ≠ .invoke outcome) : (s.step m).invocations = s.invocations := by
  have hnone : s.ending? m = none := by
    cases m with
    | invoke outcome => exact absurd rfl (hinvoke outcome)
    | _ => rfl
  rw [invocations_step, hnone, Option.toList_none, List.append_nil]

/-! ## An attempt -/

/-- A façade has the handlers of a payload type, and routes its tag to them. -/
structure EventFacade.Hears (f : EventFacade C) (kind : C.Kind)
    (handlers : List (EventHandler (C.Value kind))) : Prop where
  route : f.routes.find? (C.tag kind) = some kind
  slot : f.registry.slots.find? (C.tag kind) = some ⟨kind, handlers⟩

/-- The handlers that were taken in at a façade are those that it has. -/
theorem EventFacade.hears_of_holds {f : EventFacade C} {address : Nat}
    {known : List (Enlistment C)} (h : (AnyFacade.events f).Holds address known) {kind : C.Kind}
    {handlers : List (EventHandler (C.Value kind))} (hsome : handlers ≠ [])
    (hknown : (known.filter fun e => e.address = address ∧ e.tag = C.tag kind) =
      handlers.map (.event address kind)) : f.Hears kind handlers := by
  have hroster := (h.roster (C.tag kind)).trans hknown
  have hroute := h.routes (C.tag kind)
  have hlocated : f.address = address := h.located
  obtain ⟨first, rest, rfl⟩ := List.exists_cons_of_ne_nil hsome
  refine ⟨hroute.trans (by rw [hroster]; rfl), ?_⟩
  simp only [AnyFacade.roster, hlocated] at hroster
  cases hslot : f.registry.slots.find? (C.tag kind) with
  | none => simp [hslot] at hroster
  | some slot =>
    obtain ⟨other, found⟩ := slot
    simp only [hslot] at hroster
    obtain rfl : other = kind := by
      obtain ⟨head, tail, rfl⟩ : ∃ head tail, found = head :: tail :=
        List.exists_cons_of_ne_nil (by rintro rfl; cases hroster)
      exact congrArg Enlistment.kind (List.cons_eq_cons.mp hroster).1
    have hinjective : Function.Injective (Enlistment.event (C := C) address other) := by
      intro handler handler' heq
      cases heq
      rfl
    rw [List.map_injective_iff.mpr hinjective hroster]

/-- What an attempt at an event did: each of its handlers was called once, in the order of
registration, for the system. -/
def Call.ServeAll (calls : List (Call C)) (correlationId : String) {kind : C.Kind}
    (handlers : List (EventHandler (C.Value kind))) (event : C.Value kind) : Prop :=
  List.Forall₂ (fun handler call =>
    call.Serves handler.callee ((Context.system correlationId).withHandler handler.name) event)
      handlers calls

/-- Every handler was called as often as it was registered. -/
theorem Call.ServeAll.countP_callee {calls : List (Call C)} {correlationId : String} {kind : C.Kind}
    {handlers : List (EventHandler (C.Value kind))} {event : C.Value kind}
    (h : ServeAll calls correlationId handlers event) (callee : Nat) :
    calls.countP (fun call => call.callee == callee) =
      handlers.countP fun handler => handler.callee == callee := by
  induction h with
  | nil => rfl
  | cons hserves _ ih => rw [List.countP_cons, List.countP_cons, ih, hserves.callee]

/-- A received event is given to all handlers, and it counts as handled if all calls succeed. -/
theorem EventFacade.Hears.receive {f : EventFacade C} {kind : C.Kind}
    {handlers : List (EventHandler (C.Value kind))} (h : f.Hears kind handlers) {m : Message}
    (htag : m.typeInfo = some (C.tag kind)) {event : C.Value kind}
    (hdecode : m.decode kind = some event) (freshId : String) (s : Session C) :
    let received := f.receive (m.receivingContext freshId) m s
    ∃ new, received.2.calls = s.calls ++ new ∧
      Call.ServeAll new ((m.attributeValue Message.correlationKey).getD freshId) handlers event ∧
      (received.1 = .ok () ↔ ∀ call ∈ new, call.succeeded = true) := by
  intro received
  have hreceived : received = f.registry.dispatch
      (.system ((m.attributeValue Message.correlationKey).getD freshId)) event s := by
    rw [← m.asSystem_receivingContext]
    exact f.receive_eq_dispatch h.route htag hdecode _ s
  obtain ⟨new, hcalls, hserves, hall⟩ := EventRegistry.calls_runFrom
    (.system ((m.attributeValue Message.correlationKey).getD freshId)) event 0 handlers s
  have hslot : f.registry.slots.find? (C.tag (⟨kind, handlers⟩ : EventSlot C).kind) =
    some ⟨kind, handlers⟩ := h.slot
  rw [hreceived, EventRegistry.dispatch_of_find hslot]
  refine ⟨new, hcalls, hserves, ?_⟩
  rw [← hall]
  dsimp only
  split <;> simp_all

/-! ## The consumer of a façade -/

/-- An invocation on a delivery that has ended, with the calls that it made. -/
structure Attempt (C : Catalogue) where
  delivery : Delivery
  succeeded : Bool
  calls : List (Call C)

/-- The invocation of an attempt. -/
def Attempt.invocation (a : Attempt C) : Invocation :=
  ⟨a.delivery, a.succeeded⟩

/-- A consumer at its queue, with the session in which the handlers are called. -/
structure Relay (C : Catalogue) where
  shift : Shift
  session : Session C
  /-- The attempts that have ended, the latest last. -/
  attempts : List (Attempt C)

namespace Relay

/-- What happens next. -/
inductive Move (C : Catalogue) where
  | others (act : Act)
  /-- Something is done elsewhere, which leaves a session. -/
  | elsewhere (session : Session C)
  | begin (wait : Duration)
  | look (receipt : String)
  /-- The message in hand is given to the subscriber. -/
  | invoke
  | acknowledge

/-- The receipt that a move may give. -/
def Move.receipt? : Move C → Option String
  | others act => act.receipt?
  | look receipt => some receipt
  | _ => none

/-- Whether a move leaves the messages of a queue to its consumer. -/
def Move.spares (queue : String) : Move C → Bool
  | others act => act.spares queue
  | _ => true

/-- A consumer that was just started for the façade of an address, at open queues without
messages. -/
def start (visibility : Duration) (queue : String) (address : Nat) (s : Session C) : Relay C :=
  ⟨.start visibility queue (.facade address), s, []⟩

variable (receive : Reception C)

/-- What the subscriber makes of a delivery. -/
def answer (c : Consumer) (delivery : Delivery) : Activity C (Outcome DispatchError Unit) := do
  let ctx := delivery.message.receivingContext (← Session.draw)
  receive c.subscriber c.queue ctx delivery.message

/-- The attempt at a delivery, and the calls that it adds to the record. -/
def attempt (c : Consumer) (delivery : Delivery) (s : Session C) : Attempt C :=
  let answered := answer receive c delivery s
  ⟨delivery, (containCheck (delivery.message.typeInfo.getD "unknown") answered.1).isOk,
    answered.2.calls.drop s.calls.length⟩

/-- The message in hand is given to the subscriber, and the invocation ends. -/
def invoke (r : Relay C) (delivery : Delivery) : Relay C :=
  let answered := answer receive r.shift.consumer delivery r.session
  ⟨r.shift.invoke delivery answered.1, answered.2,
    r.attempts ++ [attempt receive r.shift.consumer delivery r.session]⟩

/-- Make a move. -/
def step (r : Relay C) : Move C → Relay C
  | .others act => { r with shift := r.shift.step (.others act) }
  | .elsewhere session => { r with session }
  | .begin wait => { r with shift := r.shift.step (.begin wait) }
  | .look receipt => { r with shift := r.shift.step (.look receipt) }
  | .invoke =>
    match r.shift.stage with
    | .handling delivery => r.invoke receive delivery
    | _ => r
  | .acknowledge => { r with shift := r.shift.step .acknowledge }

/-- Make moves one after the other. -/
def run (r : Relay C) (moves : List (Move C)) : Relay C :=
  moves.foldl (step receive) r

/-- A turn of the consumer is made of its moves: it draws a receipt and looks, the message that it
finds is given to the subscriber and deleted if that succeeds, and the next poll begins. -/
theorem turn_eq_run {r : Relay C} (hstage : r.shift.stage = .polling)
    (hrunning : r.shift.consumer.running = true) (wait : Duration) :
    let turn := r.shift.consumer.turn receive r.shift.traffic.now wait r.shift.traffic.backlog
      r.session
    let drawn := Session.draw r.session
    let r' := r.run receive
      [.elsewhere drawn.2, .look drawn.1, .invoke, .acknowledge, .begin wait]
    turn.1.consumer = r'.shift.consumer ∧ turn.1.backlog = r'.shift.traffic.backlog ∧
      turn.2.store = r'.session.store ∧ turn.2.calls = r'.session.calls := by
  obtain ⟨⟨⟨now, backlog, callers, history⟩, c, stage, invocations, emptyPolls⟩, s, attempts⟩ := r
  obtain rfl := hstage
  obtain ⟨queue, subscriber, stats, deadline, running⟩ := c
  obtain rfl : running = true := hrunning
  cases hpoll : backlog.poll now deadline queue (Session.draw s).1 with
  | closed | blocked | timedOut =>
    simp [Consumer.turn, run, step, Shift.step, Shift.look, bind_apply, map_apply, pure_apply,
      hpoll, Session.report]
  | delivered delivery backlog' =>
    cases hresult : containCheck (delivery.message.typeInfo.getD "unknown")
        (receive subscriber queue
          (delivery.message.receivingContext (Session.draw (Session.draw s).2).1)
          delivery.message (Session.draw (Session.draw s).2).2).1 <;>
      simp [Consumer.turn, Consumer.handle, run, step, invoke, answer, Shift.step, Shift.look,
        Shift.invoke, Shift.acknowledge, Traffic.note, bind_apply, map_apply, pure_apply, hpoll,
        hresult, Session.report]

/-! ## What a move does -/

/-- A move is one of the consumer at its queue, or it does nothing there. -/
theorem shift_step (r : Relay C) (move : Move C) :
    ((r.step receive move).shift = r.shift) ∨
      ∃ m : Switchboard.Move, (r.step receive move).shift = r.shift.step m ∧
        m.receipt? = move.receipt? ∧ ∀ queue, m.spares queue = move.spares queue := by
  cases move with
  | others act => exact .inr ⟨.others act, rfl, rfl, fun _ => rfl⟩
  | elsewhere session => exact .inl rfl
  | begin wait => exact .inr ⟨.begin wait, rfl, rfl, fun _ => rfl⟩
  | look receipt => exact .inr ⟨.look receipt, rfl, rfl, fun _ => rfl⟩
  | acknowledge => exact .inr ⟨.acknowledge, rfl, rfl, fun _ => rfl⟩
  | invoke =>
    simp only [step]
    split
    · rename_i delivery hstage
      refine .inr ⟨.invoke (answer receive r.shift.consumer delivery r.session).1, ?_, rfl,
        fun _ => rfl⟩
      simp only [invoke, Shift.step, hstage]
    · exact .inl rfl

/-- The consumer stays at its queue. -/
theorem queue_step (r : Relay C) (move : Move C) :
    (r.step receive move).shift.consumer.queue = r.shift.consumer.queue := by
  rcases shift_step receive r move with hsame | ⟨m, hstep, -⟩
  · rw [hsame]
  · rw [hstep, Shift.queue_step]

theorem queue_run (r : Relay C) (moves : List (Move C)) :
    (r.run receive moves).shift.consumer.queue = r.shift.consumer.queue := by
  induction moves generalizing r with
  | nil => rfl
  | cons move moves ih => exact (ih _).trans (queue_step receive r move)

/-- The attempts at a message. -/
def attemptsOn (r : Relay C) (p : Parcel) : List (Attempt C) :=
  r.attempts.filter fun a => p.receipts.contains a.delivery.receipt

end Relay

/-- An attempt at an event is one at all of its handlers, and it succeeds if all of them do. -/
def Attempt.Tries (a : Attempt C) (kind : C.Kind) (handlers : List (EventHandler (C.Value kind))) :
    Prop :=
  a.delivery.message.typeInfo = some (C.tag kind) →
    ∀ event, a.delivery.message.decode kind = some event →
      (∃ freshId, Call.ServeAll a.calls
        ((a.delivery.message.attributeValue Message.correlationKey).getD freshId) handlers event) ∧
      (a.succeeded = true ↔ ∀ call ∈ a.calls, call.succeeded = true)

namespace Relay

/-- What a consumer of a façade keeps, the receipts that were given being among some texts. -/
structure Kept (kind : C.Kind) (handlers : List (EventHandler (C.Value kind))) (address : Nat)
    (r : Relay C) (given : List String) : Prop where
  shift : r.shift.Kept given
  counted : r.shift.Counted
  traced : r.shift.traffic.Traced
  subscriber : r.shift.consumer.subscriber = .facade address
  invocations : r.shift.invocations = r.attempts.map Attempt.invocation
  tries : ∀ a ∈ r.attempts, a.Tries kind handlers
  /-- There is no other attempt after one that succeeded. -/
  failed : ∀ p ∈ r.shift.traffic.ledger, p.queue = r.shift.consumer.queue →
    ∀ a ∈ (r.attemptsOn p).dropLast, a.succeeded = false

namespace Kept

variable {facades : List (AnyFacade C)} {address : Nat} {f : EventFacade C} {kind : C.Kind}
  {handlers : List (EventHandler (C.Value kind))} {r : Relay C} {given : List String}

theorem start (visibility : Duration) (queue : String) (address : Nat) (s : Session C) :
    Kept kind handlers address (start visibility queue address s) [] where
  shift := .start visibility queue (.facade address)
  counted := .start visibility queue (.facade address)
  traced _ h := absurd h List.not_mem_nil
  subscriber := rfl
  invocations := rfl
  tries _ h := absurd h List.not_mem_nil
  failed _ h := absurd h List.not_mem_nil

/-- The receipts of all attempts were given. -/
theorem receipt_mem (h : r.Kept kind handlers address given) {a : Attempt C}
    (ha : a ∈ r.attempts) : a.delivery.receipt ∈ given := by
  have hv : a.invocation ∈ r.shift.invocations := by
    rw [h.invocations]
    exact List.mem_map_of_mem ha
  exact h.shift.receipt_mem hv

/-- A fresh receipt is that of no attempt. -/
theorem attemptsOn_eq (h : r.Kept kind handlers address given) {p p' : Parcel} {receipt : String}
    (hfresh : receipt ∉ given) (hreceipts : p'.receipts = receipt :: p.receipts) :
    r.attemptsOn p' = r.attemptsOn p := by
  refine List.filter_congr fun a ha => ?_
  have hne : a.delivery.receipt ≠ receipt := fun heq => hfresh (heq ▸ h.receipt_mem ha)
  simp [hreceipts, hne]

/-- How many attempts at a message succeeded. -/
theorem successes_eq (h : r.Kept kind handlers address given) (p : Parcel) :
    r.shift.successes p = (r.attemptsOn p).countP Attempt.succeeded := by
  rw [Shift.successes, h.invocations, List.countP_map, attemptsOn, List.countP_filter]
  rfl

/-- On the message in hand no attempt has succeeded. -/
theorem failed_of_handling (h : r.Kept kind handlers address given) {delivery : Delivery}
    (hstage : r.shift.stage = .handling delivery) {p : Parcel} (hp : p ∈ r.shift.traffic.ledger)
    (hreceipt : delivery.receipt ∈ p.receipts) : ∀ a ∈ r.attemptsOn p, a.succeeded = false := by
  have hnone := (h.shift.successes_of_handling hstage hp hreceipt).2
  rw [h.successes_eq, List.countP_eq_zero] at hnone
  exact fun a ha => Bool.eq_false_iff.mpr (hnone a ha)

/-- Every invocation is an attempt at all handlers. -/
theorem tries_attempt (hf : facades[address]? = some (.events f)) (hhears : f.Hears kind handlers)
    {c : Consumer} (hsubscriber : c.subscriber = .facade address) (delivery : Delivery)
    (s : Session C) : (attempt (Network.reception facades) c delivery s).Tries kind handlers := by
  intro htag event hdecode
  obtain ⟨new, hcalls, hserves, hall⟩ :=
    hhears.receive htag hdecode (Session.draw s).1 (Session.draw s).2
  have hanswer : ∃ received : Except DispatchError Unit × Session C,
      received = f.receive (delivery.message.receivingContext (Session.draw s).1) delivery.message
        (Session.draw s).2 ∧
      answer (Network.reception facades) c delivery s = (.returned received.1, received.2) := by
    refine ⟨_, rfl, ?_⟩
    rw [answer, bind_apply, hsubscriber]
    exact Network.reception_of_getElem? hf c.queue _ delivery.message _
  obtain ⟨⟨result, s'⟩, hreceived, hanswer⟩ := hanswer
  have hresult : result = .ok () ↔ ∀ call ∈ new, call.succeeded = true := by
    rw [← hall, show result = _ from congrArg Prod.fst hreceived]
    rfl
  have hnew : s'.calls.drop s.calls.length = new := by
    rw [show s' = _ from congrArg Prod.snd hreceived]
    exact (congrArg _ hcalls).trans List.drop_left
  have hattempt : attempt (Network.reception facades) c delivery s =
      ⟨delivery, result.isOk, new⟩ := by
    rw [attempt, hanswer, ← hnew]
    rfl
  rw [hattempt]
  refine ⟨⟨_, hserves⟩, ?_⟩
  rw [← hresult]
  cases result with
  | ok _ => simp [Except.isOk, Except.toBool]
  | error e => simp [Except.isOk, Except.toBool]

/-- An attempt at a message comes last. -/
theorem attemptsOn_invoke (receive : Reception C) (r : Relay C) (delivery : Delivery) (p : Parcel) :
    (r.invoke receive delivery).attemptsOn p = r.attemptsOn p ++
      if p.receipts.contains delivery.receipt then
        [attempt receive r.shift.consumer delivery r.session]
      else [] := by
  rw [attemptsOn, Relay.invoke, List.filter_append, List.filter_cons, List.filter_nil]
  rfl

/-- What an attempt adds. -/
theorem invoke (hf : facades[address]? = some (.events f)) (hhears : f.Hears kind handlers)
    (h : r.Kept kind handlers address given) {delivery : Delivery}
    (hstage : r.shift.stage = .handling delivery) :
    (r.invoke (Network.reception facades) delivery).Kept kind handlers address given := by
  have htraffic : ∀ outcome, (r.shift.invoke delivery outcome).traffic = r.shift.traffic := by
    intro outcome
    unfold Shift.invoke
    split <;> rfl
  have hconsumer := r.shift.post_step
    (.invoke (answer (Network.reception facades) r.shift.consumer delivery r.session).1)
  simp only [Shift.step, hstage] at hconsumer
  refine ⟨h.shift.invoke hstage _, h.counted.invoke hstage _, ?_, ?_, ?_, ?_, ?_⟩
  · rw [Relay.invoke, htraffic]
    exact h.traced
  · exact hconsumer.2.trans h.subscriber
  · simp only [Relay.invoke, Shift.invocations_invoke, List.map_append, ← h.invocations,
      List.map_singleton, Attempt.invocation, attempt, Shift.isOk_containCheck]
  · intro a ha
    rcases List.mem_append.mp ha with hold | hnew
    · exact h.tries a hold
    · obtain rfl := List.mem_singleton.mp hnew
      exact tries_attempt hf hhears h.subscriber delivery r.session
  · intro p hp hqueue a ha
    rw [Relay.invoke, htraffic] at hp
    have hqueue' : p.queue = r.shift.consumer.queue := hqueue.trans hconsumer.1
    rw [attemptsOn_invoke] at ha
    split at ha
    · rename_i hreceipt
      rw [List.dropLast_concat] at ha
      exact h.failed_of_handling hstage hp (by simpa using hreceipt) a ha
    · rw [List.append_nil] at ha
      exact h.failed p hp hqueue' a ha

/-- More receipts may have been given. -/
theorem grow (h : r.Kept kind handlers address given) (fresh : List String) :
    r.Kept kind handlers address (given ++ fresh) :=
  { h with shift := h.shift.grow fresh }

/-- What a move keeps that is no attempt, whatever is done in the session. -/
theorem others (h : r.Kept kind handlers address given) {m : Switchboard.Move}
    (hspares : m.spares r.shift.consumer.queue = true)
    (hfresh : ∀ receipt, m.receipt? = some receipt → receipt ∉ given) (s : Session C)
    (hinvoke : ∀ outcome, m ≠ .invoke outcome) :
    Kept kind handlers address ⟨r.shift.step m, s, r.attempts⟩ (given ++ m.receipt?.toList) where
  shift := h.shift.step m hspares hfresh
  counted := h.counted.step m
  traced := h.shift.traced_step h.traced m hfresh
  subscriber := (r.shift.post_step m).2.trans h.subscriber
  invocations := (r.shift.invocations_step_of_ne hinvoke).trans h.invocations
  tries := h.tries
  failed p' hp' hqueue a ha := by
    change a ∈ (r.attemptsOn p').dropLast at ha
    rw [Shift.queue_step] at hqueue
    rcases Shift.mem_ledger_step hp' with hnone | ⟨p, hp, hpqueue, hsame | ⟨receipt, hgives, hnew⟩⟩
    · simp [attemptsOn, hnone] at ha
    · rw [attemptsOn, hsame] at ha
      exact h.failed p hp (hpqueue ▸ hqueue) a ha
    · rw [h.attemptsOn_eq (hfresh receipt hgives) hnew] at ha
      exact h.failed p hp (hpqueue ▸ hqueue) a ha

/-- Every move keeps what is to be kept, as long as the others spare the queue and no receipt is
given twice. -/
theorem step (hf : facades[address]? = some (.events f)) (hhears : f.Hears kind handlers)
    (h : r.Kept kind handlers address given) (move : Move C)
    (hspares : move.spares r.shift.consumer.queue = true)
    (hfresh : ∀ receipt, move.receipt? = some receipt → receipt ∉ given) :
    (r.step (Network.reception facades) move).Kept kind handlers address
      (given ++ move.receipt?.toList) := by
  cases move with
  | others act => exact h.others (m := .others act) hspares hfresh r.session nofun
  | begin wait => exact h.others (m := .begin wait) rfl hfresh r.session nofun
  | look receipt => exact h.others (m := .look receipt) rfl hfresh r.session nofun
  | acknowledge => exact h.others (m := .acknowledge) rfl hfresh r.session nofun
  | elsewhere session =>
    have hsame : Kept kind handlers address ⟨r.shift, session, r.attempts⟩ given :=
      ⟨h.shift, h.counted, h.traced, h.subscriber, h.invocations, h.tries, h.failed⟩
    exact hsame.grow _
  | invoke =>
    simp only [Relay.step]
    split
    · exact (h.invoke hf hhears ‹_›).grow _
    · exact h.grow _

end Kept

/-! ## Runs -/

variable {facades : List (AnyFacade C)} {address : Nat} {f : EventFacade C} {kind : C.Kind}
  {handlers : List (EventHandler (C.Value kind))} {r : Relay C} {given : List String}

/-- Every run keeps what is to be kept, as long as the others spare the queue and no receipt is
given twice. -/
theorem run_kept (hf : facades[address]? = some (.events f)) (hhears : f.Hears kind handlers)
    (h : r.Kept kind handlers address given) (moves : List (Move C))
    (hspares : ∀ move ∈ moves, move.spares r.shift.consumer.queue = true)
    (hfresh : (given ++ moves.filterMap Move.receipt?).Nodup) :
    (r.run (Network.reception facades) moves).Kept kind handlers address
      (given ++ moves.filterMap Move.receipt?) := by
  induction moves generalizing r given with
  | nil => simpa [run] using h
  | cons move moves ih =>
    have hsplit : given ++ (move :: moves).filterMap Move.receipt? =
        (given ++ move.receipt?.toList) ++ moves.filterMap Move.receipt? := by
      cases hmove : move.receipt? <;> simp [hmove]
    rw [hsplit] at hfresh ⊢
    refine ih (h.step hf hhears move (hspares move List.mem_cons_self)
      fun receipt hmove hgiven => ?_) (fun later hlater => ?_) hfresh
    · have hbefore := List.nodup_append.mp (List.nodup_append.mp hfresh).1
      exact hbefore.2.2 receipt hgiven receipt (by simp [hmove]) rfl
    · rw [queue_step]
      exact hspares later (List.mem_cons_of_mem _ hlater)

/-- What may become of a message in a run. -/
theorem becomes_run (receive : Reception C) (moves : List (Move C)) {i : Nat} {p : Parcel}
    (hp : r.shift.traffic.ledger[i]? = some p) :
    ∃ p', (r.run receive moves).shift.traffic.ledger[i]? = some p' ∧ p.Becomes p' := by
  induction moves generalizing r p with
  | nil => exact ⟨p, hp, .refl p⟩
  | cons move moves ih =>
    have hstep : ∃ p', (r.step receive move).shift.traffic.ledger[i]? = some p' ∧ p.Becomes p' := by
      rcases shift_step receive r move with hsame | ⟨m, hstep, -⟩
      · exact ⟨p, hsame ▸ hp, .refl p⟩
      · rw [hstep]
        exact r.shift.becomes_step m hp
    obtain ⟨p', hp', hbecomes⟩ := hstep
    obtain ⟨p'', hp'', hbecomes'⟩ := ih hp'
    exact ⟨p'', hp'', hbecomes.trans hbecomes'⟩

/-! ## Events that are tried again -/

/-- What becomes of a message that holds an event with some handlers, the consumer being the only
one who receives from its queue. -/
structure Retries (facades : List (AnyFacade C)) (r : Relay C) {kind : C.Kind}
    (handlers : List (EventHandler (C.Value kind))) (i : Nat) (p : Parcel) (event : C.Value kind)
    (correlation : Option String) : Prop where
  /-- Each delivery has its attempt, in the order of the deliveries; only the one that is under way
  has not ended yet. -/
  attempts : (r.attemptsOn p).map (fun a => a.delivery.receipt) ++
    (r.shift.inHand.filter fun d => p.receipts.contains d.receipt).map Delivery.receipt =
      p.receipts.reverse
  /-- An attempt calls every handler once, in the order of registration, for the system and in the
  chain of work that the publisher named. -/
  serves : ∀ a ∈ r.attemptsOn p, ∃ correlationId, (∀ id ∈ correlation, correlationId = id) ∧
    Call.ServeAll a.calls correlationId handlers event
  /-- So after some attempts every handler was called as often as there were attempts. -/
  calls : ∀ callee, ((r.attemptsOn p).flatMap Attempt.calls).countP (fun c => c.callee == callee) =
    (r.attemptsOn p).length * handlers.countP fun h => h.callee == callee
  /-- The message is removed, or is about to be, exactly if all calls of an attempt succeeded. -/
  removed_iff : p.removed = true ∨ r.shift.acknowledges p = true ↔
    ∃ a ∈ r.attemptsOn p, ∀ call ∈ a.calls, call.succeeded = true
  /-- That attempt is the last one: in each one before it some call failed. -/
  failed : ∀ a ∈ (r.attemptsOn p).dropLast, ∃ call ∈ a.calls, call.succeeded = false
  /-- When the message is removed, all of its deliveries had their attempts. -/
  complete : p.removed = true → (r.attemptsOn p).length = p.deliveries.length
  /-- A message that was removed is never handed out again. -/
  gone : p.removed = true → ∀ moves,
    (r.run (Network.reception facades) moves).shift.traffic.ledger[i]? = some p

namespace Kept

variable {p : Parcel}

/-- The trace of a message are its attempts, and what is in hand of it. -/
theorem trace_eq (h : r.Kept kind handlers address given)
    (hqueue : p.queue = r.shift.consumer.queue) :
    p.trace r.shift.traffic.history = (r.attemptsOn p).map Attempt.delivery ++
      r.shift.inHand.filter fun d => p.receipts.contains d.receipt := by
  rw [Parcel.trace, hqueue, h.shift.invoked, h.invocations, List.map_map, List.filter_append,
    List.filter_map]
  rfl

/-- Every delivery of a message is that of an attempt or in hand, in the order of the deliveries. -/
theorem receipts_eq (h : r.Kept kind handlers address given) (hp : p ∈ r.shift.traffic.ledger)
    (hqueue : p.queue = r.shift.consumer.queue) :
    (r.attemptsOn p).map (fun a => a.delivery.receipt) ++
      (r.shift.inHand.filter fun d => p.receipts.contains d.receipt).map Delivery.receipt =
        p.receipts.reverse := by
  have hreceipts := (h.traced p hp).receipts
  rw [h.trace_eq hqueue, List.map_append, List.map_map] at hreceipts
  exact hreceipts

/-- A message that was removed is not in hand. -/
theorem inHand_of_removed (h : r.Kept kind handlers address given)
    (hp : p ∈ r.shift.traffic.ledger) (hremoved : p.removed = true) :
    (r.shift.inHand.filter fun d => p.receipts.contains d.receipt) = [] := by
  rw [List.filter_eq_nil_iff]
  intro d hd hreceipt
  have hstage : r.shift.stage = .handling d := by
    unfold Shift.inHand at hd
    split at hd
    · rename_i hstage
      rw [hstage, List.mem_singleton.mp hd]
    · cases hd
  have hkept := (h.shift.successes_of_handling hstage hp (by simpa using hreceipt)).1
  rw [hremoved] at hkept
  cases hkept

/-- A message is removed, or is about to be, exactly if an attempt at it succeeded. -/
theorem removed_iff (h : r.Kept kind handlers address given) (hp : p ∈ r.shift.traffic.ledger)
    (hqueue : p.queue = r.shift.consumer.queue) :
    p.removed = true ∨ r.shift.acknowledges p = true ↔
      ∃ a ∈ r.attemptsOn p, a.succeeded = true := by
  have hsettled := h.shift.settled p hp hqueue
  rw [h.successes_eq] at hsettled
  rw [← List.countP_pos_iff, hsettled]
  cases p.removed <;> cases r.shift.acknowledges p <;> simp

/-- Each attempt at an event is one at all of its handlers. -/
theorem tries_on (h : r.Kept kind handlers address given) (hp : p ∈ r.shift.traffic.ledger)
    (hqueue : p.queue = r.shift.consumer.queue)
    (htag : p.message.typeInfo = some (C.tag kind)) {event : C.Value kind}
    (hdecode : p.message.decode kind = some event) {a : Attempt C} (ha : a ∈ r.attemptsOn p) :
    (∃ freshId, Call.ServeAll a.calls
      ((p.message.attributeValue Message.correlationKey).getD freshId) handlers event) ∧
      (a.succeeded = true ↔ ∀ call ∈ a.calls, call.succeeded = true) := by
  have hmessage : a.delivery.message = p.message := by
    refine (h.traced p hp).message a.delivery ?_
    rw [h.trace_eq hqueue]
    exact List.mem_append_left _ (List.mem_map_of_mem ha)
  have htries := h.tries a (List.mem_of_mem_filter ha)
  rw [Attempt.Tries, hmessage] at htries
  exact htries htag event hdecode

end Kept

/-- If every attempt calls all handlers, then all attempts call each of them as often as there are
attempts. -/
theorem countP_attempts {attempts : List (Attempt C)} {event : C.Value kind}
    (hserves : ∀ a ∈ attempts, ∃ correlationId,
      Call.ServeAll a.calls correlationId handlers event) (callee : Nat) :
    (attempts.flatMap Attempt.calls).countP (fun c => c.callee == callee) =
      attempts.length * handlers.countP fun h => h.callee == callee := by
  have heach : ∀ a ∈ attempts,
      ((List.countP fun c : Call C => c.callee == callee) ∘ Attempt.calls) a =
        handlers.countP fun h => h.callee == callee := by
    intro a ha
    obtain ⟨correlationId, hserve⟩ := hserves a ha
    exact hserve.countP_callee callee
  rw [List.countP_flatMap, List.map_congr_left heach, List.map_const', List.sum_replicate_nat]

/-- What the invariants say about an event. -/
theorem retries_of_kept (h : r.Kept kind handlers address given) {i : Nat} {p : Parcel}
    (hp : r.shift.traffic.ledger[i]? = some p) (hqueue : p.queue = r.shift.consumer.queue)
    (htag : p.message.typeInfo = some (C.tag kind)) {event : C.Value kind}
    (hdecode : p.message.decode kind = some event) :
    r.Retries facades handlers i p event (p.message.attributeValue Message.correlationKey) := by
  have hmem := List.mem_of_getElem? hp
  have htries : ∀ a ∈ r.attemptsOn p, _ := fun a ha => h.tries_on hmem hqueue htag hdecode ha
  refine ⟨h.receipts_eq hmem hqueue, fun a ha => ?_, ?_, ?_, fun a ha => ?_, fun hremoved => ?_,
    fun hremoved moves => ?_⟩
  · obtain ⟨⟨freshId, hserve⟩, -⟩ := htries a ha
    refine ⟨_, fun id hid => ?_, hserve⟩
    rw [Option.mem_def.mp hid]
    rfl
  · exact countP_attempts fun a ha => (htries a ha).1.imp' _ fun _ hserve => hserve
  · rw [h.removed_iff hmem hqueue]
    exact exists_congr fun a => and_congr_right fun ha => (htries a ha).2
  · have hnone : ¬ ∀ call ∈ a.calls, call.succeeded = true := by
      rw [← (htries a (List.dropLast_subset _ ha)).2, h.failed p hmem hqueue a ha]
      exact Bool.false_ne_true
    simpa using hnone
  · have hreceipts := h.receipts_eq hmem hqueue
    rw [h.inHand_of_removed hmem hremoved] at hreceipts
    simpa [Parcel.receipts] using congrArg List.length hreceipts
  · obtain ⟨p', hp', hbecomes⟩ := becomes_run (Network.reception facades) moves hp
    rw [hp', hbecomes.removed hremoved]

/-- An event that is published without another tag written over its own, and that can be read where
it is received, is tried as a whole until one attempt succeeds as a whole: in every run of the
consumer of a façade to whom the others leave its queue, and in which no receipt is given twice. -/
theorem run_retries (hf : facades[address]? = some (.events f)) (hhears : f.Hears kind handlers)
    (visibility : Duration) (queue : String) (s : Session C) (moves : List (Move C))
    (hspares : ∀ move ∈ moves, move.spares queue = true)
    (hfresh : (moves.filterMap Move.receipt?).Nodup) :
    let r := (start visibility queue address s).run (Network.reception facades) moves
    r.shift.AtLeastOnce ∧
      ∀ (i : Nat) (p : Parcel), r.shift.traffic.ledger[i]? = some p → p.queue = queue →
        ∀ (id : String) (ctx : Context) (published received : C.Value kind),
          Facade.compose id ctx published none = .ok p.message → C.KeepsTag published →
            p.message.decode kind = some received →
              r.Retries facades handlers i p received
                (ctx.correlationId.or (C.written published Message.correlationKey)) := by
  intro r
  have hkept := run_kept hf hhears (Kept.start visibility queue address s) moves hspares
    (by simpa using hfresh)
  have hqueue : r.shift.consumer.queue = queue := queue_run ..
  refine ⟨Shift.atLeastOnce_of_kept hkept.shift hkept.counted, ?_⟩
  intro i p hp hpqueue id ctx published received hcompose hkeeps hdecode
  have htag := Facade.typeInfo_compose hcompose
  rw [C.keepsTag_iff.mp hkeeps] at htag
  rw [← Facade.correlation_compose hcompose]
  exact retries_of_kept hkept hp (hpqueue.trans hqueue.symm) htag hdecode

end Relay

namespace Sample

/-- Panics at the first shape that it is given. -/
def shapeSkeptic : EventHandler (nameless.Value .shape) :=
  ⟨4, "skeptic", .withContext fun n _ _ => if n = 0 then .panicked .wordless else .ok ()⟩

/-- The handlers of shapes, one of which fails at first. -/
def shapeHandlers : List (EventHandler (nameless.Value .shape)) :=
  [shapeWatcher, shapeSkeptic]

/-- A façade for events takes them in. -/
def skeptical : Network nameless Broker :=
  let n : Network nameless Broker := .start [.events "app" (.perType "app")] 0 5 (.start ⟨[], []⟩ 0)
  n.performAll (shapeHandlers.map fun handler => .enlist (.event 0 .shape handler))

/-- A shape that is published in a chain of work. -/
def chainedShape : Message :=
  shapeMessage.withAttribute Message.correlationKey "chain"

/-- The shape is sent, and the consumer tries it twice. -/
def twoDeliveries : List (Relay.Move nameless) :=
  [.others (.send "app-shape" chainedShape), .begin 5, .look "r1", .invoke, .begin 5,
    .others (.pass 40), .look "r2", .invoke, .acknowledge]

end Sample

namespace Relay

/-- A shape of which one handler panics at first is given to both handlers twice. -/
theorem run_retries_twice :
    let facades := Sample.skeptical.facades
    let s : Session Sample.nameless := .start ⟨[], []⟩ 0
    let r := (start 40 "app-shape" 0 s).run (Network.reception facades) Sample.twoDeliveries
    (∃ f, facades[0]? = some (.events f) ∧ f.Hears .shape Sample.shapeHandlers) ∧
    (∀ move ∈ Sample.twoDeliveries, move.spares "app-shape" = true) ∧
    (Sample.twoDeliveries.filterMap Move.receipt?).Nodup ∧
    r.shift.AtLeastOnce ∧ ∃ p, r.shift.traffic.ledger[0]? = some p ∧ p.removed = true ∧
      (r.attemptsOn p).map (fun a => a.calls.map Call.succeeded) = [[true, false], [true, true]] ∧
      r.Retries facades Sample.shapeHandlers 0 p Sample.Shape.blank (some "chain") := by
  intro facades s r
  have hspares : ∀ move ∈ Sample.twoDeliveries, move.spares "app-shape" = true := by decide
  have hfresh : (Sample.twoDeliveries.filterMap Move.receipt?).Nodup := by decide
  obtain ⟨f, hf, hhears⟩ : ∃ f, facades[0]? = some (.events f) ∧
      f.Hears .shape Sample.shapeHandlers := by
    let n : Network Sample.nameless Broker := .start [.events "app" (.perType "app")] 0 5 s
    let deeds : List (Deed Sample.nameless) :=
      Sample.shapeHandlers.map fun handler => .enlist (.event 0 .shape handler)
    have hgrants : n.GrantsAll deeds :=
      ⟨fun e he => Option.some_inj.mp he ▸ rfl, fun e he => Option.some_inj.mp he ▸ rfl, trivial⟩
    have hholds := ((Network.Staffed.start _ 0 5 s).performAll hgrants).orderly.holds 0
    obtain ⟨f, hf⟩ : ∃ f, facades[0]? = some (.events f) := ⟨_, rfl⟩
    exact ⟨f, hf, EventFacade.hears_of_holds (hholds _ hf) (by simp [Sample.shapeHandlers]) rfl⟩
  obtain ⟨hshift, hall⟩ :=
    run_retries hf hhears 40 "app-shape" s Sample.twoDeliveries hspares hfresh
  refine ⟨⟨f, hf, hhears⟩, hspares, hfresh, hshift, ?_⟩
  have hlast : r.shift.traffic.ledger[0]?.map
      (fun p => (p.queue, p.message, p.removed, p.receipts)) =
        some ("app-shape", Sample.chainedShape, true, ["r2", "r1"]) := by decide +kernel
  have hcalls : (r.attempts.filter fun a => ["r2", "r1"].contains a.delivery.receipt).map
      (fun a => a.calls.map Call.succeeded) = [[true, false], [true, true]] := by decide +kernel
  obtain ⟨p, hp, hfacts⟩ := Option.map_eq_some_iff.mp hlast
  obtain ⟨hqueue, hmessage, hremoved, hreceipts⟩ := by simpa only [Prod.mk.injEq] using hfacts
  refine ⟨p, hp, hremoved, by rw [attemptsOn, hreceipts]; exact hcalls, ?_⟩
  refine hall 0 p hp hqueue "1" (Context.blank.withCorrelation "chain") Sample.Shape.blank
    Sample.Shape.blank ?_ nofun ?_
  · rw [hmessage]
    rfl
  · rw [hmessage]
    decide +kernel

end Relay
end Switchboard
