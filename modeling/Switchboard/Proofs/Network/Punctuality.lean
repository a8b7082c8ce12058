import Switchboard.Proofs.Facade.Draining
import Switchboard.Proofs.Network.Attendance

/-!
# Messages that wait for their handlers

A consumer is started with the first handler of its façade, and passes over what it does not know.
So of the messages that wait at a shared queue, those are handled whose handlers were taken in
before the consumer came to them.  The invariant is that the network does what the attendance of the
queue tells, step by step.

Main results:

- Theorem {lit}`Network.Attended.perform`: one step of a network is one step of its attendance.
- Theorem {lit}`Network.Attended.work`: a network drains its queue as its attendance does.
- Theorem {lit}`Network.handled_iff_punctual`: which messages were handled in the end, and when
  the order in which handlers are taken in does not matter.
-/

namespace Switchboard

variable {C : Catalogue}

/-! ## What is given -/

/-- Those who are given a message are the handlers of its tag. -/
theorem AnyFacade.Holds.filterMap_given? {f : AnyFacade C} {address : Nat}
    {known : List (Enlistment C)} (h : f.Holds address known)
    (hplace : ∀ e ∈ known, e.address = address) {e : Enlistment C} {m : Message}
    (htakes : e.Takes m) :
    known.filterMap (·.given? m) = (f.roster e.tag).filterMap (·.given? m) := by
  rw [h.roster, List.filterMap_filter]
  refine List.filterMap_congr fun e' he' => ?_
  split
  · rfl
  · rename_i hother
    refine if_neg fun htakes' => hother ?_
    have hsame : some e.tag = some e'.tag := htakes.symm.trans htakes'
    simp [hplace e' he', Option.some_inj.mp hsame]

/-- If no handler ever fails and all can read what they take, a message is handled and given to
those who take it. -/
theorem AnyFacade.Holds.given_receive {f : AnyFacade C} {address : Nat}
    {known : List (Enlistment C)} (h : f.Holds address known)
    (hplace : ∀ e ∈ known, e.address = address) (hnever : ∀ e ∈ known, e.NeverFails) {m : Message}
    (hreadable : ∀ e ∈ known, e.Takes m → (m.decode e.kind).isSome = true) (ctx : Context)
    (s : Session C) :
    (f.receive ctx m s).1 = .ok () ∧
      (f.receive ctx m s).2.calls.filterMap Call.served? =
        s.calls.filterMap Call.served? ++ known.filterMap (·.given? m) := by
  by_cases hsome : ∃ e ∈ known, e.Takes m
  · obtain ⟨e, hmem, htakes⟩ := hsome
    obtain ⟨payload, hdecode⟩ := Option.isSome_iff_exists.mp (hreadable e hmem htakes)
    obtain ⟨new, -, hcalls, hhandled⟩ :=
      h.receive_of_mem hmem (hplace e hmem) htakes hdecode ctx s
    have hroster : e ∈ f.roster e.tag := h.mem_roster.mpr ⟨hmem, hplace e hmem, rfl⟩
    obtain ⟨hok, hserved⟩ := hhandled fun e' he' => hnever e' (h.mem_roster.mp he').1
    refine ⟨hok, ?_⟩
    rw [hcalls, List.filterMap_append, hserved, h.filterMap_given? hplace htakes,
      ← List.filterMap_eq_map']
    refine congrArg _ (List.filterMap_congr fun e' he' => ?_)
    have htag : e'.tag = e.tag := (h.mem_roster.mp he').2.2
    refine (Enlistment.given?_of_takes ?_ (kind_of_mem_roster he' hroster) hdecode).symm
    rw [Enlistment.Takes, htag]
    exact htakes
  · have hnone : ∀ e ∈ known, ¬ e.Takes m := fun e hmem htakes => hsome ⟨e, hmem, htakes⟩
    obtain ⟨hok, hcalls⟩ := h.receive_of_stranger (fun e hmem _ => hnone e hmem) ctx s
    have hgiven : known.filterMap (·.given? m) = [] :=
      List.filterMap_eq_nil_iff.mpr fun e hmem => if_neg (hnone e hmem)
    refine ⟨hok, ?_⟩
    rw [hcalls, hgiven, List.append_nil]

/-! ## Networks that are attended -/

/-- A consumer at work at a queue, for the façade at the first address. -/
structure Consumer.Attends (c : Consumer) (queue : String) : Prop where
  queue : c.queue = queue
  subscriber : c.subscriber = .facade 0
  running : c.running = true

namespace Network

/-- A network with a single façade, all of whose payloads go to one queue, does what the attendance
of that queue tells. -/
structure Attended (naming : QueueNaming) (queue : String) (s : Session C) (n : Network C Broker)
    (a : Attendance C) : Prop where
  orderly : n.Orderly a.known
  alone : ∃ f, n.facades = [f] ∧ ∀ tag, f.outline.queueName tag = naming.queueName tag
  place : ∀ e ∈ a.known, e.address = 0
  shared : ∀ e ∈ a.known, naming.queueName e.tag = queue
  receivers : n.exchange.transport.receivers = []
  /-- There is a consumer, unless there are no handlers. -/
  consumer : (a.known = [] ∧ n.exchange.transport.consumers = []) ∨
    a.known ≠ [] ∧ ∃ c, n.exchange.transport.consumers = [c] ∧ c.Attends queue
  waiting : (n.exchange.transport.backlog.waiting queue).map Waiting.message = a.pending
  fresh : ∀ w ∈ n.exchange.transport.backlog.waiting queue, w.Fresh n.exchange.transport.now
  given : n.exchange.session.calls.filterMap Call.served? =
    s.calls.filterMap Call.served? ++ a.given

namespace Attended

variable {naming : QueueNaming} {queue : String} {s : Session C} {n : Network C Broker}
  {a : Attendance C}

theorem start (setup : Setup) (queue : String) (visibility waitTime : Duration) (s : Session C) :
    Attended setup.naming queue s (start [setup] visibility waitTime s) .start where
  orderly := .start [setup] visibility waitTime s
  alone := ⟨_, rfl, AnyFacade.queueName_start 0 setup⟩
  place := List.forall_mem_nil _
  shared := List.forall_mem_nil _
  receivers := rfl
  consumer := .inl ⟨rfl, rfl⟩
  waiting := rfl
  fresh := List.forall_mem_nil _
  given := (List.append_nil _).symm

/-- The façade has subscribed to the queue as soon as it has a handler. -/
theorem subscribed_iff (h : n.Attended naming queue s a) {f : AnyFacade C}
    (hf : n.facades[0]? = some f) (hqueue : ∀ tag, f.outline.queueName tag = naming.queueName tag) :
    f.outline.subscribed.contains queue = true ↔ a.known ≠ [] := by
  rw [(h.orderly.holds 0 f hf).subscribed]
  constructor
  · rintro ⟨e, hmem, -⟩
    exact List.ne_nil_of_mem hmem
  · intro hsome
    obtain ⟨e, hmem⟩ := List.exists_mem_of_ne_nil _ hsome
    exact ⟨e, hmem, h.place e hmem, (hqueue e.tag).trans (h.shared e hmem)⟩

/-- For a handler that is taken in, there is one consumer at the queue, be it a new one. -/
theorem consumer_staff (h : n.Attended naming queue s a) {f : AnyFacade C}
    (hf : n.facades[0]? = some f) (hqueue : ∀ tag, f.outline.queueName tag = naming.queueName tag) :
    ∃ c, (f.outline.staff queue n.exchange.transport).consumers = [c] ∧ c.Attends queue := by
  rcases h.consumer with ⟨hknown, hnone⟩ | ⟨hknown, c, hc, hattends⟩
  · have hunsubscribed : ¬ f.outline.subscribed.contains queue = true := fun hcontains =>
      (h.subscribed_iff hf hqueue).mp hcontains hknown
    refine ⟨.start queue (.facade f.outline.address) n.exchange.transport.now
      n.exchange.transport.waitTime, ?_, rfl,
      congrArg Subscriber.facade (h.orderly.holds 0 f hf).located, rfl⟩
    rw [Facade.staff, if_neg hunsubscribed, hnone]
    rfl
  · refine ⟨c, ?_, hattends⟩
    rw [Facade.staff, if_pos ((h.subscribed_iff hf hqueue).mpr hknown)]
    exact hc

/-- With the first handler that is taken in, the consumer is started. -/
theorem enlist (h : n.Attended naming queue s a) {e : Enlistment C}
    (hgrants : n.Grants (.enlist e)) (hgoes : naming.queueName e.tag = queue) :
    (n.perform (.enlist e)).Attended naming queue s (a.step queue (.enlist e)) := by
  have horderly := h.orderly.perform hgrants
  obtain ⟨f, hfacades, hqueue⟩ := h.alone
  obtain ⟨g, g', log, hg, hjoins, hn⟩ := enlist_of_ok h.orderly.opened (hgrants e rfl)
  have haddress : e.address = 0 := by
    rw [hfacades] at hg
    exact Nat.lt_one_iff.mp (List.getElem?_eq_some_iff.mp hg).1
  rw [haddress] at hg
  have hsame : g = f := by
    rw [hfacades] at hg
    exact (Option.some_inj.mp hg).symm
  subst hsame
  have hconsumer := h.consumer_staff hg hqueue
  rw [hqueue, hgoes] at hn
  rw [perform] at horderly ⊢
  rw [hn] at horderly ⊢
  refine ⟨horderly, ⟨g', ?_, fun tag => ?_⟩, ?_, ?_, ?_, .inr ⟨?_, hconsumer⟩, ?_, ?_, h.given⟩
  · rw [hfacades, haddress]
    rfl
  · rw [hjoins.outline_eq]
    exact (Facade.queueName_takeIn ..).trans (hqueue tag)
  · exact List.forall_mem_append.mpr ⟨h.place, List.forall_mem_singleton.mpr haddress⟩
  · exact List.forall_mem_append.mpr ⟨h.shared, List.forall_mem_singleton.mpr hgoes⟩
  · rw [Facade.receivers_staff]
    exact h.receivers
  · exact List.append_ne_nil_of_right_ne_nil _ (List.cons_ne_nil _ _)
  · rw [Facade.backlog_staff]
    exact h.waiting
  · rw [Facade.backlog_staff, Facade.now_staff]
    exact h.fresh

/-- A message that is sent to the queue waits there behind the others. -/
theorem send (h : n.Attended naming queue s a) (other : String) (m : Message) :
    (n.perform (.send other m)).Attended naming queue s (a.step queue (.send other m)) := by
  have horderly := h.orderly.perform (d := .send other m) nofun
  obtain ⟨backlog, hsend, hn⟩ := perform_send h.orderly.opened other m
  rw [Deed.enlistment?, Option.toList_none, List.append_nil] at horderly
  rw [hn] at horderly ⊢
  by_cases hqueue : other = queue
  · subst hqueue
    have hstep : a.step other (.send other m) = { a with pending := a.pending ++ [m] } := if_pos rfl
    rw [hstep]
    refine ⟨horderly, h.alone, h.place, h.shared, h.receivers, h.consumer, ?_, ?_, h.given⟩
    · rw [Backlog.waiting_send hsend, List.map_append, h.waiting]
      rfl
    · rw [Backlog.waiting_send hsend]
      exact List.forall_mem_append.mpr
        ⟨h.fresh, List.forall_mem_singleton.mpr (Waiting.fresh_sent m _)⟩
  · have hstep : a.step queue (.send other m) = a := if_neg hqueue
    have hwaiting := Backlog.waiting_send_of_ne hsend (Ne.symm hqueue)
    rw [hstep]
    refine ⟨horderly, h.alone, h.place, h.shared, h.receivers, h.consumer, ?_, ?_, h.given⟩
    · rw [hwaiting]
      exact h.waiting
    · rw [hwaiting]
      exact h.fresh

/-- What waits stays as it is while time passes. -/
theorem pass (h : n.Attended naming queue s a) (duration : Duration) :
    (n.perform (.pass duration)).Attended naming queue s (a.step queue (.pass duration)) where
  __ := h
  orderly := ⟨h.orderly.opened, h.orderly.holds⟩
  fresh w hw := (h.fresh w hw).later duration

/-- A round finds nothing to do if nothing waits or if nobody is there. -/
theorem round_idle (h : n.Attended naming queue s a) (hidle : a.known = [] ∨ a.pending = []) :
    n.round.2 = false ∧ n.round.1.Attended naming queue s a := by
  rcases h.consumer with ⟨hknown, hnone⟩ | ⟨hknown, c, hc, hattends⟩
  · rw [round, Broker.round_deserted hnone h.receivers]
    exact ⟨rfl, h⟩
  · have hempty : n.exchange.transport.backlog.waiting c.queue = [] := by
      rw [hattends.queue]
      refine List.map_eq_nil_iff.mp (h.waiting.trans ?_)
      exact hidle.resolve_left hknown
    obtain ⟨c', hc', hturn⟩ := Consumer.turn_of_empty (reception n.facades)
      n.exchange.transport.now n.exchange.transport.waitTime hattends.running h.orderly.opened
      hempty { n.exchange.session with background := true }
    have hattends' : c'.Attends queue := by
      rcases hc' with rfl | rfl
      · exact hattends
      · exact { hattends with }
    rw [round, Broker.round_alone hc h.receivers]
    simp only [Session.inBackground, hturn]
    exact ⟨trivial, { h with
      orderly := ⟨h.orderly.opened, h.orderly.holds⟩
      consumer := .inr ⟨hknown, c', rfl, hattends'⟩ }⟩

/-- A round at which the consumer comes to a message. -/
theorem round_next (h : n.Attended naming queue s a) (hknown : a.known ≠ []) {m : Message}
    {pending : List Message} (hpending : a.pending = m :: pending)
    (hnever : ∀ e ∈ a.known, e.NeverFails)
    (hreadable : ∀ e ∈ a.known, e.Takes m → (m.decode e.kind).isSome = true) :
    n.round.2 = true ∧ n.round.1.Attended naming queue s a.come := by
  obtain ⟨f, hfacades, hqueue⟩ := h.alone
  obtain ⟨c, hc, hattends⟩ := (h.consumer.resolve_left fun hnone => hknown hnone.1).2
  have hf : n.facades[0]? = some f := by rw [hfacades]; rfl
  have hholds := h.orderly.holds 0 f hf
  have hwaiting := h.waiting
  rw [hpending] at hwaiting
  obtain ⟨w, rest, hqueued, hmessage, hrest⟩ := List.map_eq_cons_iff.mp hwaiting
  have hfresh := h.fresh
  rw [hqueued] at hfresh
  obtain ⟨hvisible, hlater⟩ := List.forall_mem_cons.mp hfresh
  rw [← hattends.queue] at hqueued
  obtain ⟨hmoved, hcalls, -, hhandled⟩ := Consumer.turn_of_visible (reception n.facades)
    n.exchange.transport.waitTime hattends.running h.orderly.opened hqueued hvisible.isVisible
    (fun v hv => (hlater v hv).never) { n.exchange.session with background := true }
  obtain ⟨hok, hgiven⟩ := hholds.given_receive h.place hnever hreadable
    (m.receivingContext (Uuid.random (n.exchange.session.nextId + 1)).text)
    { n.exchange.session with nextId := n.exchange.session.nextId + 1 + 1, background := true }
  rw [hmessage, hattends.subscriber] at hcalls hhandled
  simp only [reception_of_getElem? hf, hok, forall_const] at hcalls hhandled
  obtain ⟨hconsumer, hopened, hleft⟩ := hhandled
  rw [hattends.queue] at hleft
  rw [round, Broker.round_alone hc h.receivers, Attendance.come_of_cons hknown hpending]
  refine ⟨hmoved, ⟨hopened, h.orderly.holds⟩, h.alone, h.place, h.shared, h.receivers,
    .inr ⟨hknown, _, rfl, ?_⟩, ?_, ?_, ?_⟩
  · have hattends' : (c.countHandled.beginPoll n.exchange.transport.now
        n.exchange.transport.waitTime).Attends queue := { hattends with }
    exact hconsumer ▸ hattends'
  · exact (congrArg _ hleft).trans hrest
  · exact hleft.symm ▸ hlater
  · refine (congrArg (List.filterMap Call.served?) hcalls).trans (hgiven.trans ?_)
    rw [h.given, Attendance.given, Attendance.given, List.flatMap_append, List.append_assoc]
    simp

/-! ## Runs -/

/-- One step of a network is one step of its attendance. -/
theorem perform (h : n.Attended naming queue s a) {d : Deed C} (hgrants : n.Grants d)
    (hgoes : ∀ e, d.enlistment? = some e → naming.queueName e.tag = queue)
    (hnever : ∀ e ∈ a.known, e.NeverFails) (hreadable : Attendance.Readable a.known a.pending) :
    (n.perform d).Attended naming queue s (a.step queue d) := by
  cases d with
  | enlist e => exact h.enlist hgrants (hgoes e rfl)
  | send other m => exact h.send other m
  | pass duration => exact h.pass duration
  | round =>
    by_cases hidle : a.known = [] ∨ a.pending = []
    · have hsame : a.come = a :=
        hidle.elim Attendance.come_of_known_eq_nil Attendance.come_of_pending_eq_nil
      rw [Attendance.step, hsame]
      exact (h.round_idle hidle).2
    · obtain ⟨hknown, hpending⟩ := not_or.mp hidle
      obtain ⟨m, pending, hnext⟩ := List.exists_cons_of_ne_nil hpending
      refine (h.round_next hknown hnext hnever fun e hmem => ?_).2
      exact hreadable e hmem m (hnext ▸ List.mem_cons_self)

/-- Whatever course things take, a network does what its attendance tells. -/
theorem performAll (h : n.Attended naming queue s a) {deeds : List (Deed C)}
    (hgrants : n.GrantsAll deeds)
    (hgoes : ∀ e ∈ Deed.enlistments deeds, naming.queueName e.tag = queue)
    (hnever : ∀ e ∈ a.known ++ Deed.enlistments deeds, e.NeverFails)
    (hreadable : Attendance.Readable (a.known ++ Deed.enlistments deeds)
      (a.seen.map Prod.snd ++ a.pending ++ Deed.messages queue deeds)) :
    (n.performAll deeds).Attended naming queue s (a.run queue deeds) := by
  induction deeds generalizing n a with
  | nil => exact h
  | cons d deeds ih =>
    obtain ⟨hfirst, hrest⟩ := hgrants
    rw [Deed.enlistments_cons] at hgoes
    obtain ⟨hentrant, hothers⟩ := List.forall_mem_append.mp hgoes
    have hstep : (n.perform d).Attended naming queue s (a.step queue d) := by
      refine h.perform hfirst (fun e he => hentrant e (Option.mem_toList.mpr he))
        (fun e hmem => hnever e (List.mem_append_left _ hmem)) ?_
      intro e hmem m hm
      exact hreadable e (List.mem_append_left _ hmem) m
        (List.mem_append_left _ (List.mem_append_right _ hm))
    have hknown : a.known ++ Deed.enlistments (d :: deeds) =
        (a.step queue d).known ++ Deed.enlistments deeds := by
      rw [Deed.enlistments_cons, Attendance.known_step, List.append_assoc]
    have hmessages : a.seen.map Prod.snd ++ a.pending ++ Deed.messages queue (d :: deeds) =
        (a.step queue d).seen.map Prod.snd ++ (a.step queue d).pending ++
          Deed.messages queue deeds := by
      rw [Deed.messages_cons, Attendance.messages_step, List.append_assoc _ _ (Deed.messages _ _)]
    rw [hknown] at hnever hreadable
    rw [hmessages] at hreadable
    exact ih hstep hrest hothers hnever hreadable

/-- A network drains its queue as its attendance does. -/
theorem work (h : n.Attended naming queue s a) {rounds : Nat} (hrounds : a.pending.length < rounds)
    (hnever : ∀ e ∈ a.known, e.NeverFails) (hreadable : Attendance.Readable a.known a.pending) :
    (n.work rounds).2 = true ∧ (n.work rounds).1.Attended naming queue s a.drain := by
  induction rounds generalizing n a with
  | zero => exact absurd hrounds (Nat.not_lt_zero _)
  | succ rounds ih =>
    rw [work_succ]
    by_cases hidle : a.known = [] ∨ a.pending = []
    · have hsame : a.drain = a := hidle.elim (fun hknown => if_pos hknown)
        Attendance.drain_of_pending_eq_nil
      obtain ⟨hrested, h'⟩ := h.round_idle hidle
      rw [hrested, hsame]
      exact ⟨rfl, h'⟩
    · obtain ⟨hknown, hpending⟩ := not_or.mp hidle
      obtain ⟨m, pending, hnext⟩ := List.exists_cons_of_ne_nil hpending
      obtain ⟨hmoved, h'⟩ := h.round_next hknown hnext hnever fun e hmem =>
        hreadable e hmem m (hnext ▸ List.mem_cons_self)
      rw [if_pos hmoved, ← Attendance.drain_come]
      rw [hnext] at hrounds hreadable
      refine ih h' ?_ ?_ ?_
      · rw [Attendance.come_of_cons hknown hnext]
        exact Nat.lt_of_succ_lt_succ hrounds
      · rwa [Attendance.known_come]
      · rw [Attendance.come_of_cons hknown hnext]
        exact fun e hmem m' hm' => hreadable e hmem m' (.tail _ hm')

end Attended

/-! ## Handlers that come in time -/

/-- A course that things may take at a queue: all handlers that are to be taken in are, none of them
ever fails, and all can read what they take. -/
structure Regular (n : Network C Broker) (queue : String) (deeds : List (Deed C)) : Prop where
  grants : n.GrantsAll deeds
  neverFails : ∀ e ∈ Deed.enlistments deeds, e.NeverFails
  readable : Attendance.Readable (Deed.enlistments deeds) (Deed.messages queue deeds)

/-- In the end a network has done what the attendance of its queue tells. -/
theorem Regular.attended {setup : Setup} {queue : String}
    {visibility waitTime : Duration} {s : Session C} {deeds : List (Deed C)}
    (hshared : ∀ e ∈ Deed.enlistments deeds, setup.naming.queueName e.tag = queue)
    (h : (start [setup] visibility waitTime s).Regular queue deeds) {rounds : Nat}
    (hrounds : (Deed.messages queue deeds).length < rounds) :
    let outcome := ((start [setup] visibility waitTime s).performAll deeds).work rounds
    outcome.2 = true ∧ outcome.1.Attended setup.naming queue s (.of queue deeds) := by
  have hrun := (Attended.start setup queue visibility waitTime s).performAll h.grants hshared
    h.neverFails h.readable
  have hknown : (Attendance.start.run queue deeds).known = Deed.enlistments deeds :=
    Attendance.known_run Attendance.start deeds
  have hmessages : (Attendance.start.run queue deeds).seen.map Prod.snd ++
      (Attendance.start.run queue deeds).pending = Deed.messages queue deeds :=
    Attendance.messages_run Attendance.start deeds
  have hpending : (Attendance.start.run queue deeds).pending ⊆ Deed.messages queue deeds := by
    rw [← hmessages]
    exact List.subset_append_right _ _
  refine hrun.work (Nat.lt_of_le_of_lt ?_ hrounds) ?_ ?_
  · rw [← hmessages, List.length_append]
    exact Nat.le_add_left _ _
  · rw [hknown]
    exact h.neverFails
  · rw [hknown]
    exact fun e hmem m hm => h.readable e hmem m (hpending hm)

/-- Messages that wait at a shared queue, or are sent there, are come to one by one, in the order in
which they were sent, from the moment at which the first handler is taken in; in the end the queue
is empty, and the handlers that never fail were given exactly the messages that they take, each one
those that were come to after it was taken in.  So every message that somebody takes was handled if
and only if none was come to before somebody who takes it was known, as is the case if the consumer
takes no turn before the last handler is taken in; and in any two such courses, in whatever order
they take in the same handlers, the same messages are handled. -/
theorem handled_iff_punctual {setup : Setup} {queue : String}
    (visibility waitTime : Duration) (s : Session C) {deeds : List (Deed C)}
    (hshared : ∀ e ∈ Deed.enlistments deeds, setup.naming.queueName e.tag = queue)
    (hregular : (start [setup] visibility waitTime s).Regular queue deeds) {rounds : Nat}
    (hrounds : (Deed.messages queue deeds).length < rounds) :
    let known := Deed.enlistments deeds
    let messages := Deed.messages queue deeds
    let a := Attendance.of queue deeds
    let outcome := ((start [setup] visibility waitTime s).performAll deeds).work rounds
    outcome.2 = true ∧
    outcome.1.exchange.session.calls.filterMap Call.served? =
      s.calls.filterMap Call.served? ++ a.given ∧
    (known ≠ [] →
      outcome.1.exchange.transport.backlog.waiting queue = [] ∧
      a.seen.map Prod.snd = messages ∧
      (a.handled = Attendance.expected known messages ↔ a.Punctual) ∧
      ∀ deeds', (start [setup] visibility waitTime s).Regular queue deeds' →
        (Deed.enlistments deeds').Perm known → Deed.messages queue deeds' = messages →
        a.Punctual → (Attendance.of queue deeds').Punctual →
          (Attendance.of queue deeds').handled = a.handled) ∧
    ∀ before after, deeds = before ++ after → (∀ d ∈ before, d ≠ .round) →
      Deed.enlistments after = [] → a.Punctual := by
  intro known messages a outcome
  obtain ⟨hrested, hattended⟩ := hregular.attended hshared hrounds
  refine ⟨hrested, hattended.given, fun hsome => ⟨?_, ?_, ?_, ?_⟩, ?_⟩
  · have hpending : a.pending = [] := Attendance.pending_of hsome
    exact List.map_eq_nil_iff.mp (hattended.waiting.trans hpending)
  · exact Attendance.seen_of hsome
  · exact Attendance.handled_of_eq_iff hsome hregular.readable
  · intro deeds' hregular' hperm hmessages hpunctual hpunctual'
    have hsome' : Deed.enlistments deeds' ≠ [] := fun hnil =>
      hsome (List.nil_perm.mp (hnil ▸ hperm))
    have hhandled := (Attendance.handled_of_eq_iff hsome hregular.readable).mpr hpunctual
    have hhandled' := (Attendance.handled_of_eq_iff hsome' hregular'.readable).mpr hpunctual'
    rw [hhandled, hhandled', hmessages]
    exact Attendance.expected_eq_of_perm hperm messages
  · rintro before after hdeeds hbefore hafter
    have hpunctual : (Attendance.of queue (before ++ after)).Punctual :=
      Attendance.punctual_of_late before hbefore hafter
    rwa [← hdeeds] at hpunctual

end Network

/-! ## Two orders -/

namespace Sample

/-- Commands over one shared queue. -/
def sharedCommands : Setup :=
  .commands "app" (.shared "app" "all")

/-- A ping on its way. -/
def pingMessage : Message :=
  (Message.plain "1" "null").withAttribute Message.typeInfoKey (nameless.tag .ping)

/-- A ping waits, and its handler is taken in first. -/
def pingsFirst : List (Deed nameless) :=
  [.send "app-all" pingMessage, .enlist (.command 0 pings), .round, .enlist (.command 0 shapes)]

/-- A ping waits, and its handler is taken in last. -/
def shapesFirst : List (Deed nameless) :=
  [.send "app-all" pingMessage, .enlist (.command 0 shapes), .round, .enlist (.command 0 pings)]

/-- A ping waits, and the consumer waits for all handlers. -/
def turnLast : List (Deed nameless) :=
  [.send "app-all" pingMessage, .enlist (.command 0 shapes), .enlist (.command 0 pings), .round]

/-- Open queues and a façade for commands, in a session in which nothing has happened. -/
def quiet : Network nameless Broker :=
  .start [sharedCommands] 0 5 (.start ⟨[], []⟩ 0)

theorem neverFails_pings : (Enlistment.command 0 pings).NeverFails := by
  refine ⟨fun n ctx organisation hsystem => ?_, fun n store payload => rfl⟩
  have hmember : Authorizer.member ctx organisation = .ok () :=
    Authorizer.member_eq_ok_iff.mpr (.inl hsystem)
  change (Outcome.returned (Authorizer.member ctx organisation)).succeeded = true
  rw [hmember]
  rfl

theorem neverFails_shapes : (Enlistment.command 0 shapes).NeverFails :=
  ⟨fun _ _ _ _ => rfl, fun _ _ => rfl⟩

/-- A course in which both handlers are taken in and only the ping is sent is regular. -/
theorem regular_of_perm {deeds : List (Deed nameless)} (hgrants : quiet.GrantsAll deeds)
    (hperm : (Deed.enlistments deeds).Perm [.command 0 pings, .command 0 shapes])
    (hmessages : Deed.messages "app-all" deeds = [pingMessage]) :
    quiet.Regular "app-all" deeds where
  grants := hgrants
  neverFails e hmem := by
    have hboth := List.forall_mem_cons.mpr
      ⟨neverFails_pings, List.forall_mem_singleton.mpr neverFails_shapes⟩
    exact hboth e (hperm.mem_iff.mp hmem)
  readable e hmem m hm := by
    rw [hmessages, List.mem_singleton] at hm
    subst hm
    rcases List.mem_pair.mp (hperm.mem_iff.mp hmem) with rfl | rfl
    · have hping : (decode .ping "null").isSome = true := by decide +kernel
      exact fun _ => hping
    · exact fun htakes => absurd htakes (by decide)

theorem regular_pingsFirst : quiet.Regular "app-all" pingsFirst :=
  regular_of_perm ⟨nofun, fun _ he => Option.some_inj.mp he ▸ rfl, nofun,
    fun _ he => Option.some_inj.mp he ▸ rfl, trivial⟩ (.refl _) rfl

theorem regular_shapesFirst : quiet.Regular "app-all" shapesFirst :=
  regular_of_perm ⟨nofun, fun _ he => Option.some_inj.mp he ▸ rfl, nofun,
    fun _ he => Option.some_inj.mp he ▸ rfl, trivial⟩ (.swap _ _ _) rfl

theorem regular_turnLast : quiet.Regular "app-all" turnLast :=
  regular_of_perm ⟨nofun, fun _ he => Option.some_inj.mp he ▸ rfl,
    fun _ he => Option.some_inj.mp he ▸ rfl, nofun, trivial⟩ (.swap _ _ _) rfl

end Sample

namespace Network

/-- A ping is handled if its handler is taken in first, and also if the consumer waits for it. -/
theorem handled_of_waiting_consumer :
    let outcome := (Sample.quiet.performAll Sample.turnLast).work 2
    outcome.2 = true ∧ outcome.1.exchange.transport.backlog.waiting "app-all" = [] ∧
      (Attendance.of "app-all" Sample.turnLast).handled = [Sample.pingMessage] ∧
      (Attendance.of "app-all" Sample.pingsFirst).handled = [Sample.pingMessage] := by
  have hshared : ∀ e ∈ Deed.enlistments Sample.turnLast,
      Sample.sharedCommands.naming.queueName e.tag = "app-all" := fun _ _ => rfl
  have hregular : (start [Sample.sharedCommands] 0 5
      (.start ⟨[], []⟩ 0 : Session Sample.nameless)).Regular "app-all" Sample.turnLast :=
    Sample.regular_turnLast
  have hrounds : (Deed.messages "app-all" Sample.turnLast).length < 2 := by decide
  obtain ⟨hrested, -, hdrained, hlate⟩ :=
    handled_iff_punctual 0 5 _ hshared hregular hrounds
  obtain ⟨hempty, -, hhandled, horder⟩ := hdrained (List.cons_ne_nil _ _)
  have hpunctual := hlate (Sample.turnLast.take 3) [.round] rfl
    (by simp [Sample.turnLast]) rfl
  have hpunctual' : (Attendance.of "app-all" Sample.pingsFirst).Punctual := by
    have hseen : (Attendance.of "app-all" Sample.pingsFirst).seen =
      [([.command 0 Sample.pings], Sample.pingMessage)] := rfl
    intro visit hvisit _
    rw [hseen, List.mem_singleton] at hvisit
    rw [hvisit]
    exact ⟨.command 0 Sample.pings, List.mem_cons_self, by decide⟩
  have hturnLast : (Attendance.of "app-all" Sample.turnLast).handled = [Sample.pingMessage] :=
    (hhandled.mpr hpunctual).trans (by decide)
  have hpingsFirst := horder Sample.pingsFirst Sample.regular_pingsFirst (.swap _ _ _) rfl hpunctual
    hpunctual'
  exact ⟨hrested, hempty, hturnLast, hpingsFirst.trans hturnLast⟩

/-- Whether a ping is handled depends on whether its handler or another one is taken in first: in
the one order it is, and in the other it is passed over, although both handlers are there in the
end. -/
theorem passed_over_before_handler :
    Sample.quiet.Regular "app-all" Sample.pingsFirst ∧
      Sample.quiet.Regular "app-all" Sample.shapesFirst ∧
      (Deed.enlistments Sample.pingsFirst).Perm (Deed.enlistments Sample.shapesFirst) ∧
      Deed.messages "app-all" Sample.pingsFirst = Deed.messages "app-all" Sample.shapesFirst ∧
      let first := (Sample.quiet.performAll Sample.pingsFirst).work 2
      let second := (Sample.quiet.performAll Sample.shapesFirst).work 2
      (first.2 = true ∧ first.1.exchange.transport.backlog.waiting "app-all" = [] ∧
        first.1.exchange.session.calls.length = 2) ∧
      second.2 = true ∧ second.1.exchange.transport.backlog.waiting "app-all" = [] ∧
        second.1.exchange.session.calls.length = 0 :=
  ⟨Sample.regular_pingsFirst, Sample.regular_shapesFirst, .swap _ _ _, rfl, by decide +kernel,
    by decide +kernel, by decide +kernel, by decide +kernel⟩

end Network
end Switchboard
