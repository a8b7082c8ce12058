import Switchboard.Proofs.Facade.Course
import Switchboard.Proofs.Queue.Alone
import Switchboard.Sample.Catalogue

/-!
# Commands behind a queue and direct execution

Commands that are published over one shared queue are executed as if they had been executed
directly, in the order of their publication, for the system.  It does not matter when the consumer
takes its turns, and no visibility timeout is too short, for the consumer deletes what it handled
before it looks again.

The invariant is that what was published divides into what was handled, which went as it would have
gone directly, and what waits, which was never handed out.

Main results:

- Definition {lit}`Flowing`: what was published was handled, or it waits.
- Theorem {lit}`Flowing.round_next`: a round handles the first command that waits.
- Theorem {lit}`Flowing.performAll`: what every course of publications and turns keeps.
- Theorem {lit}`CommandFacade.queued_refines_direct`: in the end all is as after direct execution.
-/

namespace Switchboard

variable {C : Catalogue}

/-! ## What was published -/

/-- A message that was never handed out, can be handed out, and carries a command. -/
structure Waiting.Holds (now : Instant) (r : Request C) (w : Waiting) : Prop where
  never : w.receipt = none
  visible : ∃ t, w.visibleAt = some t ∧ t ≤ now
  carries : w.message.Carries r

theorem Waiting.Holds.fresh {now : Instant} {r : Request C} {w : Waiting} (h : w.Holds now r) :
    w.Fresh now :=
  ⟨h.never, h.visible⟩

theorem Waiting.receipt_of_holds {now : Instant} {requests : List (Request C)}
    {messages : List Waiting} (h : List.Forall₂ (Holds now) requests messages) :
    ∀ w ∈ messages, w.receipt = none := by
  induction h with
  | nil => exact List.forall_mem_nil _
  | cons hw _ ih => exact List.forall_mem_cons.mpr ⟨hw.never, ih⟩

/-- A consumer at work for the façade at the first address, which handled so many messages and
failed at none. -/
structure Consumer.Serves (c : Consumer) (queue : String) (n : Nat) : Prop where
  queue : c.queue = queue
  subscriber : c.subscriber = .facade 0
  running : c.running = true
  handled : c.stats.handled = n
  failed : c.stats.failed = 0

/-- What was published at a façade divides into the commands that were handled, each in the context
of the system, and those that wait; up to now all is as if the former had been executed directly. -/
structure Flowing (queue : String) (s : Session C) (f : CommandFacade C)
    (done : List (Context × Request C)) (pending : List (Request C)) (x : Exchange C Broker) :
    Prop where
  queueName : ∀ tag, f.queueName tag = queue
  routes : ∀ tag, f.routes.find? tag = (f.registry.entries.find? tag).map CommandEntry.kind
  opened : x.transport.backlog.closed = false
  receivers : x.transport.receivers = []
  consumer : (x.transport.consumers = [] ∧ f.registry = .empty ∧
      f.subscribed.contains queue = false) ∨
    ∃ c, x.transport.consumers = [c] ∧ c.Serves queue done.length
  waiting : List.Forall₂ (Waiting.Holds x.transport.now) pending
    (x.transport.backlog.waiting queue)
  /-- Commands are handled under the correlation ids of their publishers. -/
  contexts : ∀ p ∈ done, ∃ id, p.1 = .system (p.2.context.correlationId.getD id)
  succeeded : ∀ result ∈ (f.registry.executeAll done s).1, result = .ok ()
  alike : (f.registry.executeAll done s).2.Alike id x.session

namespace Flowing

variable {queue : String} {s : Session C} {f : CommandFacade C}
  {done : List (Context × Request C)} {pending : List (Request C)} {x : Exchange C Broker}
  {r : Request C}

/-- Façades that handlers were taken into have nothing to do yet. -/
theorem start {b : Broker} (h : Installed queue s b f x) (hopen : b.backlog.closed = false)
    (hempty : b.backlog.waiting queue = []) (hconsumers : b.consumers = [])
    (hreceivers : b.receivers = []) : Flowing queue s f [] [] x := by
  have halike : (f.registry.executeAll [] s).2.Alike id x.session :=
    ⟨h.store.symm, by rw [h.calls]; rfl⟩
  rcases h.consumer with ⟨hfree, htransport, hregistry⟩ | ⟨-, htransport⟩
  · refine ⟨h.queueName, h.routes, ?_, ?_, .inl ⟨?_, hregistry, hfree⟩, ?_, List.forall_mem_nil _,
      List.forall_mem_nil _, halike⟩
    · rw [htransport, hopen]
    · rw [htransport, hreceivers]
    · rw [htransport, hconsumers]
    · rw [htransport, hempty]
      exact .nil
  · refine ⟨h.queueName, h.routes, ?_, ?_, .inr ⟨.start queue (.facade 0) b.now b.waitTime, ?_, ?_⟩,
      ?_, List.forall_mem_nil _, List.forall_mem_nil _, halike⟩
    · rw [htransport]
      exact hopen
    · rw [htransport]
      exact hreceivers
    · rw [htransport]
    · exact ⟨rfl, rfl, rfl, rfl, rfl⟩
    · rw [htransport]
      exact hempty ▸ .nil

/-- Commands that have a handler are routed to it. -/
theorem route_of_accepts (h : Flowing queue s f done pending x)
    (haccepts : f.registry.Accepts r.kind) : f.routes.find? (C.tag r.kind) = some r.kind := by
  obtain ⟨entry, hentry, hkind⟩ := haccepts
  rw [h.routes, hentry, Option.map_some, hkind]

/-- A command that is published waits behind all others. -/
theorem publish (h : Flowing queue s f done pending x) (haccepts : f.registry.Accepts r.kind)
    (hcarriable : r.Carriable) :
    Flowing queue s f done (pending ++ [r]) (f.perform x (.publish r)) := by
  obtain ⟨m, log, backlog, hcarries, hsend, hexecute⟩ :=
    CommandFacade.execute_of_carriable (h.route_of_accepts haccepts) hcarriable h.opened
  rw [h.queueName] at hsend
  rw [CommandFacade.perform, hexecute]
  refine { h with opened := ?_, waiting := ?_, alike := ⟨h.alike.store, h.alike.calls⟩ }
  · obtain ⟨-, rfl⟩ := Backlog.send_eq_ok_iff.mp hsend
    exact h.opened
  · rw [Backlog.waiting_send hsend]
    exact List.rel_append h.waiting (.cons ⟨rfl, ⟨_, rfl, Nat.le_refl _⟩, hcarries⟩ .nil)

/-- What waits stays visible as time passes. -/
theorem pass (h : Flowing queue s f done pending x) (duration : Duration) :
    Flowing queue s f done pending (f.perform x (.pass duration)) where
  __ := h
  waiting := h.waiting.imp fun _ _ hw => { hw with visible := (hw.fresh.later duration).visible }

/-- What the record shows of the commands that were handled, it does not show of those that wait. -/
theorem length_calls_le (h : Flowing queue s f done pending x) :
    s.calls.length ≤ x.session.calls.length := by
  have hgrown := (f.registry.grows_executeAll done s).length_le
  have hcalls := congrArg List.length h.alike.calls
  rw [List.length_map, List.length_map] at hcalls
  omega

/-- A round finds nothing to do if no command waits. -/
theorem round_idle (h : Flowing queue s f done [] x) :
    (f.round x).2 = false ∧ Flowing queue s f done [] (f.round x).1 := by
  rcases h.consumer with ⟨hnone, -⟩ | ⟨c, hconsumers, hserves⟩
  · rw [CommandFacade.round, Broker.round_deserted hnone h.receivers]
    exact ⟨rfl, h⟩
  · have hempty : x.transport.backlog.waiting c.queue = [] := by
      rw [hserves.queue]
      exact List.forall₂_nil_left_iff.mp h.waiting
    obtain ⟨c', hc', hturn⟩ := Consumer.turn_of_empty
      (Network.reception [.commands f]) x.transport.now x.transport.waitTime hserves.running
      h.opened hempty { x.session with background := true }
    rw [CommandFacade.round, Broker.round_alone hconsumers h.receivers]
    simp only [Session.inBackground, hturn]
    refine ⟨trivial, { h with
      consumer := .inr ⟨c', rfl, ?_⟩
      alike := ⟨h.alike.store, h.alike.calls⟩ }⟩
    rcases hc' with rfl | rfl
    · exact hserves
    · exact { hserves with }

/-- The next command is executed behind the queue as it would be directly, and it succeeds if the
calls on its way do. -/
theorem execute_next (h : Flowing queue s f done pending x) (haccepts : f.registry.Accepts r.kind)
    (ctx : Context) {t : Session C} (halike : x.session.Alike id t)
    (hsucceeds :
      (f.registry.execute ctx r.organisation r.command t).2.Unfailing s.calls.length) :
    let direct := f.registry.executeAll (done ++ [(ctx, r)]) s
    let outcome := f.registry.execute ctx r.organisation r.command t
    outcome.1 = .ok () ∧ (∀ result ∈ direct.1, result = .ok ()) ∧ direct.2.Alike id outcome.2 := by
  intro direct outcome
  obtain ⟨new, hnew, hok⟩ :=
    CommandRegistry.execute_spec haccepts ctx r.organisation r.command t
  have hlength : s.calls.length ≤ t.calls.length := by
    have hcalls := congrArg List.length halike.calls
    rw [List.length_map, List.length_map] at hcalls
    exact hcalls ▸ h.length_calls_le
  have houtcome : outcome.1 = .ok () := by
    refine hok fun call hcall => hsucceeds call ?_
    rw [hnew, List.drop_append_of_le_length hlength]
    exact List.mem_append_right _ hcall
  have hfollows : Session.Follows id (f.registry.execute ctx r.organisation r.command)
      (f.registry.execute ctx r.organisation r.command) :=
    CommandRegistry.follows_execute (fun _ entry _ => entry.confuses_self ctx) rfl (fun _ => rfl)
      r.organisation r.command
  obtain ⟨hresult, hlast⟩ := hfollows _ _ (h.alike.trans halike)
  refine ⟨houtcome, fun result hmem => ?_, ?_⟩
  · simp only [direct, CommandRegistry.executeAll_append, List.mem_append,
      List.mem_singleton] at hmem
    rcases hmem with hmem | rfl
    · exact h.succeeded result hmem
    · exact hresult.trans houtcome
  · simp only [direct, CommandRegistry.executeAll_append]
    exact hlast

/-- A round handles the first command that waits, if the calls on its way succeed. -/
theorem round_next (h : Flowing queue s f done (r :: pending) x)
    (haccepts : f.registry.Accepts r.kind)
    (hsucceeds : (f.round x).1.session.Unfailing s.calls.length) :
    (f.round x).2 = true ∧
      ∃ ctx, Flowing queue s f (done ++ [(ctx, r)]) pending (f.round x).1 := by
  rcases h.consumer with ⟨-, hregistry, -⟩ | ⟨c, hconsumers, hserves⟩
  · obtain ⟨entry, hentry, -⟩ := haccepts
    rw [hregistry] at hentry
    cases hentry
  obtain ⟨w, rest, hw, hrest, hwaiting⟩ := List.forall₂_cons_left_iff.mp h.waiting
  rw [← hserves.queue] at hwaiting
  obtain ⟨hmoved, hcalls, hstore, hhandled⟩ := Consumer.turn_of_visible
    (Network.reception [.commands f]) x.transport.waitTime hserves.running h.opened hwaiting
    hw.fresh.isVisible (Waiting.receipt_of_holds hrest)
    { x.session with background := true }
  -- What the façade makes of the message is to execute the command.
  have hreception : ∀ t, Network.reception [.commands f] c.subscriber c.queue
      (w.message.receivingContext (Uuid.random (x.session.nextId + 1)).text) w.message t =
        let outcome := f.registry.execute (.system (r.context.correlationId.getD
          (Uuid.random (x.session.nextId + 1)).text)) r.organisation r.command t
        (.returned outcome.1, outcome.2) := by
    intro t
    rw [← hw.carries.correlation, ← Message.asSystem_receivingContext,
      ← CommandFacade.receive_of_carries (h.route_of_accepts haccepts) hw.carries,
      hserves.subscriber]
    rfl
  rw [hreception] at hcalls hstore hhandled
  rw [CommandFacade.round, Broker.round_alone hconsumers h.receivers] at hsucceeds ⊢
  obtain ⟨hok, hresults, halike⟩ := h.execute_next haccepts
    (.system (r.context.correlationId.getD (Uuid.random (x.session.nextId + 1)).text))
    (t := { x.session with nextId := x.session.nextId + 1 + 1, background := true })
    ⟨rfl, rfl⟩ (by
      intro call hcall
      rw [← hcalls] at hcall
      exact hsucceeds call hcall)
  obtain ⟨hconsumer, hopened, hleft⟩ := hhandled (congrArg _ hok)
  rw [hserves.queue] at hleft
  have hserves' : (c.countHandled.beginPoll x.transport.now x.transport.waitTime).Serves queue
      (done.length + 1) :=
    ⟨hserves.queue, hserves.subscriber, hserves.running, congrArg (· + 1) hserves.handled,
      hserves.failed⟩
  rw [← hconsumer] at hserves'
  refine ⟨hmoved, _, h.queueName, h.routes, hopened, h.receivers, .inr ⟨_, rfl, ?_⟩, ?_, ?_,
    hresults, ?_⟩
  · rw [List.length_append]
    exact hserves'
  · exact hleft.symm ▸ hrest
  · intro p hp
    rcases List.mem_append.mp hp with hp | hp
    · exact h.contexts p hp
    · rw [List.mem_singleton.mp hp]
      exact ⟨_, rfl⟩
  · exact ⟨halike.store.trans hstore.symm, halike.calls.trans (congrArg _ hcalls.symm)⟩

/-! ## Runs -/

/-- Whatever course things take, what was published was handled in its order, or it waits. -/
theorem performAll (h : Flowing queue s f done pending x) (beats : List (Beat C))
    (haccepts : ∀ r ∈ pending ++ Beat.requests beats, f.registry.Accepts r.kind)
    (hcarriable : ∀ r ∈ Beat.requests beats, r.Carriable)
    (hsucceeds : (beats.foldl f.perform x).session.Unfailing s.calls.length) :
    ∃ done' pending', Flowing queue s f done' pending' (beats.foldl f.perform x) ∧
      done'.map Prod.snd ++ pending' =
        done.map Prod.snd ++ pending ++ Beat.requests beats := by
  induction beats generalizing done pending x with
  | nil => exact ⟨done, pending, h, by simp⟩
  | cons beat beats ih =>
    cases beat with
    | publish r =>
      rw [Beat.requests_publish] at haccepts hcarriable
      obtain ⟨done', pending', h', hsplit⟩ := ih
        (h.publish (haccepts r (by simp)) (hcarriable r List.mem_cons_self))
        (by simpa using haccepts) (fun later hlater => hcarriable later (.tail _ hlater)) hsucceeds
      exact ⟨done', pending', h', by simpa using hsplit⟩
    | pass duration => exact ih (h.pass duration) haccepts hcarriable hsucceeds
    | turn =>
      cases pending with
      | nil => exact ih h.round_idle.2 haccepts hcarriable hsucceeds
      | cons r pending =>
        obtain ⟨-, ctx, h'⟩ := h.round_next (haccepts r List.mem_cons_self)
          (hsucceeds.of_prefix (f.calls_performAll (f.round x).1 beats))
        obtain ⟨done', pending', h'', hsplit⟩ :=
          ih h' (fun later hlater => haccepts later (.tail _ hlater)) hcarriable hsucceeds
        exact ⟨done', pending', h'', by simpa using hsplit⟩

/-- Work goes on until no command waits. -/
theorem work (h : Flowing queue s f done pending x) {rounds : Nat}
    (hrounds : pending.length < rounds)
    (haccepts : ∀ r ∈ pending, f.registry.Accepts r.kind)
    (hsucceeds : (f.work rounds x).1.session.Unfailing s.calls.length) :
    (f.work rounds x).2 = true ∧ ∃ done', Flowing queue s f done' [] (f.work rounds x).1 ∧
      done'.map Prod.snd = done.map Prod.snd ++ pending := by
  induction rounds generalizing done pending x with
  | zero => exact absurd hrounds (Nat.not_lt_zero _)
  | succ rounds ih =>
    rw [CommandFacade.work_succ] at hsucceeds ⊢
    cases pending with
    | nil =>
      obtain ⟨hrested, h'⟩ := h.round_idle
      rw [hrested]
      exact ⟨rfl, done, h', by simp⟩
    | cons r pending =>
      have hround : (f.round x).1.session.Unfailing s.calls.length := by
        refine hsucceeds.of_prefix ?_
        split
        · exact f.calls_work rounds (f.round x).1
        · exact List.prefix_rfl
      obtain ⟨hmoved, ctx, h'⟩ := h.round_next (haccepts r List.mem_cons_self) hround
      rw [if_pos hmoved] at hsucceeds ⊢
      obtain ⟨hrested, done', h'', hsplit⟩ := ih h' (Nat.lt_of_succ_lt_succ hrounds)
        (fun later hlater => haccepts later (.tail _ hlater)) hsucceeds
      exact ⟨hrested, done', h'', by simpa using hsplit⟩

/-- The consumer has counted the commands that were handled. -/
theorem stats_eq (h : Flowing queue s f done pending x)
    (hsubscribed : f.subscribed.contains queue = true) :
    ∃ polls, x.transport.stats queue = some ⟨polls, done.length, 0⟩ := by
  rcases h.consumer with ⟨-, -, hfree⟩ | ⟨c, hconsumers, hserves⟩
  · rw [hsubscribed] at hfree
    cases hfree
  · refine ⟨0 + c.stats.polls, ?_⟩
    simp [Broker.stats, hconsumers, hserves.queue, ConsumerStats.add, hserves.handled,
      hserves.failed]

end Flowing

/-! ## Direct execution -/

/-- A context without the correlation id. -/
def Context.withoutCorrelation (ctx : Context) : Context :=
  { ctx with correlationId := none }

/-- A queue was drained as if its commands had been executed directly, in their order, for the
system. -/
structure RefinesDirect (queue : String) (registry : CommandRegistry C)
    (requests : List (Request C)) (s : Session C) (x : Exchange C Broker) : Prop where
  empty : x.transport.backlog.waiting queue = []
  /-- If the commands are executed directly under the correlation ids of their publishers, or under
  those that were drawn where there are none, they succeed, and make the very same calls and leave
  the same store. -/
  exact : ∃ pairs : List (Context × Request C), pairs.map Prod.snd = requests ∧
    (∀ p ∈ pairs, ∃ id, p.1 = .system (p.2.context.correlationId.getD id)) ∧
      (∀ result ∈ (registry.executeAll pairs s).1, result = .ok ()) ∧
        x.session.calls = (registry.executeAll pairs s).2.calls ∧
          x.session.store = (registry.executeAll pairs s).2.store
  /-- If the registered user code does not look at the correlation ids of the system, so it is under
  any such ids, as far as calls do not show them. -/
  alike : (∀ tag entry, registry.entries.find? tag = some entry →
      ∀ id id', entry.Confuses (.system id) (.system id')) →
    ∀ pairs : List (Context × Request C), pairs.map Prod.snd = requests →
      (∀ p ∈ pairs, ∃ id, p.1 = .system id) →
        x.session.Alike Context.withoutCorrelation (registry.executeAll pairs s).2

/-- What was drained refines direct execution. -/
theorem Flowing.refinesDirect {queue : String} {s : Session C} {f : CommandFacade C}
    {done : List (Context × Request C)} {x : Exchange C Broker}
    (h : Flowing queue s f done [] x) :
    RefinesDirect queue f.registry (done.map Prod.snd) s x where
  empty := List.forall₂_nil_left_iff.mp h.waiting
  exact := ⟨done, rfl, h.contexts, h.succeeded, by simpa using h.alike.calls.symm,
    h.alike.store.symm⟩
  alike hconfuses pairs hpairs hsystem := by
    have hsame : List.Forall₂ (fun p p' => p.2 = p'.2) done pairs := by
      rw [← List.forall₂_map_right_iff (f := Prod.snd),
        ← List.forall₂_map_left_iff (f := Prod.snd), List.forall₂_eq_eq_eq]
      exact hpairs.symm
    obtain ⟨hlength, hsame⟩ := List.forall₂_iff_zip.mp hsame
    have hfollows : Session.Follows Context.withoutCorrelation (f.registry.executeAll done)
        (f.registry.executeAll pairs) := by
      refine CommandRegistry.follows_executeAll (List.forall₂_iff_zip.mpr
        ⟨hlength, fun {p p'} hmem => ?_⟩)
      obtain ⟨hp, hp'⟩ := List.of_mem_zip hmem
      obtain ⟨id, hid⟩ := h.contexts p hp
      obtain ⟨id', hid'⟩ := hsystem p' hp'
      refine ⟨hsame hmem, ?_, fun name => ?_, fun tag entry hentry => ?_⟩
      · rw [hid, hid']
        rfl
      · rw [hid, hid']
        rfl
      · rw [hid, hid']
        exact hconfuses tag entry hentry _ _
    obtain ⟨-, hdirect⟩ := hfollows s s (.refl _ s)
    have hcalls : x.session.calls = (f.registry.executeAll done s).2.calls := by
      simpa using h.alike.calls.symm
    exact ⟨h.alike.store.symm.trans hdirect.store, by rw [hcalls, hdirect.calls]⟩

/-- A façade at which nothing was published yet drains whatever is. -/
theorem Flowing.drained {queue : String} {s : Session C} {f : CommandFacade C}
    {x : Exchange C Broker} (h : Flowing queue s f [] [] x) (beats : List (Beat C))
    {rounds : Nat} (hrounds : (Beat.requests beats).length < rounds)
    (haccepts : ∀ r ∈ Beat.requests beats, f.registry.Accepts r.kind)
    (hcarriable : ∀ r ∈ Beat.requests beats, r.Carriable)
    (hsucceeds :
      (f.work rounds (beats.foldl f.perform x)).1.session.Unfailing s.calls.length) :
    let outcome := f.work rounds (beats.foldl f.perform x)
    outcome.2 = true ∧ RefinesDirect queue f.registry (Beat.requests beats) s outcome.1 ∧
      (f.subscribed.contains queue = true → ∃ polls,
        outcome.1.transport.stats queue = some ⟨polls, (Beat.requests beats).length, 0⟩) := by
  obtain ⟨done, pending, hflowing, hsplit⟩ := h.performAll beats haccepts hcarriable
    (hsucceeds.of_prefix (f.calls_work _ _))
  rw [List.map_nil, List.nil_append, List.nil_append] at hsplit
  have hpending : pending.length ≤ (Beat.requests beats).length := by
    rw [← hsplit, List.length_append]
    exact Nat.le_add_left _ _
  obtain ⟨hrested, all, hdrained, hall⟩ := hflowing.work (Nat.lt_of_le_of_lt hpending hrounds)
    (fun r hr => haccepts r (hsplit ▸ List.mem_append_right _ hr)) hsucceeds
  rw [hsplit] at hall
  refine ⟨hrested, hall ▸ hdrained.refinesDirect, fun hsubscribed => ?_⟩
  rw [← hall, List.length_map]
  exact hdrained.stats_eq hsubscribed

/-- Commands that are published over one shared queue of an open broker, to which no one else
listens, are executed as they would have been directly, whatever the visibility timeout and whenever
the consumer takes its turns, provided that each has a handler and can be carried, and that no call
of an authorizer or a handler fails.  Every message is handled once. -/
theorem CommandFacade.queued_refines_direct {naming : QueueNaming} {queue : String}
    (hshared : ∀ tag, naming.queueName tag = queue) (application : String)
    (registrations : List (CommandEntry C)) (visibility waitTime : Duration)
    {beats : List (Beat C)} {rounds : Nat} (hrounds : (Beat.requests beats).length < rounds)
    {s : Session C}
    (haccepts : ∀ r ∈ Beat.requests beats,
      (CommandRegistry.empty.registerAll registrations).Accepts r.kind)
    (hcarriable : ∀ r ∈ Beat.requests beats, r.Carriable)
    (hsucceeds : (queued application naming registrations visibility waitTime beats rounds
      s).1.session.Unfailing s.calls.length) :
    let outcome := queued application naming registrations visibility waitTime beats rounds s
    outcome.2 = true ∧
      RefinesDirect queue (CommandRegistry.empty.registerAll registrations)
        (Beat.requests beats) s outcome.1 ∧
      (registrations ≠ [] → ∃ polls,
        outcome.1.transport.stats queue = some ⟨polls, (Beat.requests beats).length, 0⟩) := by
  have hopen : (Broker.start visibility waitTime).backlog.closed = false := rfl
  obtain ⟨hinstalled, hregistry, hsubscribed⟩ :=
    (Installed.start hshared application s (.start visibility waitTime)).registerAll hopen rfl
      registrations
  have hstart := Flowing.start hinstalled hopen rfl rfl rfl
  change _ = CommandRegistry.empty.registerAll registrations at hregistry
  rw [← hregistry] at haccepts ⊢
  obtain ⟨hrested, hrefines, hstats⟩ := hstart.drained beats hrounds haccepts hcarriable hsucceeds
  exact ⟨hrested, hrefines, fun hsome => hstats (hsubscribed (.inl hsome))⟩

/-! ## A drained queue -/

namespace Sample

/-- The sample service, whose result types have no names. -/
abbrev nameless : Catalogue :=
  catalogue fun _ => ""

/-- Keeps every ping; only members and the system may send one. -/
def pings : CommandEntry nameless :=
  ⟨.ping, ⟨1, "pings", .withStore fun _ store p =>
    (.ok (), { store with items := store.items ++ [("pings", ⟨.ping, p⟩)] })⟩, .organisationMember⟩

/-- Takes shapes from everybody. -/
def shapes : CommandEntry nameless :=
  ⟨.shape, ⟨2, "shapes", .plain fun _ _ => .ok ()⟩, .everyone⟩

/-- Two pings and a shape, the first of which is handled before the last is published. -/
def pingsAndShape : List (Beat nameless) :=
  [.publish ⟨.ping, Ping.ping, .blank, none⟩,
    .publish ⟨.shape, Shape.blank, .fresh "chain", some (Uuid.random 5)⟩, .turn, .pass 3,
    .publish ⟨.ping, Ping.ping, .fresh "chain", none⟩]

theorem carriable_pingsAndShape : ∀ r ∈ Beat.requests pingsAndShape, r.Carriable := by
  have hping : decode .ping "null" = some Ping.ping := by decide +kernel
  have hshape : decode .shape "\"Empty\"" = some Shape.blank := by decide +kernel
  simp only [pingsAndShape, Beat.requests_publish, Beat.requests_turn, Beat.requests_pass,
    Beat.requests_nil, List.forall_mem_cons]
  exact ⟨⟨⟨"null", rfl, hping⟩, nofun⟩, ⟨⟨"\"Empty\"", rfl, hshape⟩, nofun⟩,
    ⟨⟨"null", rfl, hping⟩, nofun⟩, List.forall_mem_nil _⟩

theorem accepts_pingsAndShape : ∀ r ∈ Beat.requests pingsAndShape,
    (CommandRegistry.empty.registerAll [pings, shapes]).Accepts r.kind := by
  simp only [pingsAndShape, Beat.requests_publish, Beat.requests_turn, Beat.requests_pass,
    Beat.requests_nil, List.forall_mem_cons]
  exact ⟨⟨pings, rfl, rfl⟩, ⟨shapes, rfl, rfl⟩, ⟨pings, rfl, rfl⟩, List.forall_mem_nil _⟩

end Sample

/-- With a visibility timeout of nothing, the pings and the shape are handled once each. -/
theorem CommandFacade.queued_refines_direct_at_once :
    let outcome := queued "app" (.shared "app" "all") [Sample.pings, Sample.shapes] 0 5
      Sample.pingsAndShape 4 (.start ⟨[], []⟩ 0)
    outcome.2 = true ∧
      RefinesDirect "app-all" (CommandRegistry.empty.registerAll [Sample.pings, Sample.shapes])
        (Beat.requests Sample.pingsAndShape) (.start ⟨[], []⟩ 0) outcome.1 ∧
      ∃ polls, outcome.1.transport.stats "app-all" = some ⟨polls, 3, 0⟩ := by
  have hshared : ∀ tag, (QueueNaming.shared "app" "all").queueName tag = "app-all" := fun _ => rfl
  have hrounds : (Beat.requests Sample.pingsAndShape).length < 4 := by decide
  have hsucceeds : (queued "app" (.shared "app" "all") [Sample.pings, Sample.shapes] 0 5
      Sample.pingsAndShape 4 (.start ⟨[], []⟩ 0)).1.session.Unfailing
        (Session.start (C := Sample.nameless) ⟨[], []⟩ 0).calls.length := by
    refine List.all_eq_true.mp ?_
    decide +kernel
  have hrefines := queued_refines_direct hshared "app" [Sample.pings, Sample.shapes] 0 5 hrounds
    Sample.accepts_pingsAndShape Sample.carriable_pingsAndShape hsucceeds
  exact ⟨hrefines.1, hrefines.2.1, hrefines.2.2 (List.cons_ne_nil _ _)⟩

end Switchboard
