import Switchboard.Broadcast.LiveChannel
import Switchboard.Proofs.Containment.Endurance
import Switchboard.Proofs.Facade.Draining

/-!
# Panics are failures

Whoever uses a service cannot tell a panic of its user code from the failure that the panic counts
as.  If any panics are replaced by these failures, every operation answers as before, and in the end
all is as it was, but for the user code: the store, the calls and the log, the queues and their
consumers, the channel and its watchers.  That goes for all panics at once, so a service whose user
code panics does what one does whose user code never does.  In particular no panic escapes from an
operation, and none ends a consumer or a watcher.

Main results:

- Definition {lit}`Service.Resembles`: two services are the same but for their user code.
- Theorem {lit}`Service.resembles_tamed`: a service resembles itself with tamed user code.
- Theorem {lit}`Service.panics_are_failures`: panics and failures cannot be told apart.
-/

namespace Switchboard

variable {C : Catalogue} {γ : Type} {which : Choice}

/-! ## Registries -/

/-- Two registries tell the same about their handlers. -/
structure CommandRegistry.Resembles (r' r : CommandRegistry C) : Prop where
  commandTypes : r'.commandTypes = r.commandTypes
  isRegistered : ∀ tag, r'.isRegistered tag = r.isRegistered tag
  dependencies : ∀ tag, r'.dependencies tag = r.dependencies tag

/-- Taming leaves alone what a handler asks for. -/
theorem Handler.dependencies_tamed {σ π α : Type} (tag : String) (h : Handler σ π α) :
    (h.tamed which tag).dependencies = h.dependencies := by
  obtain ⟨callee, name, behaviour⟩ := h
  cases behaviour <;> rfl

theorem CommandRegistry.resembles_tamed (r : CommandRegistry C) : (r.tamed which).Resembles r where
  commandTypes := r.entries.keys_mapWithKey _
  isRegistered tag := r.entries.contains_mapWithKey _ tag
  dependencies tag := by
    simp only [dependencies, tamed, Dictionary.find?_mapWithKey, Option.map_map]
    exact congrArg (Option.map · (r.entries.find? tag))
      (funext fun entry => entry.handler.dependencies_tamed tag)

/-- Two registries tell the same about their handlers. -/
structure EventRegistry.Resembles (r' r : EventRegistry C) : Prop where
  eventTypes : r'.eventTypes = r.eventTypes
  isRegistered : ∀ tag, r'.isRegistered tag = r.isRegistered tag
  handlerNames : ∀ tag, r'.handlerNames tag = r.handlerNames tag

theorem EventRegistry.resembles_tamed (r : EventRegistry C) : (r.tamed which).Resembles r where
  eventTypes := r.slots.keys_mapWithKey _
  isRegistered tag := r.slots.contains_mapWithKey _ tag
  handlerNames := r.handlerNames_tamed which

/-- Two registries tell the same about their queries. -/
structure QueryRegistry.Resembles (r' r : QueryRegistry C) : Prop where
  accepts : ∀ tag, r'.accepts tag = r.accepts tag
  answers : ∀ tag answer, ((r'.shelf tag).find? answer).isSome = ((r.shelf tag).find? answer).isSome

theorem QueryRegistry.resembles_tamed (r : QueryRegistry C) : (r.tamed which).Resembles r where
  accepts tag := r.shelves.contains_mapWithKey _ tag
  answers tag answer := by rw [shelf_tamed, QueryShelf.tamed, Option.isSome_map]

/-- Two façades have the same routes and queues, and registries that tell the same. -/
inductive AnyFacade.Resembles : AnyFacade C → AnyFacade C → Prop where
  | commands {f' f : CommandFacade C} (outline : f'.outline = f.outline)
      (registry : f'.registry.Resembles f.registry) : Resembles (.commands f') (.commands f)
  | events {f' f : EventFacade C} (outline : f'.outline = f.outline)
      (registry : f'.registry.Resembles f.registry) : Resembles (.events f') (.events f)

theorem AnyFacade.resembles_tamed (f : AnyFacade C) : (f.tamed which).Resembles f := by
  cases f with
  | commands f => exact .commands rfl f.registry.resembles_tamed
  | events f => exact .events rfl f.registry.resembles_tamed

/-! ## Transports -/

/-- Two subscribers are the same but for their code. -/
inductive Subscriber.Resembles : Subscriber → Subscriber → Prop where
  | facade (address : Nat) : Resembles (.facade address) (.facade address)
  | consumer {c' c : MessageConsumer} (callee : c'.callee = c.callee) (name : c'.name = c.name) :
    Resembles (.consumer c') (.consumer c)

theorem Subscriber.resembles_tamed (subscriber : Subscriber) :
    (subscriber.tamed which).Resembles subscriber := by
  cases subscriber with
  | facade address => exact .facade address
  | consumer c => exact .consumer rfl rfl

/-- Two consumers are the same, and have done the same, but for the code of their subscribers. -/
structure Consumer.Resembles (c' c : Consumer) : Prop where
  queue : c'.queue = c.queue
  subscriber : c'.subscriber.Resembles c.subscriber
  stats : c'.stats = c.stats
  deadline : c'.deadline = c.deadline
  running : c'.running = c.running

theorem Consumer.resembles_tamed (c : Consumer) : (c.tamed which).Resembles c :=
  ⟨rfl, c.subscriber.resembles_tamed, rfl, rfl, rfl⟩

/-- Two brokers have the same time, queues and receivers, and consumers that resemble each other. -/
structure Broker.Resembles (b' b : Broker) : Prop where
  now : b'.now = b.now
  waitTime : b'.waitTime = b.waitTime
  backlog : b'.backlog = b.backlog
  receivers : b'.receivers = b.receivers
  consumers : List.Forall₂ Consumer.Resembles b'.consumers b.consumers

theorem Broker.resembles_tamed (b : Broker) : (b.tamed which).Resembles b :=
  ⟨rfl, rfl, rfl, rfl, List.forall₂_map_left_iff.mpr
    (List.forall₂_same.mpr fun c _ => c.resembles_tamed)⟩

/-- The same mail is held for subscribers that resemble each other. -/
structure HeldMail.Resembles (m' m : HeldMail) : Prop where
  queues : m'.queues = m.queues
  subscribers : List.Forall₂ (fun entry' entry => entry'.1 = entry.1 ∧ entry'.2.Resembles entry.2)
    m'.subscribers m.subscribers

theorem HeldMail.resembles_tamed (m : HeldMail) : (m.tamed which).Resembles m :=
  ⟨rfl, List.forall₂_map_left_iff.mpr
    (List.forall₂_same.mpr fun entry _ => ⟨rfl, entry.2.resembles_tamed⟩)⟩

/-- Two carriers of one sort resemble each other. -/
inductive Carrier.Resembles : Carrier → Carrier → Prop where
  | held {m' m : HeldMail} (mail : m'.Resembles m) : Resembles (.held m') (.held m)
  | broker {b' b : Broker} (broker : b'.Resembles b) : Resembles (.broker b') (.broker b)

theorem Carrier.resembles_tamed (carrier : Carrier) : (carrier.tamed which).Resembles carrier := by
  cases carrier with
  | held mail => exact .held mail.resembles_tamed
  | broker b => exact .broker b.resembles_tamed

/-! ## Watchers -/

/-- Two watchers are the same, and have come equally far, but for the code of their handlers. -/
structure Watcher.Resembles (w' w : Watcher C) : Prop where
  kind : w'.kind = w.kind
  callee : w'.handler.callee = w.handler.callee
  name : w'.handler.name = w.handler.name
  context : w'.context = w.context
  seen : w'.seen = w.seen
  lastIndex : w'.lastIndex = w.lastIndex
  running : w'.running = w.running

theorem Watcher.resembles_tamed (w : Watcher C) : (w.tamed which).Resembles w :=
  ⟨rfl, rfl, rfl, rfl, rfl, rfl, rfl⟩

/-- Two nodes have watchers that resemble each other. -/
structure Node.Resembles (n' n : Node C) : Prop where
  waitTime : n'.waitTime = n.waitTime
  watchers : List.Forall₂ Watcher.Resembles n'.watchers n.watchers

theorem Node.resembles_tamed (n : Node C) : (n.tamed which).Resembles n :=
  ⟨rfl, List.forall₂_map_left_iff.mpr (List.forall₂_same.mpr fun w _ => w.resembles_tamed)⟩

/-! ## Services -/

namespace Service

/-- Two services are the same but for their user code. -/
structure Resembles (s' s : Service C γ) : Prop where
  /-- The store, all calls and the log. -/
  session : s'.network.exchange.session = s.network.exchange.session
  carrier : s'.network.exchange.transport.inner.Resembles s.network.exchange.transport.inner
  sendFaults : s'.network.exchange.transport.sendFaults = s.network.exchange.transport.sendFaults
  subscribeFaults :
    s'.network.exchange.transport.subscribeFaults = s.network.exchange.transport.subscribeFaults
  sent : s'.network.exchange.transport.sent = s.network.exchange.transport.sent
  facades : List.Forall₂ AnyFacade.Resembles s'.network.facades s.network.facades
  commands : s'.registries.commands.Resembles s.registries.commands
  events : s'.registries.events.Resembles s.registries.events
  queries : s'.registries.queries.Resembles s.registries.queries
  medium : s'.broadcast.medium = s.broadcast.medium
  nodes : List.Forall₂ Node.Resembles s'.broadcast.nodes s.broadcast.nodes

/-- A service resembles itself with tamed user code. -/
theorem resembles_tamed (s : Service C γ) : (s.tamed which).Resembles s where
  session := rfl
  carrier := s.network.exchange.transport.inner.resembles_tamed
  sendFaults := rfl
  subscribeFaults := rfl
  sent := rfl
  facades := List.forall₂_map_left_iff.mpr (List.forall₂_same.mpr fun f _ => f.resembles_tamed)
  commands := s.registries.commands.resembles_tamed
  events := s.registries.events.resembles_tamed
  queries := s.registries.queries.resembles_tamed
  medium := rfl
  nodes := List.forall₂_map_left_iff.mpr (List.forall₂_same.mpr fun n _ => n.resembles_tamed)

variable [BroadcastMedium γ]

/-- Any operations on a service that starts without user code lead to the same, tamed. -/
theorem run_tamed_start (which : Choice) (setups : List Setup)
    (times : Option (Duration × Duration)) (medium : γ) (session : Session C)
    (acts : List (ServiceAct C γ)) :
    run (acts.map (ServiceAct.tamed which)) (start setups times medium session) =
      Prod.map id (tamed which) (run acts (start setups times medium session)) := by
  have hrun := run_tamed which acts (start setups times medium session)
  rw [tamed_start] at hrun
  exact hrun

/-- If any panics of user code are replaced by the failures that they count as, then all operations
on a service answer the same, and in the end the service is the same but for its user code.  If all
panics are replaced, no user code that is handed in panics any more.  With the panics in place, all
consumers are at work as long as the queues are open, a turn ends a consumer only if they are
closed, and a watcher only if the listing of the channel fails. -/
theorem panics_are_failures (setups : List Setup) (times : Option (Duration × Duration))
    (medium : γ) (session : Session C) (acts : List (ServiceAct C γ)) :
    let before : Service C γ := start setups times medium session
    let ended := (run acts before).2
    (∀ which,
      let tamedRun := run (acts.map (ServiceAct.tamed which)) before
      tamedRun.1 = (run acts before).1 ∧ tamedRun.2.Resembles ended) ∧
    (∀ act ∈ acts, (act.tamed Choice.all).Calm) ∧
    (∀ b, ended.network.exchange.transport.inner = .broker b →
      (b.backlog.closed = false → ∀ c ∈ b.consumers, c.running = true) ∧
      ∀ c ∈ b.consumers, c.running = true → ∀ s : Session C,
        let receive := Network.reception ended.network.facades
        (c.turn receive b.now b.waitTime b.backlog s).1.consumer.running = false ↔
          b.backlog.closed = true) ∧
    (∀ n ∈ ended.broadcast.nodes, ∀ w ∈ n.watchers, w.running = true → ∀ s : Session C,
      (w.turn n.waitTime ended.broadcast.medium s).1.1.running = false ↔
        ∃ e, (BroadcastMedium.list w.tag w.lastIndex n.waitTime ended.broadcast.medium).1 =
          some (.error e)) := by
  intro before ended
  refine ⟨fun which => ?_, fun act _ => act.calm_tamed, fun b hb => ⟨?_, ?_⟩, ?_⟩
  · intro tamedRun
    have hrun : tamedRun = Prod.map id (tamed which) (run acts before) :=
      run_tamed_start which setups times medium session acts
    rw [hrun]
    exact ⟨rfl, ended.resembles_tamed⟩
  · have huntiring : ended.network.exchange.transport.inner.Untiring :=
      untiring_run acts before (untiring_start setups times medium session)
    rw [hb] at huntiring
    exact huntiring
  · intro c _ hrunning s
    exact c.running_turn _ b.now b.waitTime b.backlog s hrunning
  · intro n _ w _ hrunning s
    exact w.running_turn n.waitTime ended.broadcast.medium s hrunning

end Service

/-! ## A service in which everything panics -/

namespace Sample

/-- Keeps a ping and panics. -/
def panickingPings : Handler nameless.Store (nameless.Value .ping) Unit :=
  ⟨1, "pings", .withStore fun _ store p =>
    (.panicked (.text "boom"), { store with items := store.items ++ [("pings", ⟨.ping, p⟩)] })⟩

/-- A ping from nobody. -/
def lonePing : Request nameless :=
  ⟨.ping, Ping.ping, .blank, none⟩

/-- A handler of a registry, a check behind a queue, a consumer of raw messages and a watcher, all
of which panic as soon as they are called. -/
def panicking : List (ServiceAct nameless LiveChannel) :=
  [.direct (.registerCommand ⟨.ping, panickingPings, .everyone⟩),
    .direct (.execute lonePing),
    .queue (.enlist (.command 0 ⟨.ping, panickingPings,
      ⟨2, some "check", fun _ _ _ => .panicked .wordless⟩⟩)),
    .queue (.execute 0 lonePing),
    .queue (.subscribe "raw" ⟨3, "raw", fun _ _ _ => .panicked (.text "raw boom")⟩),
    .queue (.send "raw" (.plain "1" "hello")),
    .queue .round,
    .broadcast (.addNode 5),
    .broadcast (.register 0 .shape ⟨4, "watcher", .plain fun _ _ => .panicked .wordless⟩),
    .broadcast (.dispatch .shape Shape.blank),
    .broadcast (.turn 0 0)]

end Sample

/-- Four pieces of user code are called and panic, next to a check that lets everybody through.  The
same is answered, recorded and counted if they fail instead. -/
theorem Service.panics_are_failures_everywhere :
    let before : Service Sample.nameless LiveChannel :=
      start [.commands "app" (.perType "app")] (some (10, 5)) (LiveChannel.start (.start 4))
        (.start ⟨[], []⟩ 0)
    let ran := run Sample.panicking before
    let calm := run (Sample.panicking.map (ServiceAct.tamed Choice.all)) before
    ran.2.network.exchange.session.calls.map (fun call => (call.callee, call.succeeded)) =
        [(0, true), (1, false), (2, false), (3, false), (4, false)] ∧
      (¬ ∀ act ∈ Sample.panicking, act.Calm) ∧
      (∀ act ∈ Sample.panicking, (act.tamed Choice.all).Calm) ∧
      calm.1 = ran.1 ∧ calm.2.Resembles ran.2 := by
  intro before ran calm
  obtain ⟨hsame, hcalm, -, -⟩ := panics_are_failures (C := Sample.nameless)
    [.commands "app" (.perType "app")] (some (10, 5)) (LiveChannel.start (.start 4))
    (.start ⟨[], []⟩ 0) Sample.panicking
  refine ⟨by decide +kernel, fun h => ?_, hcalm, hsame Choice.all⟩
  exact (h _ List.mem_cons_self).1 0 ⟨[], []⟩ Sample.lonePing.command

end Switchboard
