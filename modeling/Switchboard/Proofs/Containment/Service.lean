import Switchboard.Proofs.Command.Sequence
import Switchboard.Proofs.Containment.Networks
import Switchboard.Proofs.Containment.Watchers
import Switchboard.Proofs.Network.Course

/-!
# Services of tamed user code

A service with everything in it: registries for commands, events and queries, façades over a
transport, consumers of raw messages, and nodes of a broadcast, all of them with user code that may
panic, and all in one session.  Anything may be done with it, in any order.  Done with tamed user
code, it is answered as before, and leads to what it led to before, tamed.

Main results:

- Definition {lit}`ServiceAct`: what is done with a service.
- Theorem {lit}`ServiceAct.calm_tamed`: if all panics are replaced, none is left.
- Theorem {lit}`Service.step_tamed`: one operation is as before.
- Theorem {lit}`Service.run_tamed`: so is any number of them.
-/

namespace Switchboard

variable {C : Catalogue} {γ : Type} {which : Choice}

/-! ## Answers -/

/-- What an operation answers. -/
inductive Feedback (C : Catalogue) where
  | nothing
  /-- The answer of a registration, of a dispatch or of a publication. -/
  | result (result : Except DispatchError Unit)
  /-- The answer of a query. -/
  | found (answer : C.Answer) (result : Except DispatchError (Option (Result (C.Item answer))))
  /-- The answer of a query that writes over an output, and what it left there. -/
  | written (answer : C.Answer) (result : Except DispatchError Unit)
      (output : Option (Result (C.Item answer)))
  /-- The answer of a transport. -/
  | transported (result : Except TransportError Unit)
  /-- Whether the consumers came to rest. -/
  | rested (rested : Bool)
  /-- What somebody who waited for a message got. -/
  | replied (reply : Option Reply)
  /-- How handing over a message ended. -/
  | handedOver (handover : Handover)

/-! ## Registries -/

/-- The registries of a service. -/
structure Registries (C : Catalogue) where
  commands : CommandRegistry C
  events : EventRegistry C
  queries : QueryRegistry C

/-- What is done with registries. -/
inductive DirectAct (C : Catalogue) where
  | registerCommand (entry : CommandEntry C)
  | execute (request : Request C)
  | registerEvent (kind : C.Kind) (handler : EventHandler (C.Value kind))
  | dispatch (ctx : Context) (kind : C.Kind) (event : C.Value kind)
  | registerQuery (answer : C.Answer) (entry : QueryEntry C answer)
  | query (ctx : Context) (kind : C.Kind) (criteria : C.Value kind) (answer : C.Answer)
  | queryInto (ctx : Context) (kind : C.Kind) (criteria : C.Value kind) (answer : C.Answer)
      (output : Option (Result (C.Item answer)))

/-- The answer of a registration, with what it leaves. -/
def registered {ρ : Type} (before : ρ) : Except DispatchError ρ → Except DispatchError Unit × ρ
  | .ok after => (.ok (), after)
  | .error e => (.error e, before)

theorem registered_map {ρ : Type} (tame : ρ → ρ) (before : ρ) (answer : Except DispatchError ρ) :
    registered (tame before) (answer.map tame) = Prod.map id tame (registered before answer) := by
  cases answer <;> rfl

namespace Registries

/-- Registries without user code. -/
def empty : Registries C :=
  ⟨.empty, .empty, .empty⟩

/-- Registries whose user code was tamed. -/
def tamed (which : Choice) (r : Registries C) : Registries C :=
  ⟨r.commands.tamed which, r.events.tamed which, r.queries.tamed which⟩

/-- Do something with registries. -/
def perform (r : Registries C) : DirectAct C → Activity C (Feedback C × Registries C)
  | .registerCommand entry =>
    let (result, commands) := registered r.commands
      (r.commands.register entry.kind entry.handler entry.authorizer)
    return (.result result, { r with commands })
  | .execute request => do
    let result ← r.commands.execute request.context request.organisation request.command
    return (.result result, r)
  | .registerEvent kind handler =>
    let (result, events) := registered r.events (r.events.register kind handler)
    return (.result result, { r with events })
  | .dispatch ctx _ event => do
    return (.result (← r.events.dispatch ctx event), r)
  | .registerQuery answer entry =>
    let (result, queries) := registered r.queries
      (r.queries.register entry.kind answer entry.query entry.filter)
    return (.result result, { r with queries })
  | .query ctx _ criteria answer => do
    return (.found answer (← r.queries.execute ctx criteria answer), r)
  | .queryInto ctx _ criteria answer output => do
    let (result, output) ← r.queries.executeInto ctx criteria answer output
    return (.written answer result output, r)

end Registries

/-- What is done with registries, with tamed user code. -/
def DirectAct.tamed (which : Choice) : DirectAct C → DirectAct C
  | registerCommand entry => registerCommand (entry.tamed which (C.tag entry.kind))
  | registerEvent kind handler => registerEvent kind (handler.tamed which (C.tag kind))
  | registerQuery answer entry => registerQuery answer (entry.tamed which (C.tag entry.kind))
  | execute request => execute request
  | dispatch ctx kind event => dispatch ctx kind event
  | query ctx kind criteria answer => query ctx kind criteria answer
  | queryInto ctx kind criteria answer output => queryInto ctx kind criteria answer output

/-- What is done with registries hands in no code that panics. -/
def DirectAct.Calm : DirectAct C → Prop
  | registerCommand entry => entry.Calm
  | registerEvent _ handler => handler.behaviour.Calm
  | registerQuery _ entry => entry.Calm
  | _ => True

theorem DirectAct.calm_tamed (act : DirectAct C) : (act.tamed Choice.all).Calm := by
  cases act with
  | registerCommand entry => exact entry.calm_tamed _
  | registerEvent kind handler => exact EventBehaviour.calm_tamed ..
  | registerQuery answer entry => exact entry.calm_tamed _
  | _ => trivial

/-- What is done with tamed registries is as before. -/
theorem Registries.perform_tamed (r : Registries C) (act : DirectAct C) :
    (r.tamed which).perform (act.tamed which) =
      Prod.map id (tamed which) <$> r.perform act := by
  cases act with
  | registerCommand entry =>
    have hregister := r.commands.register_tamed which entry.kind entry.handler entry.authorizer
    simp only [perform, tamed, DirectAct.tamed, CommandEntry.tamed, hregister, registered_map]
    rfl
  | registerEvent kind handler =>
    simp only [perform, tamed, DirectAct.tamed, EventRegistry.register_tamed, registered_map]
    rfl
  | registerQuery answer entry =>
    have hregister := r.queries.register_tamed which entry.kind answer entry.query entry.filter
    simp only [perform, tamed, DirectAct.tamed, QueryEntry.tamed, hregister, registered_map]
    rfl
  | execute request =>
    simp only [perform, tamed, DirectAct.tamed, CommandRegistry.execute_tamed, map_bind, map_pure]
    rfl
  | dispatch ctx kind event =>
    simp only [perform, tamed, DirectAct.tamed, EventRegistry.dispatch_tamed, map_bind, map_pure]
    rfl
  | query ctx kind criteria answer =>
    simp only [perform, tamed, DirectAct.tamed, QueryRegistry.execute_tamed, map_bind, map_pure]
    rfl
  | queryInto ctx kind criteria answer output =>
    simp only [perform, tamed, DirectAct.tamed, QueryRegistry.executeInto_tamed, map_bind, map_pure]
    rfl

/-! ## Façades and their transport -/

/-- What is done with a network over a rehearsed transport. -/
inductive QueueAct (C : Catalogue) where
  /-- A handler is handed in at a façade. -/
  | enlist (e : Enlistment C)
  /-- A command is published at the façade of an address. -/
  | execute (address : Nat) (request : Request C)
  /-- An event is published at the façade of an address. -/
  | dispatch (address : Nat) (ctx : Context) (kind : C.Kind) (event : C.Value kind)
  | send (queue : String) (message : Message)
  /-- Somebody subscribes to the raw messages of a queue. -/
  | subscribe (queue : String) (consumer : MessageConsumer)
  | planSend (fault : TransportError)
  | planSubscribe (fault : TransportError)
  /-- The consumer at a place takes a turn. -/
  | turn (place : Nat)
  /-- Every consumer takes a turn and every receiver looks. -/
  | round
  /-- The clock moves on by itself. -/
  | pass (duration : Duration)
  | settle
  | sleep (duration : Duration)
  | beginReceive (queue : String) (wait : Duration)
  | await
  | delete (queue receipt : String)
  | purge (queue : String)
  | close
  | handOver (queue : String) (place : Nat) (ctx : Option Context)

/-- What is done with a network, with tamed user code. -/
def QueueAct.tamed (which : Choice) : QueueAct C → QueueAct C
  | enlist (.command address entry) =>
    enlist (.command address (entry.tamed which (C.tag entry.kind)))
  | enlist (.event address kind handler) =>
    enlist (.event address kind (handler.tamed which (C.tag kind)))
  | subscribe queue consumer => subscribe queue (consumer.tamed which)
  | act => act

/-- What is done with a network hands in no code that panics. -/
def QueueAct.Calm : QueueAct C → Prop
  | enlist (.command _ entry) => entry.Calm
  | enlist (.event _ _ handler) => handler.behaviour.Calm
  | subscribe _ consumer => consumer.Calm
  | _ => True

theorem QueueAct.calm_tamed (act : QueueAct C) : (act.tamed Choice.all).Calm := by
  cases act with
  | enlist e =>
    cases e with
    | command address entry => exact entry.calm_tamed _
    | event address kind handler => exact EventBehaviour.calm_tamed ..
  | subscribe queue consumer => exact consumer.calm_tamed
  | _ => trivial

namespace Network

/-- What is told of an operation that may have found nobody to do it. -/
def told {α : Type} (tell : α → Feedback C) : Option α → Feedback C
  | some value => tell value
  | none => .nothing

/-- Do something to the broker that needs nobody to receive. -/
def alter (change : Broker → Broker) : StateM (Rehearsal C) (Option Unit) :=
  withBroker fun _ b => return ((), change b)

/-- Do something with a network. -/
def conduct : QueueAct C → StateM (Rehearsal C) (Feedback C)
  | .enlist e => told .result <$> enlist e
  | .execute address request => told .result <$> onCommands address fun f => do
    return (← f.execute request.context request.organisation request.command, f)
  | .dispatch address ctx _ event => told .result <$> onEvents address fun f => do
    return (← f.dispatch ctx event, f)
  | .send queue message => .transported <$> direct (Transport.send queue message)
  | .subscribe queue consumer =>
    .transported <$> direct (Transport.subscribe queue (.consumer consumer))
  | .planSend fault => carry fun r => (.nothing, r.planSend fault)
  | .planSubscribe fault => carry fun r => (.nothing, r.planSubscribe fault)
  | .turn place => told (fun () => .nothing) <$> withBroker fun receive b => do
    return ((), ← b.turnAt receive place)
  | .round => told .rested <$> withBroker fun receive b => do
    let (b, moved) ← b.round receive
    return (!moved, b)
  | .pass duration => told (fun () => .nothing) <$>
    alter fun b => { b with now := b.now + duration }
  | .settle => .rested <$> settle
  | .sleep duration => told (fun () => .nothing) <$> sleep duration
  | .beginReceive queue wait => told (fun () => .nothing) <$> beginReceive queue wait
  | .await => .replied <$> await
  | .delete queue receipt => told (fun () => .nothing) <$>
    alter fun b => { b with backlog := b.backlog.delete queue receipt }
  | .purge queue => told (fun () => .nothing) <$>
    alter fun b => { b with backlog := b.backlog.purge queue }
  | .close => told (fun () => .nothing) <$> withBroker fun receive b => do
    return ((), ← b.close receive)
  | .handOver queue place ctx => told .handedOver <$> withHeld fun receive mail =>
    HeldMail.handOver receive queue place ctx mail

/-- What is done to the broker alone is done as before. -/
theorem mirrors_alter {change : Broker → Broker}
    (h : ∀ b, change (b.tamed which) = (change b).tamed which) :
    Mirrors (rehearsalTamed which) id (alter (C := C) change) (alter change) :=
  mirrors_withBroker fun _ b => by
    simp only [map_pure, h]
    rfl

/-- A handler is handed in at a tamed façade as before. -/
theorem mirrors_enlist (e : Enlistment C) :
    Mirrors (rehearsalTamed which) id (conduct (QueueAct.tamed which (.enlist e)))
      (conduct (.enlist e)) := by
  cases e with
  | command address entry =>
    refine mirrors_map (mirrors_onCommands address fun f => ?_) _
    exact f.mirrors_register respects_rehearsal entry.kind entry.handler entry.authorizer
  | event address kind handler =>
    refine mirrors_map (mirrors_onEvents address fun f => ?_) _
    exact f.mirrors_register respects_rehearsal kind handler

/-- What is done with a network of tamed user code is as before. -/
theorem mirrors_conduct (act : QueueAct C) :
    Mirrors (rehearsalTamed which) id (conduct (act.tamed which)) (conduct act) := by
  cases act with
  | enlist e => exact mirrors_enlist e
  | execute address request =>
    refine mirrors_map (mirrors_onCommands address fun f => ?_) _
    exact mirrors_bind (f.mirrors_execute respects_rehearsal _ _ _) fun _ => mirrors_pure _
  | dispatch address ctx kind event =>
    refine mirrors_map (mirrors_onEvents address fun f => ?_) _
    exact mirrors_bind (f.mirrors_dispatch respects_rehearsal ctx event) fun _ => mirrors_pure _
  | send queue message =>
    exact mirrors_map (mirrors_direct (respects_rehearsal.send queue message)) _
  | subscribe queue consumer =>
    exact mirrors_map (mirrors_direct (respects_rehearsal.subscribe queue (.consumer consumer))) _
  | planSend fault | planSubscribe fault => exact fun _ => rfl
  | turn place =>
    refine mirrors_map (mirrors_withBroker fun h b => ?_) _
    simp only [Broker.turnAt_tamed h, bind_map_left, map_bind, map_pure]
    rfl
  | round =>
    refine mirrors_map (mirrors_withBroker fun h b => ?_) _
    simp only [Broker.round_tamed h, bind_map_left, map_bind, map_pure]
    rfl
  | pass duration | delete queue receipt | purge queue =>
    refine mirrors_map (mirrors_alter ?_) _
    exact fun _ => rfl
  | settle => exact mirrors_map mirrors_settle _
  | sleep duration => exact mirrors_map (mirrors_sleep duration) _
  | beginReceive queue wait => exact mirrors_map (mirrors_beginReceive queue wait) _
  | await => exact mirrors_map mirrors_await _
  | close =>
    refine mirrors_map (mirrors_withBroker fun h b => ?_) _
    simp only [Broker.close_tamed h, bind_map_left, map_bind, map_pure]
    rfl
  | handOver queue place ctx =>
    exact mirrors_map (mirrors_withHeld fun h mail => mail.handOver_tamed h queue place ctx) _

end Network

/-! ## A broadcast -/

/-- A channel with the nodes that share it. -/
structure Broadcast (C : Catalogue) (γ : Type) where
  medium : γ
  nodes : List (Node C)

/-- What is done with a broadcast. -/
inductive BroadcastAct (C : Catalogue) (γ : Type) where
  | addNode (waitTime : Duration)
  /-- A watcher is started at the node of a place. -/
  | register (place : Nat) (kind : C.Kind) (handler : EventHandler (C.Value kind))
  | dispatch (kind : C.Kind) (event : C.Value kind)
  /-- A watcher of a node takes a turn. -/
  | turn (node place : Nat)
  /-- All watchers work, each through so many answers. -/
  | settle (turns : Nat)
  /-- Somebody else does anything with the channel. -/
  | others (change : γ → γ)

/-- What is done with a broadcast, with tamed user code. -/
def BroadcastAct.tamed (which : Choice) : BroadcastAct C γ → BroadcastAct C γ
  | register place kind handler => register place kind (handler.tamed which (C.tag kind))
  | act => act

/-- What is done with a broadcast hands in no code that panics. -/
def BroadcastAct.Calm : BroadcastAct C γ → Prop
  | register _ _ handler => handler.behaviour.Calm
  | _ => True

theorem BroadcastAct.calm_tamed (act : BroadcastAct C γ) : (act.tamed Choice.all).Calm := by
  cases act with
  | register place kind handler => exact EventBehaviour.calm_tamed ..
  | _ => trivial

namespace Broadcast

/-- A broadcast whose user code was tamed. -/
def tamed (which : Choice) (b : Broadcast C γ) : Broadcast C γ :=
  { b with nodes := b.nodes.map (Node.tamed which) }

variable [BroadcastMedium γ]

/-- Do something with a broadcast. -/
def perform (b : Broadcast C γ) : BroadcastAct C γ → Activity C (Feedback C × Broadcast C γ)
  | .addNode waitTime => return (.nothing, { b with nodes := b.nodes ++ [.start waitTime] })
  | .register place kind handler =>
    match b.nodes[place]? with
    | none => return (.nothing, b)
    | some n => do
      let (result, n, medium) ← n.register kind handler b.medium
      return (.result result, ⟨medium, b.nodes.set place n⟩)
  | .dispatch _ event => do
    let (result, medium) ← Node.dispatch event b.medium
    return (.result result, { b with medium })
  | .turn node place =>
    match b.nodes[node]? with
    | none => return (.nothing, b)
    | some n => do
      let (n, medium) ← n.turnAt place b.medium
      return (.nothing, ⟨medium, b.nodes.set node n⟩)
  | .settle turns => do
    let (medium, nodes) ← Cluster.settleNodes turns b.medium b.nodes
    return (.nothing, ⟨medium, nodes⟩)
  | .others change => return (.nothing, { b with medium := change b.medium })

/-- What is done with a broadcast of tamed user code is as before. -/
theorem perform_tamed (b : Broadcast C γ) (act : BroadcastAct C γ) :
    (b.tamed which).perform (act.tamed which) = Prod.map id (tamed which) <$> b.perform act := by
  cases act with
  | addNode waitTime =>
    simp only [perform, tamed, BroadcastAct.tamed, map_pure, Prod.map_apply, List.map_append]
    rfl
  | register place kind handler =>
    simp only [perform, tamed, BroadcastAct.tamed, List.getElem?_map]
    cases b.nodes[place]? with
    | none => rfl
    | some n =>
      simp only [Option.map_some, Node.register_tamed, bind_map_left, map_bind, map_pure]
      refine bind_congr fun outcome => ?_
      simp only [Prod.map_fst, Prod.map_snd, Prod.map_apply, tamed, List.map_set]
      rfl
  | dispatch kind event =>
    simp only [perform, tamed, BroadcastAct.tamed, map_bind, map_pure]
    rfl
  | turn node place =>
    simp only [perform, tamed, BroadcastAct.tamed, List.getElem?_map]
    cases b.nodes[node]? with
    | none => rfl
    | some n =>
      simp only [Option.map_some, Node.turnAt_tamed, bind_map_left, map_bind, map_pure]
      refine bind_congr fun outcome => ?_
      simp only [Prod.map_fst, Prod.map_snd, Prod.map_apply, tamed, List.map_set]
      rfl
  | settle turns =>
    simp only [perform, tamed, BroadcastAct.tamed, Cluster.settleNodes_tamed, bind_map_left,
      map_bind, map_pure]
    rfl
  | others change => rfl

end Broadcast

/-! ## Services -/

/-- Registries, a network and a broadcast in one session, which is the network's. -/
structure Service (C : Catalogue) (γ : Type) where
  network : Network.Rehearsal C
  registries : Registries C
  broadcast : Broadcast C γ

/-- What is done with a service. -/
inductive ServiceAct (C : Catalogue) (γ : Type) where
  | direct (act : DirectAct C)
  | queue (act : QueueAct C)
  | broadcast (act : BroadcastAct C γ)

/-- What is done with a service, with tamed user code. -/
def ServiceAct.tamed (which : Choice) : ServiceAct C γ → ServiceAct C γ
  | direct act => direct (act.tamed which)
  | queue act => queue (act.tamed which)
  | broadcast act => broadcast (act.tamed which)

/-- What is done with a service hands in no code that panics. -/
def ServiceAct.Calm : ServiceAct C γ → Prop
  | direct act => act.Calm
  | queue act => act.Calm
  | broadcast act => act.Calm

/-- If all panics are replaced, none is left. -/
theorem ServiceAct.calm_tamed (act : ServiceAct C γ) : (act.tamed Choice.all).Calm := by
  cases act with
  | direct act => exact act.calm_tamed
  | queue act => exact act.calm_tamed
  | broadcast act => exact act.calm_tamed

/-- What carries messages at first: a broker with its visibility timeout and the wait of its polls,
or mail that is held. -/
def Carrier.start : Option (Duration × Duration) → Carrier
  | some (visibility, waitTime) => broker (.start visibility waitTime)
  | none => held .empty

namespace Service

/-- A service without user code. -/
def start (setups : List Setup) (times : Option (Duration × Duration)) (medium : γ)
    (s : Session C) : Service C γ :=
  ⟨⟨⟨s, .start (.start times)⟩, setups.mapIdx AnyFacade.start⟩, .empty, ⟨medium, []⟩⟩

/-- A service whose user code was tamed. -/
def tamed (which : Choice) (s : Service C γ) : Service C γ :=
  ⟨Network.rehearsalTamed which s.network, s.registries.tamed which, s.broadcast.tamed which⟩

/-- Where there is no user code, nothing is tamed. -/
theorem tamed_start (setups : List Setup) (times : Option (Duration × Duration)) (medium : γ)
    (s : Session C) : (start setups times medium s).tamed which = start setups times medium s := by
  have hfacades : (setups.mapIdx AnyFacade.start).map (AnyFacade.tamed which) =
      (setups.mapIdx AnyFacade.start : List (AnyFacade C)) := by
    have hfacade (address : Nat) (setup : Setup) :
        (AnyFacade.start address setup : AnyFacade C).tamed which =
          AnyFacade.start address setup := by
      cases setup <;> rfl
    refine List.ext_getElem? fun address => ?_
    rw [List.getElem?_map, List.getElem?_mapIdx, Option.map_map]
    exact congrArg (Option.map · setups[address]?) (funext (hfacade address))
  have hcarrier : (Carrier.start times).tamed which = Carrier.start times := by
    cases times <;> rfl
  simp only [tamed, start, Network.rehearsalTamed, Network.tamed, Exchange.mapTransport,
    Rehearsed.map, Rehearsed.start, hfacades, hcarrier]
  rfl

variable [BroadcastMedium γ]

/-- Do something with a service. -/
def step (act : ServiceAct C γ) : StateM (Service C γ) (Feedback C) := fun s =>
  match act with
  | .direct act =>
    let ((feedback, registries), network) := Network.act (s.registries.perform act) s.network
    (feedback, { s with network, registries })
  | .queue act =>
    let (feedback, network) := Network.conduct act s.network
    (feedback, { s with network })
  | .broadcast act =>
    let ((feedback, broadcast), network) := Network.act (s.broadcast.perform act) s.network
    (feedback, { s with network, broadcast })

/-- Do things with a service one after the other. -/
def run : List (ServiceAct C γ) → StateM (Service C γ) (List (Feedback C))
  | [] => return []
  | act :: acts => do
    let feedback ← step act
    return feedback :: (← run acts)

/-- One operation on a service of tamed user code is as before. -/
theorem step_tamed (act : ServiceAct C γ) :
    Mirrors (tamed which) id (step (act.tamed which)) (step act) := by
  intro s
  cases act with
  | direct act =>
    simp only [ServiceAct.tamed, step, tamed, Registries.perform_tamed]
    rfl
  | queue act =>
    simp only [ServiceAct.tamed, step, tamed, Network.mirrors_conduct act s.network]
    rfl
  | broadcast act =>
    simp only [ServiceAct.tamed, step, tamed, Broadcast.perform_tamed]
    rfl

/-- Any number of operations on a service of tamed user code are as before. -/
theorem run_tamed (which : Choice) (acts : List (ServiceAct C γ)) :
    Mirrors (tamed which) id (run (acts.map (ServiceAct.tamed which))) (run acts) := by
  induction acts with
  | nil => exact mirrors_pure (g := id) _
  | cons act acts ih =>
    exact mirrors_bind (step_tamed act) fun feedback =>
      mirrors_bind ih fun rest => mirrors_pure (g := id) (feedback :: rest)

end Service
end Switchboard
