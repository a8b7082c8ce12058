import Switchboard.Proofs.Containment.Consumers
import Switchboard.Proofs.Containment.Registries
import Switchboard.Proofs.Network.Enlistment

/-!
# Networks of tamed user code

A network whose user code was tamed is the image of the network under taming.  Whatever is done with
the network is done with its image, too, with the same answer, and leads to the image of what it
leads to.  That is put together from rules for plain values and for sequences, from what the
transports do, and from the look at the façades' registries and at the broker's consumers.

Main results:

- Definition {lit}`Mirrors`: one computation does to an image what another does.
- Definition {lit}`Transport.Respects`: a transport goes about tamed subscribers as before.
- Theorem {lit}`Facade.mirrors_enroll`: a registration at a tamed façade.
- Theorem {lit}`Network.reception_tamed`: what tamed façades make of a message.
- Theorems {lit}`Network.mirrors_onCommands`, {lit}`Network.mirrors_onEvents`,
  {lit}`Network.mirrors_withBroker` and {lit}`Network.mirrors_withHeld`: the use of a network's
  parts.
-/

namespace Switchboard

variable {C : Catalogue} {ρ σ τ α β γ δ : Type} {which : Choice}

/-! ## Images -/

/-- One computation does to the image of a state what another one does to the state, and gives the
image of its value. -/
def Mirrors (image : σ → σ) (g : α → β) (a' : StateM σ β) (a : StateM σ α) : Prop :=
  ∀ s, a' (image s) = (g (a s).1, image (a s).2)

section
variable {image : σ → σ} {g : α → β} {h : γ → δ} {a' : StateM σ β} {a : StateM σ α}

theorem mirrors_pure (value : α) : Mirrors image g (pure (g value)) (pure value) := fun _ => rfl

/-- Sequences mirror each other if their parts do. -/
theorem mirrors_bind {next' : β → StateM σ δ} {next : α → StateM σ γ} (first : Mirrors image g a' a)
    (rest : ∀ value, Mirrors image h (next' (g value)) (next value)) :
    Mirrors image h (a' >>= next') (a >>= next) := by
  intro s
  rw [bind_apply, bind_apply, first s]
  exact rest _ _

/-- What is told of a value does not depend on the state. -/
theorem mirrors_map {b' b : StateM σ α} (first : Mirrors image id b' b) (tell : α → γ) :
    Mirrors image id (tell <$> b') (tell <$> b) := by
  intro s
  rw [map_apply, map_apply, first s]
  rfl

end

namespace Exchange

/-- The image of an exchange under a change of its transport. -/
def mapTransport (tame : τ → τ) (x : Exchange C τ) : Exchange C τ :=
  ⟨x.session, tame x.transport⟩

/-- What is done in the session alone does not depend on the transport. -/
theorem mirrors_act (tame : τ → τ) (activity : Activity C α) :
    Mirrors (mapTransport tame) id (act activity) (act activity) := fun _ => rfl

end Exchange

/-! ## Transports -/

/-- A transport goes about messages, and about tamed subscribers, as before. -/
structure Transport.Respects (C : Catalogue) [Transport C τ] (which : Choice) (tame : τ → τ) :
    Prop where
  send : ∀ (queue : String) (m : Message), Mirrors (Exchange.mapTransport tame) id
    (Transport.send (C := C) queue m) (Transport.send queue m)
  subscribe : ∀ (queue : String) (subscriber : Subscriber),
    Mirrors (Exchange.mapTransport tame) id
      (Transport.subscribe (C := C) queue (subscriber.tamed which))
      (Transport.subscribe queue subscriber)

theorem Broker.respects (which : Choice) : Transport.Respects C which (Broker.tamed which) where
  send queue m x := by
    simp only [Transport.send, Exchange.carry, Exchange.mapTransport, Broker.send_tamed]
    rfl
  subscribe queue subscriber x := by
    simp only [Transport.subscribe, Exchange.mapTransport, Broker.subscribe_tamed, map_apply]
    rfl

theorem HeldMail.respects (which : Choice) : Transport.Respects C which (HeldMail.tamed which) where
  send _ _ _ := rfl
  subscribe queue subscriber x := by
    simp only [Transport.subscribe, Exchange.carry, Exchange.mapTransport, HeldMail.subscribe,
      HeldMail.tamed, List.map_append]
    rfl

/-- A transport of either sort whose subscribers were tamed. -/
def Carrier.tamed (which : Choice) : Carrier → Carrier
  | held mail => held (mail.tamed which)
  | broker active => broker (active.tamed which)

theorem Carrier.respects (which : Choice) : Transport.Respects C which (Carrier.tamed which) where
  send queue m := by
    rintro ⟨s, mail | active⟩
    · rfl
    · have hsent := (Broker.respects which).send queue m (⟨s, active⟩ : Exchange C Broker)
      simp only [Exchange.mapTransport, Transport.send, Carrier.tamed] at hsent ⊢
      rw [hsent]
      rfl
  subscribe queue subscriber := by
    rintro ⟨s, mail | active⟩
    · have hasked := (HeldMail.respects which).subscribe queue subscriber
        (⟨s, mail⟩ : Exchange C HeldMail)
      simp only [Exchange.mapTransport, Transport.subscribe, Carrier.tamed] at hasked ⊢
      rw [hasked]
      rfl
    · have hasked := (Broker.respects which).subscribe queue subscriber
        (⟨s, active⟩ : Exchange C Broker)
      simp only [Exchange.mapTransport, Transport.subscribe, Carrier.tamed] at hasked ⊢
      rw [hasked]
      rfl

/-- A transport with planned faults, the inner transport being changed. -/
def Rehearsed.map (tame : τ → τ) (r : Rehearsed τ) : Rehearsed τ :=
  { r with inner := tame r.inner }

theorem Rehearsed.respects [Transport C τ] {tame : τ → τ} (h : Transport.Respects C which tame) :
    Transport.Respects C which (Rehearsed.map tame) where
  send queue m x := by
    obtain ⟨s, inner, sendFaults, subscribeFaults, sent⟩ := x
    cases sendFaults with
    | cons fault rest => rfl
    | nil =>
      have hsent := h.send queue m ⟨s, inner⟩
      simp only [Exchange.mapTransport, Rehearsed.map, Transport.send, Rehearsed.within] at hsent ⊢
      rw [hsent]
      rfl
  subscribe queue subscriber x := by
    obtain ⟨s, inner, sendFaults, subscribeFaults, sent⟩ := x
    cases subscribeFaults with
    | cons fault rest => rfl
    | nil =>
      have hasked := h.subscribe queue subscriber ⟨s, inner⟩
      simp only [Exchange.mapTransport, Rehearsed.map, Transport.subscribe, Rehearsed.within]
        at hasked ⊢
      rw [hasked]
      rfl

/-! ## Façades -/

namespace Facade

/-- A façade whose registry is changed. -/
def mapRegistry (f : Facade C ρ) (tame : ρ → ρ) : Facade C ρ :=
  { f with registry := tame f.registry }

/-- Routes do not depend on the registry. -/
theorem addRoute_mapRegistry (f : Facade C ρ) (kind : C.Kind) (tame : ρ → ρ) :
    (f.mapRegistry tame).addRoute kind = (f.addRoute kind).mapRegistry tame := by
  have hroutes : (f.mapRegistry tame).routes = f.routes := rfl
  unfold addRoute
  rw [hroutes]
  split <;> rfl

variable {tameRegistry : ρ → ρ} {tame : τ → τ} [Transport C τ]

/-- A registration at a façade whose registry was changed, if the changed registry takes the same
in. -/
theorem mirrors_enroll (tameRegistry : ρ → ρ) (hrespects : Transport.Respects C which tame)
    (f : Facade C ρ) (kind : C.Kind) {register' register : ρ → Except DispatchError ρ}
    (hregister : register' (tameRegistry f.registry) =
      (register f.registry).map tameRegistry) :
    Mirrors (Exchange.mapTransport tame) (Prod.map id (mapRegistry · tameRegistry))
      ((f.mapRegistry tameRegistry).enroll kind register') (f.enroll kind register) := by
  have hregister' : register' (f.mapRegistry tameRegistry).registry =
    (register f.registry).map tameRegistry := hregister
  unfold enroll
  rw [hregister']
  cases register f.registry with
  | error e => exact mirrors_pure _
  | ok registry =>
    have hroute : ({ f.mapRegistry tameRegistry with registry := tameRegistry registry } :
        Facade C ρ).addRoute kind =
          (({ f with registry } : Facade C ρ).addRoute kind).mapRegistry tameRegistry :=
      addRoute_mapRegistry { f with registry } kind tameRegistry
    simp only [Except.map, hroute]
    generalize ({ f with registry } : Facade C ρ).addRoute kind = g
    have hsubscribed : (g.mapRegistry tameRegistry).subscribed.contains
        ((g.mapRegistry tameRegistry).queueName (C.tag kind)) =
      g.subscribed.contains (g.queueName (C.tag kind)) := rfl
    rw [hsubscribed]
    split
    · exact mirrors_pure _
    · refine mirrors_bind (hrespects.subscribe _ (.facade g.address)) fun answer => ?_
      cases answer with
      | error e => exact mirrors_pure _
      | ok _ => exact mirrors_bind (Exchange.mirrors_act tame _) fun _ => mirrors_pure _

/-- Publishing at a façade whose registry was changed. -/
theorem mirrors_publish (hrespects : Transport.Respects C which tame) (f : Facade C ρ)
    (ctx : Context) {kind : C.Kind} (payload : C.Value kind) (organisation : Option Uuid) :
    Mirrors (Exchange.mapTransport tame) id
      ((f.mapRegistry tameRegistry).publish ctx payload organisation)
      (f.publish ctx payload organisation) := by
  unfold publish
  refine mirrors_bind (Exchange.mirrors_act tame _) fun freshId => ?_
  cases hcompose : compose freshId ctx payload organisation with
  | error refusal =>
    simp only [id, hcompose]
    exact mirrors_pure (g := id) _
  | ok m =>
    simp only [id, hcompose]
    refine mirrors_bind (Exchange.mirrors_act tame _) fun _ => ?_
    refine mirrors_bind (hrespects.send _ m) fun answer => ?_
    cases answer <;> exact mirrors_pure (g := id) _

/-- Receiving at a façade whose registry was changed, if the changed registry runs payloads as
before. -/
theorem route_mapRegistry (f : Facade C ρ)
    {run : ρ → Context → Message → (kind : C.Kind) → C.Value kind →
      Activity C (Except DispatchError Unit)}
    (hrun : ∀ ctx m kind payload,
      run (tameRegistry f.registry) ctx m kind payload = run f.registry ctx m kind payload)
    (ctx : Context) (m : Message) :
    (f.mapRegistry tameRegistry).route run ctx m = f.route run ctx m := by
  simp only [route, mapRegistry, hrun]

end Facade

/-- A façade for commands whose registry was tamed. -/
def CommandFacade.tamed (which : Choice) (f : CommandFacade C) : CommandFacade C :=
  f.mapRegistry (CommandRegistry.tamed which)

/-- A façade for events whose registry was tamed. -/
def EventFacade.tamed (which : Choice) (f : EventFacade C) : EventFacade C :=
  f.mapRegistry (EventRegistry.tamed which)

/-- A façade of either sort whose registry was tamed. -/
def AnyFacade.tamed (which : Choice) : AnyFacade C → AnyFacade C
  | commands f => commands (CommandFacade.tamed which f)
  | events f => events (EventFacade.tamed which f)

section
variable {tame : τ → τ} [Transport C τ]

/-- A handler of a command is handed in at a tamed façade as before. -/
theorem CommandFacade.mirrors_register (hrespects : Transport.Respects C which tame)
    (f : CommandFacade C) (kind : C.Kind) (handler : Handler C.Store (C.Value kind) Unit)
    (authorizer : Authorizer) :
    Mirrors (Exchange.mapTransport tame) (Prod.map id (tamed which))
      (CommandFacade.register (tamed which f) kind (handler.tamed which (C.tag kind))
        (authorizer.tamed which (C.tag kind)))
      (f.register kind handler authorizer) := by
  unfold register
  refine Facade.mirrors_enroll (CommandRegistry.tamed which) hrespects f kind ?_
  exact f.registry.register_tamed which kind handler authorizer

/-- A handler of an event is handed in at a tamed façade as before. -/
theorem EventFacade.mirrors_register (hrespects : Transport.Respects C which tame)
    (f : EventFacade C) (kind : C.Kind) (handler : EventHandler (C.Value kind)) :
    Mirrors (Exchange.mapTransport tame) (Prod.map id (tamed which))
      (EventFacade.register (tamed which f) kind (handler.tamed which (C.tag kind)))
      (f.register kind handler) := by
  unfold register
  refine Facade.mirrors_enroll (EventRegistry.tamed which) hrespects f kind ?_
  exact f.registry.register_tamed which kind handler

/-- A command is published at a tamed façade as before. -/
theorem CommandFacade.mirrors_execute (hrespects : Transport.Respects C which tame)
    (f : CommandFacade C) (ctx : Context) (organisation : Option Uuid) {kind : C.Kind}
    (command : C.Value kind) :
    Mirrors (Exchange.mapTransport tame) id
      (CommandFacade.execute (tamed which f) ctx organisation command)
      (f.execute ctx organisation command) := by
  have hroutes : (tamed which f).routes? kind = f.routes? kind := rfl
  unfold execute
  rw [hroutes]
  cases f.routes? kind with
  | error e => exact mirrors_pure (g := id) _
  | ok routed =>
    cases routed with
    | false => exact mirrors_pure (g := id) _
    | true => exact f.mirrors_publish hrespects ctx command organisation

/-- An event is published at a tamed façade as before. -/
theorem EventFacade.mirrors_dispatch (hrespects : Transport.Respects C which tame)
    (f : EventFacade C) (ctx : Context) {kind : C.Kind} (event : C.Value kind) :
    Mirrors (Exchange.mapTransport tame) id (EventFacade.dispatch (tamed which f) ctx event)
      (f.dispatch ctx event) := by
  have hroutes : (tamed which f).routes? kind = f.routes? kind := rfl
  unfold dispatch
  rw [hroutes]
  cases f.routes? kind with
  | error e => exact mirrors_pure (g := id) _
  | ok routed => exact f.mirrors_publish hrespects ctx event none

end

/-- A tamed façade makes of a message what it made of it before. -/
theorem CommandFacade.receive_tamed (f : CommandFacade C) (ctx : Context) (m : Message) :
    CommandFacade.receive (tamed which f) ctx m = f.receive ctx m :=
  f.route_mapRegistry
    (fun ctx m _ command => f.registry.execute_tamed which ctx m.organisation command) ctx m

/-- A tamed façade makes of a message what it made of it before. -/
theorem EventFacade.receive_tamed (f : EventFacade C) (ctx : Context) (m : Message) :
    EventFacade.receive (tamed which f) ctx m = f.receive ctx m :=
  f.route_mapRegistry (fun ctx _ _ event => f.registry.dispatch_tamed which ctx event) ctx m

/-! ## Networks -/

namespace Network

/-- A network whose façades were tamed, over a changed transport. -/
def tamed (which : Choice) (tame : τ → τ) (n : Network C τ) : Network C τ :=
  ⟨n.exchange.mapTransport tame, n.facades.map (AnyFacade.tamed which)⟩

/-- The subscribers of a network make the same of a message when they are tamed. -/
theorem reception_tamed (which : Choice) (facades : List (AnyFacade C)) :
    (reception (facades.map (AnyFacade.tamed which))).Tames which (reception facades) := by
  intro subscriber queue ctx m
  cases subscriber with
  | consumer c => exact c.containCheck_call_tamed which queue ctx m
  | facade address =>
    simp only [Subscriber.tamed, reception, List.getElem?_map]
    cases facades[address]? with
    | none => rfl
    | some f =>
      cases f with
      | commands f => simp only [Option.map_some, AnyFacade.tamed, CommandFacade.receive_tamed]
      | events f => simp only [Option.map_some, AnyFacade.tamed, EventFacade.receive_tamed]

variable {tame : τ → τ}

/-- What is done with the transport. -/
theorem mirrors_direct {use' use : StateM (Exchange C τ) α}
    (h : Mirrors (Exchange.mapTransport tame) id use' use) :
    Mirrors (tamed which tame) id (direct use') (direct use) := by
  intro n
  simp only [direct, tamed, h n.exchange]
  rfl

/-- What is done at a façade for commands. -/
theorem mirrors_onCommands (address : Nat)
    {use' use : CommandFacade C → StateM (Exchange C τ) (α × CommandFacade C)}
    (h : ∀ f, Mirrors (Exchange.mapTransport tame) (Prod.map id (CommandFacade.tamed which))
      (use' (CommandFacade.tamed which f)) (use f)) :
    Mirrors (tamed which tame) id (onCommands address use') (onCommands address use) := by
  intro n
  simp only [onCommands, tamed, List.getElem?_map]
  cases n.facades[address]? with
  | none => rfl
  | some f =>
    cases f with
    | events f => rfl
    | commands f =>
      simp only [Option.map_some, AnyFacade.tamed, h f n.exchange]
      generalize use f n.exchange = used
      obtain ⟨⟨value, g⟩, x⟩ := used
      simp only [Prod.map_apply, List.map_set]
      rfl

/-- What is done at a façade for events. -/
theorem mirrors_onEvents (address : Nat)
    {use' use : EventFacade C → StateM (Exchange C τ) (α × EventFacade C)}
    (h : ∀ f, Mirrors (Exchange.mapTransport tame) (Prod.map id (EventFacade.tamed which))
      (use' (EventFacade.tamed which f)) (use f)) :
    Mirrors (tamed which tame) id (onEvents address use') (onEvents address use) := by
  intro n
  simp only [onEvents, tamed, List.getElem?_map]
  cases n.facades[address]? with
  | none => rfl
  | some f =>
    cases f with
    | commands f => rfl
    | events f =>
      simp only [Option.map_some, AnyFacade.tamed, h f n.exchange]
      generalize use f n.exchange = used
      obtain ⟨⟨value, g⟩, x⟩ := used
      simp only [Prod.map_apply, List.map_set]
      rfl

/-! ## Rehearsals -/

/-- A network over a carrier with planned faults whose user code was tamed. -/
def rehearsalTamed (which : Choice) (n : Rehearsal C) : Rehearsal C :=
  n.tamed which (Rehearsed.map (Carrier.tamed which))

theorem respects_rehearsal :
    Transport.Respects C which (Rehearsed.map (Carrier.tamed which)) :=
  Rehearsed.respects (Carrier.respects which)

/-- What is done with the broker of a network, if it is done alike for all receptions that are alike
once panics are contained. -/
theorem mirrors_withBroker {use : Reception C → Broker → Activity C (α × Broker)}
    (h : ∀ {receive' receive : Reception C}, receive'.Tames which receive → ∀ b,
      use receive' (b.tamed which) = Prod.map id (Broker.tamed which) <$> use receive b) :
    Mirrors (rehearsalTamed which) id (withBroker use) (withBroker use) := by
  rintro ⟨⟨s, ⟨carrier, sendFaults, subscribeFaults, sent⟩⟩, facades⟩
  cases carrier with
  | held mail => rfl
  | broker b =>
    have hused := congrFun (h (reception_tamed which facades) b) s
    rw [map_apply] at hused
    simp only [withBroker, rehearsalTamed, tamed, Exchange.mapTransport, Rehearsed.map,
      Carrier.tamed, hused]
    rfl

/-- What is done with the held mail of a network. -/
theorem mirrors_withHeld {use : Reception C → HeldMail → Activity C (α × HeldMail)}
    (h : ∀ {receive' receive : Reception C}, receive'.Tames which receive → ∀ mail,
      use receive' (mail.tamed which) = Prod.map id (HeldMail.tamed which) <$> use receive mail) :
    Mirrors (rehearsalTamed which) id (withHeld use) (withHeld use) := by
  rintro ⟨⟨s, ⟨carrier, sendFaults, subscribeFaults, sent⟩⟩, facades⟩
  cases carrier with
  | broker b => rfl
  | held mail =>
    have hused := congrFun (h (reception_tamed which facades) mail) s
    rw [map_apply] at hused
    simp only [withHeld, rehearsalTamed, tamed, Exchange.mapTransport, Rehearsed.map,
      Carrier.tamed, hused]
    rfl

/-- The consumers of a network work as before. -/
theorem mirrors_settle : Mirrors (rehearsalTamed which) id (settle (C := C)) settle := by
  refine mirrors_bind (g := id) (mirrors_withBroker fun h b => ?_) fun rested =>
    mirrors_pure (g := id) _
  have hnow : (b.tamed which).now = b.now := rfl
  simp only [Broker.settle_tamed h, hnow, bind_map_left, map_bind, map_pure]
  rfl

/-- Time passes as before. -/
theorem mirrors_sleep (duration : Duration) :
    Mirrors (rehearsalTamed which) id (sleep (C := C) duration) (sleep duration) := by
  refine mirrors_withBroker fun h b => ?_
  simp only [Broker.sleep_tamed h, bind_map_left, map_bind, map_pure]
  rfl

/-- Somebody begins to wait for a message as before. -/
theorem mirrors_beginReceive (queue : String) (wait : Duration) :
    Mirrors (rehearsalTamed which) id (beginReceive (C := C) queue wait)
      (beginReceive queue wait) :=
  mirrors_withBroker fun _ b => by
    simp only [Broker.beginReceive_tamed, bind_map_left, map_bind, map_pure]
    rfl

/-- And gets the same reply. -/
theorem mirrors_await : Mirrors (rehearsalTamed which) id (await (C := C)) await :=
  mirrors_bind (g := id) (mirrors_withBroker fun h b => b.await_tamed h Broker.patience) fun _ =>
    mirrors_pure (g := id) _

end Network
end Switchboard
