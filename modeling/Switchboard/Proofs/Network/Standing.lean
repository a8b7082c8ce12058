import Switchboard.Proofs.Facade.Publishing
import Switchboard.Proofs.Network.Staffing
import Switchboard.Proofs.Queue.History

/-!
# Where consumers stand

What may happen where façades publish and consume, in any order and with anybody else at the same
queues: handlers are handed in and taken or refused, events are published, single consumers take
their turns, and strangers do what they like with queues and session.

The invariant is that the consumers of a façade stand at the queues that it knows to have subscribed
to, and that a façade for events has handlers behind its routes and its queues.

Main results:

- Definition {lit}`Network.stir`: lets something happen.
- Theorem {lit}`Facade.grows_enroll`: what a registration makes of a façade and of the broker.
- Theorem {lit}`Network.settles_stir`: what anything that happens makes of a network.
- Theorem {lit}`Network.Manned.stirAll`: the invariant holds whatever happens.
- Theorem {lit}`Network.mem_posts_iff`: a façade's own consumer stands at a queue exactly if a
  registration for it was granted.
- Theorem {lit}`Network.round_eq_stirAll`: the rounds of a broker are made of what may happen.
-/

namespace Switchboard

variable {C : Catalogue} {ρ : Type}

/-! ## What may happen -/

/-- What may happen where façades publish and consume. -/
inductive Stir (C : Catalogue) where
  /-- A handler is handed in at a façade, which may refuse it. -/
  | enlist (e : Enlistment C)
  /-- An event is published at the façade of an address. -/
  | dispatch (address : Nat) (ctx : Context) (kind : C.Kind) (event : C.Value kind)
  /-- The consumer at a place takes a turn. -/
  | turn (place : Nat)
  /-- Time passes. -/
  | pass (duration : Duration)
  /-- Somebody subscribes to the raw messages of a queue. -/
  | subscribe (queue : String) (consumer : MessageConsumer)
  /-- Somebody else does anything with the queues, as a receiver or in the session. -/
  | others (session : Session C) (backlog : Backlog) (receivers : List Receiver)

namespace Network

/-- Publish an event at the façade of an address, if there is one for events. -/
def dispatch (address : Nat) (ctx : Context) {kind : C.Kind} (event : C.Value kind) :
    StateM (Network C Broker) (Option (Except DispatchError Unit)) :=
  onEvents address fun f => do return (← f.dispatch ctx event, f)

/-- Give a turn to the consumer at a place, if there is one. -/
def turn (n : Network C Broker) (place : Nat) : Network C Broker :=
  let b := n.exchange.transport
  match b.consumers[place]? with
  | none => n
  | some c =>
    let outcome := Session.inBackground
      (c.turn (reception n.facades) b.now b.waitTime b.backlog) n.exchange.session
    { n with exchange := ⟨outcome.2, { b with
      backlog := outcome.1.backlog, consumers := b.consumers.set place outcome.1.consumer }⟩ }

/-- Let something happen. -/
def stir (n : Network C Broker) : Stir C → Network C Broker
  | .enlist e => (enlist e n).2
  | .dispatch address ctx _ event => (dispatch address ctx event n).2
  | .turn place => n.turn place
  | .pass duration =>
    { n with exchange := { n.exchange with transport :=
      { n.exchange.transport with now := n.exchange.transport.now + duration } } }
  | .subscribe queue consumer => (direct (Transport.subscribe queue (.consumer consumer)) n).2
  | .others session backlog receivers =>
    { n with exchange := ⟨session, { n.exchange.transport with backlog, receivers }⟩ }

/-- Let things happen one after the other. -/
def stirAll (n : Network C Broker) (stirs : List (Stir C)) : Network C Broker :=
  stirs.foldl stir n

end Network

/-- Something is a registration that is granted, at the façade of an address and for a type whose
payloads go to a queue. -/
def Stir.Grants (n : Network C Broker) (address : Nat) (queue : String) : Stir C → Prop
  | .enlist e => e.address = address ∧ n.destination e = some queue ∧
    (Network.enlist e n).1 = some (.ok ())
  | _ => False

/-! ## What a façade becomes -/

namespace Facade

/-- What becomes of a façade whatever happens: it stays where it is, names its queues as before, and
keeps those that it subscribed to. -/
structure Grows (f f' : Facade C ρ) : Prop where
  address : f'.address = f.address
  naming : f'.naming = f.naming
  subscribed : ∀ queue, f.subscribed.contains queue = true →
    f'.subscribed.contains queue = true

namespace Grows

variable {f f' f'' : Facade C ρ}

theorem refl (f : Facade C ρ) : f.Grows f :=
  ⟨rfl, rfl, fun _ h => h⟩

theorem trans (h : f.Grows f') (h' : f'.Grows f'') : f.Grows f'' where
  address := h'.address.trans h.address
  naming := h'.naming.trans h.naming
  subscribed queue hqueue := h'.subscribed queue (h.subscribed queue hqueue)

theorem takeIn (f : Facade C ρ) (kind : C.Kind) (registry : ρ) :
    f.Grows (f.takeIn kind registry) where
  address := address_takeIn f kind registry
  naming := naming_takeIn f kind registry
  subscribed queue h := by rwa [subscribed_takeIn]

theorem noteSubscribed (h : f.Grows f') (queue : String) : f.Grows (f'.noteSubscribed queue) where
  address := h.address
  naming := h.naming
  subscribed other hother :=
    (contains_noteSubscribed f' queue other).mpr (.inr (h.subscribed other hother))

theorem queueName_eq (h : f.Grows f') (tag : String) : f'.queueName tag = f.queueName tag := by
  rw [queueName, queueName, h.naming]

end Grows

/-- How a registration over a broker ends: it is refused, and nothing changes; or the handler is
taken in, and the registration is granted if the queue is subscribed to already; or it is granted
with a new consumer at the queue. -/
theorem enroll_cases (f : Facade C ρ) (kind : C.Kind) (register : ρ → Except DispatchError ρ)
    (x : Exchange C Broker) :
    let queue := f.queueName (C.tag kind)
    let outcome := f.enroll kind register x
    (outcome.1.1 ≠ .ok () ∧ outcome.1.2 = f ∧ outcome.2.transport = x.transport) ∨
    ∃ registry, register f.registry = .ok registry ∧
      (((outcome.1.1 = .ok () ↔ f.subscribed.contains queue = true) ∧
          outcome.1.2 = f.takeIn kind registry ∧ outcome.2.transport = x.transport) ∨
        f.subscribed.contains queue = false ∧ outcome.1.1 = .ok () ∧
          outcome.1.2 = (f.takeIn kind registry).noteSubscribed queue ∧
          outcome.2.transport = { x.transport with consumers := x.transport.consumers ++
            [.start queue (.facade f.address) x.transport.now x.transport.waitTime] }) := by
  intro queue outcome
  cases hregister : register f.registry with
  | error e =>
    have heq : outcome = ((.error e, f), x) := enroll_of_error hregister
    exact .inl ⟨by rw [heq]; nofun, by rw [heq], by rw [heq]⟩
  | ok registry =>
    refine .inr ⟨registry, rfl, ?_⟩
    cases hsubscribed : f.subscribed.contains queue with
    | true =>
      have heq : outcome = ((.ok (), f.takeIn kind registry), x) :=
        enroll_of_subscribed hregister hsubscribed
      exact .inl ⟨by simp [heq], by rw [heq], by rw [heq]⟩
    | false =>
      cases hclosed : x.transport.backlog.closed with
      | true =>
        have hrefused : Transport.subscribe queue (.facade f.address) x = (.error .closed, x) := by
          simp [Transport.subscribe, Broker.subscribe, hclosed, pure_apply]
        have heq : outcome = ((.error (.transport .closed), f.takeIn kind registry), x) :=
          enroll_of_refused hregister hsubscribed hrefused
        exact .inl ⟨by simp [heq], by rw [heq], by rw [heq]⟩
      | false =>
        obtain ⟨log, haccepted⟩ := Broker.subscribe_of_open hclosed queue (.facade f.address)
          x.session
        obtain ⟨log', heq⟩ := enroll_of_accepted register hregister hsubscribed haccepted
        have heq' : outcome = _ := heq
        exact .inr ⟨rfl, by rw [heq'], by rw [heq'], by rw [heq']⟩

/-- What a registration makes of a broker: the façade has subscribed to the queue if the answer is
that it is granted, and there is one more consumer if the façade subscribes to it only now. -/
structure Engages (f f' : Facade C ρ) (queue : String) (answer : Except DispatchError Unit)
    (b b' : Broker) : Prop where
  backlog : b'.backlog = b.backlog
  subscribed : ∀ other, f'.subscribed.contains other = true ↔
    f.subscribed.contains other = true ∨ answer = .ok () ∧ other = queue
  posts : ∀ post, post ∈ b'.consumers.map Consumer.post ↔ post ∈ b.consumers.map Consumer.post ∨
    post.2 = .facade f.address ∧ f.subscribed.contains post.1 = false ∧
      f'.subscribed.contains post.1 = true

namespace Engages

variable {f f' : Facade C ρ} {queue : String} {answer : Except DispatchError Unit} {b b' : Broker}

/-- Without a new consumer the queue is subscribed to already or the registration is refused. -/
theorem of_same (hknown : answer = .ok () → f.subscribed.contains queue = true)
    (hsubscribed : f'.subscribed = f.subscribed) : f.Engages f' queue answer b b where
  backlog := rfl
  subscribed other := by
    rw [hsubscribed, iff_self_or]
    rintro ⟨hok, rfl⟩
    exact hknown hok
  posts post := by
    rw [hsubscribed, iff_self_or]
    rintro ⟨-, hnot, hcontains⟩
    rw [hnot] at hcontains
    cases hcontains

/-- With a new consumer there is one more queue that is subscribed to. -/
theorem of_start (hok : answer = .ok ()) (hnew : f.subscribed.contains queue = false)
    (hsubscribed : ∀ other, f'.subscribed.contains other = true ↔
      other = queue ∨ f.subscribed.contains other = true) :
    f.Engages f' queue answer b { b with
      consumers := b.consumers ++ [.start queue (.facade f.address) b.now b.waitTime] } where
  backlog := rfl
  subscribed other := by
    rw [hsubscribed, or_comm]
    simp only [hok, true_and]
  posts post := by
    rw [List.map_append, List.mem_append, List.map_singleton, List.mem_singleton, hsubscribed]
    refine or_congr_right ⟨?_, ?_⟩
    · rintro rfl
      exact ⟨rfl, hnew, .inl rfl⟩
    · rintro ⟨hsubscriber, hnot, hqueue | hcontains⟩
      · exact Prod.ext hqueue hsubscriber
      · rw [hnot] at hcontains
        cases hcontains

/-- What a registration makes of the broker does not depend on the registry. -/
theorem outline (h : f.Engages f' queue answer b b') :
    f.outline.Engages f'.outline queue answer b b' :=
  ⟨h.backlog, h.subscribed, h.posts⟩

end Engages

/-- A registration lets its façade grow, and brings no consumer but one at a queue of its own. -/
theorem grows_enroll (f : Facade C ρ) (kind : C.Kind) (register : ρ → Except DispatchError ρ)
    (x : Exchange C Broker) :
    let outcome := f.enroll kind register x
    f.Grows outcome.1.2 ∧ f.Engages outcome.1.2 (f.queueName (C.tag kind)) outcome.1.1
      x.transport outcome.2.transport := by
  intro outcome
  rcases f.enroll_cases kind register x with
    ⟨hrefused, hsame, htransport⟩ |
      ⟨registry, -, ⟨hok, htaken, htransport⟩ | ⟨hnew, hok, hnoted, htransport⟩⟩
  · exact ⟨hsame ▸ .refl f, htransport ▸ .of_same (absurd · hrefused) (congrArg _ hsame)⟩
  · refine ⟨htaken ▸ .takeIn f kind registry, htransport ▸ .of_same hok.mp ?_⟩
    exact (congrArg _ htaken).trans (subscribed_takeIn ..)
  · have hgrows := (Grows.takeIn f kind registry).noteSubscribed (f.queueName (C.tag kind))
    refine ⟨hnoted ▸ hgrows, htransport ▸ .of_start hok hnew fun other => ?_⟩
    rw [hnoted, contains_noteSubscribed, subscribed_takeIn]

end Facade

/-! ## Façades for events -/

/-- A registry has handlers for the tags that it had some for, and for the one that it took a
handler in for. -/
theorem EventRegistry.isRegistered_of_register {r r' : EventRegistry C} {kind : C.Kind}
    {handler : EventHandler (C.Value kind)} (h : r.register kind handler = .ok r') (tag : String) :
    r'.isRegistered tag = true ↔ tag = C.tag kind ∨ r.isRegistered tag = true := by
  obtain ⟨before, -, rfl⟩ := register_eq_ok_iff.mp h
  rw [isRegistered, Dictionary.contains, Dictionary.find?_insert]
  by_cases htag : tag = C.tag kind
  · simp [htag]
  · simp [htag, isRegistered, Dictionary.contains]

namespace EventFacade

/-- A façade has handlers behind everything: one for every tag that it routes, and one for every
queue that it subscribed to. -/
structure Backed (f : EventFacade C) : Prop where
  routes : ∀ tag, f.routes.contains tag = true → f.registry.isRegistered tag = true
  queues : ∀ queue, f.subscribed.contains queue = true →
    ∃ tag, f.registry.isRegistered tag = true ∧ f.queueName tag = queue

namespace Backed

variable {f : EventFacade C} {kind : C.Kind} {handler : EventHandler (C.Value kind)}
  {registry : EventRegistry C}

theorem takeIn (h : f.Backed) (hregister : f.registry.register kind handler = .ok registry) :
    EventFacade.Backed (f.takeIn kind registry) where
  routes tag hroute := by
    rw [Facade.registry_takeIn, EventRegistry.isRegistered_of_register hregister]
    by_cases htag : tag = C.tag kind
    · exact .inl htag
    · rw [Dictionary.contains, Facade.find?_routes_takeIn, if_neg (Ne.symm htag),
        Option.or_none] at hroute
      exact .inr (h.routes tag hroute)
  queues queue hqueue := by
    rw [Facade.subscribed_takeIn] at hqueue
    obtain ⟨tag, htag, hname⟩ := h.queues queue hqueue
    refine ⟨tag, ?_, (Facade.queueName_takeIn ..).trans hname⟩
    rw [Facade.registry_takeIn, EventRegistry.isRegistered_of_register hregister]
    exact .inr htag

theorem noteSubscribed (h : f.Backed) {tag : String} (htag : f.registry.isRegistered tag = true) :
    EventFacade.Backed (f.noteSubscribed (f.queueName tag)) where
  routes := h.routes
  queues queue hqueue := by
    rcases (Facade.contains_noteSubscribed ..).mp hqueue with rfl | hqueue
    · exact ⟨tag, htag, rfl⟩
    · exact h.queues queue hqueue

/-- However a registration ends, there are handlers behind everything. -/
theorem register (h : f.Backed) (kind : C.Kind) (handler : EventHandler (C.Value kind))
    (x : Exchange C Broker) : EventFacade.Backed (f.register kind handler x).1.2 := by
  rcases f.enroll_cases kind (fun registry => registry.register kind handler) x with
    ⟨-, hsame, -⟩ | ⟨registry, hregister, ⟨-, htaken, -⟩ | ⟨-, -, hnoted, -⟩⟩
  · rw [EventFacade.register, hsame]
    exact h
  · rw [EventFacade.register, htaken]
    exact h.takeIn hregister
  · have hknown : (f.takeIn kind registry).registry.isRegistered (C.tag kind) = true := by
      rw [Facade.registry_takeIn, EventRegistry.isRegistered_of_register hregister]
      exact .inl rfl
    rw [EventFacade.register, hnoted, ← Facade.queueName_takeIn f kind registry]
    exact (h.takeIn hregister).noteSubscribed hknown

end Backed

/-- To publish an event over a broker is to append its message to the queue of its tag, unless it
fails and changes nothing there. -/
theorem dispatch_cases (f : EventFacade C) (ctx : Context) {kind : C.Kind}
    (event : C.Value kind) (x : Exchange C Broker) :
    let outcome := f.dispatch ctx event x
    (outcome.1 ≠ .ok () ∧ outcome.2.transport = x.transport) ∨
    ∃ m backlog,
      Facade.compose (Uuid.random x.session.nextId).text ctx event none = .ok m ∧
      x.transport.backlog.send x.transport.now (f.queueName (C.tag kind)) m = .ok backlog ∧
      outcome.1 = .ok () ∧ outcome.2.transport = { x.transport with backlog } := by
  intro outcome
  by_cases hother : ∃ routed, f.routes.find? (C.tag kind) = some routed ∧ routed ≠ kind
  · obtain ⟨routed, hroute, hkind⟩ := hother
    have houtcome : outcome = _ := dispatch_of_other_route hroute hkind ctx event x
    rw [houtcome]
    exact .inl ⟨nofun, rfl⟩
  · have hown : ∀ routed, f.routes.find? (C.tag kind) = some routed → routed = kind :=
      fun routed hroute => of_not_not fun hkind => hother ⟨routed, hroute, hkind⟩
    have houtcome : outcome = f.publish ctx event none x := dispatch_of_route hown ctx event x
    rw [houtcome]
    obtain ⟨-, ⟨refusal, -, hanswer, hsame⟩ | ⟨-, hanswer, hsame⟩ | ⟨m, hm, hanswer, happended⟩⟩ :=
      f.publish_cases ctx event none x
    · exact .inl ⟨by rw [hanswer]; nofun, hsame⟩
    · exact .inl ⟨by rw [hanswer]; nofun, hsame⟩
    · exact .inr ⟨m, _, hm, Backlog.send_eq_ok_iff.mpr ⟨happended.isOpen, rfl⟩, hanswer,
        happended.eq⟩

end EventFacade

/-! ## Façades of either sort -/

/-- What becomes of a façade of either sort. -/
inductive AnyFacade.Grows : AnyFacade C → AnyFacade C → Prop
  | commands {f f' : CommandFacade C} (h : f.Grows f') : Grows (.commands f) (.commands f')
  | events {f f' : EventFacade C} (h : f.Grows f') (backed : EventFacade.Backed f →
      EventFacade.Backed f') : Grows (.events f) (.events f')

namespace AnyFacade.Grows

variable {f f' f'' : AnyFacade C}

theorem refl : (f : AnyFacade C) → f.Grows f
  | .commands f => .commands (.refl f)
  | .events f => .events (.refl f) id

theorem trans (h : f.Grows f') (h' : f'.Grows f'') : f.Grows f'' := by
  cases h with
  | commands h =>
    cases h' with
    | commands h' => exact .commands (h.trans h')
  | events h hbacked =>
    cases h' with
    | events h' hbacked' => exact .events (h.trans h') fun hf => hbacked' (hbacked hf)

theorem outline (h : f.Grows f') : f.outline.Grows f'.outline := by
  cases h with
  | commands h => exact ⟨h.address, h.naming, h.subscribed⟩
  | events h _ => exact ⟨h.address, h.naming, h.subscribed⟩

end AnyFacade.Grows

/-! ## What anything that happens makes of a network -/

namespace Network

/-- What may become of a network: its façades grow, and the new consumers for façades are those at
queues to which their façades subscribe now. -/
structure Settles (n n' : Network C Broker) : Prop where
  facades : ∀ address : Nat, Option.Rel AnyFacade.Grows n.facades[address]? n'.facades[address]?
  consumers : ∀ queue (address : Nat), (queue, .facade address) ∈ n'.posts ↔
    (queue, .facade address) ∈ n.posts ∨
      ∃ (place : Nat) (f f' : AnyFacade C), n.facades[place]? = some f ∧
        n'.facades[place]? = some f' ∧ f.outline.address = address ∧
          f.outline.subscribed.contains queue = false ∧
            f'.outline.subscribed.contains queue = true

variable {n n' : Network C Broker}

theorem grows_refl (n : Network C Broker) (address : Nat) :
    Option.Rel AnyFacade.Grows n.facades[address]? n.facades[address]? := by
  cases n.facades[address]? with
  | none => exact .none
  | some f => exact .some (.refl f)

/-- Façades that stay grow, and so does the one that changes. -/
theorem grows_set {address : Nat} {f f' : AnyFacade C} (hf : n.facades[address]? = some f)
    (h : f.Grows f') (other : Nat) :
    Option.Rel AnyFacade.Grows n.facades[other]? (n.facades.set address f')[other]? := by
  by_cases hsame : address = other
  · subst hsame
    rw [List.getElem?_set_self (List.getElem?_eq_some_iff.mp hf).1, hf]
    exact .some h
  · rw [List.getElem?_set_ne hsame]
    exact n.grows_refl other

/-- A network in which neither the façades nor the places of their consumers change. -/
theorem Settles.of_same (hfacades : n'.facades = n.facades)
    (hposts : ∀ queue (address : Nat),
      (queue, .facade address) ∈ n'.posts ↔ (queue, .facade address) ∈ n.posts) :
    n.Settles n' where
  facades address := hfacades ▸ n.grows_refl address
  consumers queue address := by
    rw [hposts, iff_self_or]
    rintro ⟨place, f, f', hf, hf', -, hnot, hcontains⟩
    rw [hfacades, hf, Option.some_inj] at hf'
    rw [← hf', hnot] at hcontains
    cases hcontains

/-- What a handler that is handed in makes of a network: a façade grows, and may engage a
consumer. -/
theorem enlist_cases (n : Network C Broker) (e : Enlistment C) :
    ((enlist e n).1 ≠ some (.ok ()) ∧ (enlist e n).2 = n) ∨
      ∃ f f' answer s b, n.facades[e.address]? = some f ∧ f.Grows f' ∧
        f.outline.Engages f'.outline (f.outline.queueName e.tag) answer n.exchange.transport b ∧
        (enlist e n).1 = some answer ∧
        (enlist e n).2 = ⟨⟨s, b⟩, n.facades.set e.address f'⟩ := by
  cases e with
  | command address entry =>
    simp only [enlist, onCommands, Enlistment.address]
    split
    · rename_i f hf
      obtain ⟨hgrows, hengages⟩ := f.grows_enroll entry.kind
        (fun registry => registry.register entry.kind entry.handler entry.authorizer) n.exchange
      exact .inr ⟨_, _, _, _, _, hf, .commands hgrows, hengages.outline, rfl, rfl⟩
    · exact .inl ⟨(Option.some_ne_none _).symm, rfl⟩
  | event address kind handler =>
    simp only [enlist, onEvents, Enlistment.address]
    split
    · rename_i f hf
      obtain ⟨hgrows, hengages⟩ := f.grows_enroll kind
        (fun registry => registry.register kind handler) n.exchange
      have hbacked := fun h : f.Backed => h.register kind handler n.exchange
      exact .inr ⟨_, _, _, _, _, hf, .events hgrows hbacked, hengages.outline, rfl, rfl⟩
    · exact .inl ⟨(Option.some_ne_none _).symm, rfl⟩

/-- A handler is handed in. -/
theorem settles_enlist (n : Network C Broker) (e : Enlistment C) : n.Settles (enlist e n).2 := by
  rcases n.enlist_cases e with ⟨-, hsame⟩ | ⟨f, f', answer, s, b, hf, hgrows, hengages, -, hn⟩
  · rw [hsame]
    exact .of_same rfl fun _ _ => .rfl
  · rw [hn]
    have hf' : (n.facades.set e.address f')[e.address]? = some f' :=
      List.getElem?_set_self (List.getElem?_eq_some_iff.mp hf).1
    refine ⟨grows_set hf hgrows, fun queue address => (hengages.posts _).trans
      (or_congr_right ⟨?_, ?_⟩)⟩
    · rintro ⟨hsubscriber, hnot, hcontains⟩
      exact ⟨e.address, f, f', hf, hf', (Subscriber.facade.inj hsubscriber).symm, hnot, hcontains⟩
    · rintro ⟨place, g, g', hg, hg', rfl, hnot, hcontains⟩
      by_cases hplace : e.address = place
      · subst hplace
        obtain rfl : f = g := Option.some_inj.mp (hf.symm.trans hg)
        obtain rfl : f' = g' := Option.some_inj.mp (hf'.symm.trans hg')
        exact ⟨rfl, hnot, hcontains⟩
      · -- only the façade at which the handler is handed in may subscribe
        have hsame : n.facades[place]? = some g' := (List.getElem?_set_ne hplace).symm.trans hg'
        obtain rfl : g = g' := Option.some_inj.mp (hg.symm.trans hsame)
        rw [hnot] at hcontains
        cases hcontains

/-- The façades do not change when one of them publishes an event, of which the broker's consumers
take no notice yet. -/
theorem dispatch_of_getElem? {address : Nat} {f : EventFacade C}
    (hf : n.facades[address]? = some (.events f)) (ctx : Context) {kind : C.Kind}
    (event : C.Value kind) :
    dispatch address ctx event n = (some (f.dispatch ctx event n.exchange).1,
      { n with exchange := (f.dispatch ctx event n.exchange).2 }) := by
  have hset : n.facades.set address (.events f) = n.facades := by
    obtain ⟨hlt, hget⟩ := List.getElem?_eq_some_iff.mp hf
    rw [← hget, List.set_getElem_self]
  simp only [dispatch, onEvents, hf, bind_apply, pure_apply, hset]

/-- Where there is no façade for events, nothing is published. -/
theorem dispatch_of_not_events {address : Nat}
    (hnone : ¬ ∃ f, n.facades[address]? = some (.events f)) (ctx : Context) {kind : C.Kind}
    (event : C.Value kind) : dispatch address ctx event n = (none, n) := by
  simp only [dispatch, onEvents]
  split
  · rename_i f hf
    exact absurd ⟨f, hf⟩ hnone
  · rfl

/-- To publish an event leaves the façades as they are and the consumers where they are. -/
theorem dispatch_keeps (n : Network C Broker) (address : Nat) (ctx : Context) {kind : C.Kind}
    (event : C.Value kind) :
    (dispatch address ctx event n).2.facades = n.facades ∧
      (dispatch address ctx event n).2.posts = n.posts := by
  by_cases hf : ∃ f, n.facades[address]? = some (.events f)
  · obtain ⟨f, hf⟩ := hf
    rw [dispatch_of_getElem? hf]
    rcases f.dispatch_cases ctx event n.exchange with
      ⟨-, htransport⟩ | ⟨m, backlog, -, -, -, htransport⟩
    · simp only [posts, htransport, and_self]
    · simp only [posts, htransport, and_self]
  · rw [dispatch_of_not_events hf]
    exact ⟨rfl, rfl⟩

/-- A turn leaves the façades as they are. -/
theorem facades_turn (n : Network C Broker) (place : Nat) : (n.turn place).facades = n.facades := by
  unfold turn
  dsimp only
  split <;> rfl

/-- A turn leaves the consumers where they are. -/
theorem posts_turn (n : Network C Broker) (place : Nat) : (n.turn place).posts = n.posts := by
  unfold turn
  dsimp only
  split
  · rfl
  · rename_i c hc
    obtain ⟨hpost, -⟩ := c.turn_keeps (reception n.facades) n.exchange.transport.now
      n.exchange.transport.waitTime n.exchange.transport.backlog
      { n.exchange.session with background := true }
    obtain ⟨hlt, rfl⟩ := List.getElem?_eq_some_iff.mp hc
    refine List.map_set.trans ((congrArg _ (hpost.trans ?_)).trans (List.set_getElem_self ?_))
    · exact (List.getElem_map Consumer.post).symm
    · rwa [List.length_map]

/-- Only handlers that are handed in change a façade. -/
theorem facades_stir (n : Network C Broker) {act : Stir C} (hquiet : ∀ e, act ≠ .enlist e) :
    (n.stir act).facades = n.facades := by
  cases act with
  | enlist e => exact absurd rfl (hquiet e)
  | dispatch other ctx kind event => exact (n.dispatch_keeps other ctx event).1
  | turn place => exact n.facades_turn place
  | pass duration => rfl
  | subscribe entered consumer => rfl
  | others session backlog receivers => rfl

/-- What may happen leaves a network's façades and their consumers where they are, or adds to
them. -/
theorem settles_stir (n : Network C Broker) (act : Stir C) : n.Settles (n.stir act) := by
  cases act with
  | enlist e => exact n.settles_enlist e
  | dispatch address ctx kind event =>
    obtain ⟨hfacades, hposts⟩ := n.dispatch_keeps address ctx event
    exact .of_same hfacades fun _ _ => by rw [stir, hposts]
  | turn place =>
    exact .of_same (n.facades_turn place) fun _ _ => by rw [stir, n.posts_turn place]
  | pass duration => exact .of_same rfl fun _ _ => .rfl
  | others session backlog receivers => exact .of_same rfl fun _ _ => .rfl
  | subscribe queue consumer =>
    refine .of_same rfl fun entered address => ?_
    cases hclosed : n.exchange.transport.backlog.closed with
    | true =>
      have hsame : (n.stir (.subscribe queue consumer)).posts = n.posts := by
        simp [stir, direct, Transport.subscribe, Broker.subscribe, hclosed, pure_apply, posts]
      rw [hsame]
    | false =>
      obtain ⟨log, haccepted⟩ := Broker.subscribe_of_open hclosed queue (.consumer consumer)
        n.exchange.session
      have hadded : (n.stir (.subscribe queue consumer)).posts =
          n.posts ++ [(queue, .consumer consumer)] := by
        simp [stir, direct, haccepted, posts, Consumer.post, Consumer.start, Consumer.beginPoll]
      rw [hadded, List.mem_append, List.mem_singleton]
      exact or_iff_left (by simp)

/-- What a façade grew from. -/
theorem Settles.of_getElem? (h : n.Settles n') {address : Nat} {f' : AnyFacade C}
    (hf' : n'.facades[address]? = some f') :
    ∃ f, n.facades[address]? = some f ∧ f.Grows f' := by
  have hrel := h.facades address
  rw [hf'] at hrel
  generalize n.facades[address]? = found at hrel
  cases hrel with
  | some hgrows => exact ⟨_, rfl, hgrows⟩

/-- What a façade grows into. -/
theorem Settles.getElem? (h : n.Settles n') {address : Nat} {f : AnyFacade C}
    (hf : n.facades[address]? = some f) :
    ∃ f', n'.facades[address]? = some f' ∧ f.Grows f' := by
  have hrel := h.facades address
  rw [hf] at hrel
  generalize n'.facades[address]? = found at hrel
  cases hrel with
  | some hgrows => exact ⟨_, rfl, hgrows⟩

/-- What a façade grows into, whatever happens. -/
theorem grows_stirAll {address : Nat} {f : AnyFacade C} (hf : n.facades[address]? = some f)
    (stirs : List (Stir C)) :
    ∃ f', (n.stirAll stirs).facades[address]? = some f' ∧ f.Grows f' := by
  induction stirs generalizing n f with
  | nil => exact ⟨f, hf, .refl f⟩
  | cons act rest ih =>
    obtain ⟨f', hf', hgrows⟩ := (n.settles_stir act).getElem? hf
    obtain ⟨f'', hf'', hgrows'⟩ := ih hf'
    exact ⟨f'', hf'', hgrows.trans hgrows'⟩

/-! ## The invariant -/

/-- The consumers of every façade stand at the queues that it has subscribed to, and every façade
for events has handlers behind everything. -/
structure Manned (n : Network C Broker) : Prop where
  located : ∀ (address : Nat) (f : AnyFacade C), n.facades[address]? = some f →
    f.outline.address = address
  posted : ∀ queue (address : Nat) (f : AnyFacade C), n.facades[address]? = some f →
    ((queue, .facade address) ∈ n.posts ↔ f.outline.subscribed.contains queue = true)
  backed : ∀ (address : Nat) (f : EventFacade C), n.facades[address]? = some (.events f) →
    f.Backed

namespace Manned

theorem start (setups : List Setup) (visibility waitTime : Duration) (s : Session C) :
    (start setups visibility waitTime s).Manned := by
  have hvacant : ∀ (address : Nat) (f : AnyFacade C),
      (Network.start setups visibility waitTime s).facades[address]? = some f →
        f.Vacant address := by
    intro address f hf
    rw [Network.start, List.getElem?_mapIdx] at hf
    obtain ⟨setup, -, rfl⟩ := Option.map_eq_some_iff.mp hf
    exact AnyFacade.vacant_start address setup
  refine ⟨fun address f hf => (hvacant address f hf).located, fun queue address f hf => ?_,
    fun address f hf => ⟨fun tag hroute => ?_, fun queue hqueue => ?_⟩⟩
  · have hnone : f.outline.subscribed = ∅ := (hvacant address f hf).subscribed
    rw [hnone]
    exact iff_of_false List.not_mem_nil Bool.false_ne_true
  · have hnone : f.routes = ∅ := (hvacant address _ hf).routes
    rw [hnone] at hroute
    cases hroute
  · have hnone : f.subscribed = ∅ := (hvacant address _ hf).subscribed
    rw [hnone] at hqueue
    cases hqueue

/-- One thing that happens keeps the invariant. -/
theorem stir (h : n.Manned) (act : Stir C) : (n.stir act).Manned := by
  have hsettles := n.settles_stir act
  constructor
  case located =>
    intro address f' hf'
    obtain ⟨f, hf, hgrows⟩ := hsettles.of_getElem? hf'
    exact hgrows.outline.address.trans (h.located address f hf)
  case posted =>
    intro queue address f' hf'
    obtain ⟨f, hf, hgrows⟩ := hsettles.of_getElem? hf'
    rw [hsettles.consumers, h.posted queue address f hf]
    constructor
    · rintro (hcontains | ⟨place, g, g', hg, hg', haddress, -, hcontains⟩)
      · exact hgrows.outline.subscribed queue hcontains
      · obtain rfl := (h.located place g hg).symm.trans haddress
        rw [hf', Option.some_inj] at hg'
        exact hg' ▸ hcontains
    · intro hcontains
      cases hbefore : f.outline.subscribed.contains queue with
      | true => exact .inl rfl
      | false =>
        exact .inr ⟨address, f, f', hf, hf', h.located address f hf, hbefore, hcontains⟩
  case backed =>
    intro address f' hf'
    obtain ⟨f, hf, hgrows⟩ := hsettles.of_getElem? hf'
    cases hgrows with
    | events _ hbacked => exact hbacked (h.backed address _ hf)

/-- The invariant holds whatever happens. -/
theorem stirAll (h : n.Manned) (stirs : List (Stir C)) : (n.stirAll stirs).Manned := by
  induction stirs generalizing n with
  | nil => exact h
  | cons act rest ih => exact ih (h.stir act)

end Manned

/-! ## Registrations that are granted -/

section
variable {address : Nat} {f f' : AnyFacade C} {queue : String}

/-- While things happen a registration is granted, at the façade of an address and for a type whose
payloads go to a queue. -/
def Granted (n : Network C Broker) (address : Nat) (queue : String) (stirs : List (Stir C)) :
    Prop :=
  ∃ before act after, stirs = before ++ act :: after ∧
    act.Grants (n.stirAll before) address queue

/-- A façade subscribes to a queue exactly by a registration that is granted. -/
theorem subscribed_stir (hf : n.facades[address]? = some f) {act : Stir C}
    (hf' : (n.stir act).facades[address]? = some f') :
    f'.outline.subscribed.contains queue = true ↔
      f.outline.subscribed.contains queue = true ∨ act.Grants n address queue := by
  by_cases hquiet : ∀ e, act ≠ .enlist e
  · rw [facades_stir n hquiet, hf, Option.some_inj] at hf'
    have hnot : ¬ act.Grants n address queue := by
      cases act with
      | enlist e => exact absurd rfl (hquiet e)
      | _ => exact id
    rw [hf', or_iff_left hnot]
  · obtain ⟨e, rfl⟩ : ∃ e, act = .enlist e := by simpa using hquiet
    simp only [stir, Stir.Grants] at hf' ⊢
    rcases n.enlist_cases e with
      ⟨hrefused, hsame⟩ | ⟨g, g', answer, s, b, hg, hgrows, hengages, hanswer, hn⟩
    · rw [hsame, hf, Option.some_inj] at hf'
      rw [hf']
      exact (or_iff_left fun hgrants => hrefused hgrants.2.2).symm
    · rw [hn] at hf'
      rw [destination_of_getElem? hg, hanswer, Option.some_inj, Option.some_inj]
      by_cases haddress : e.address = address
      · subst haddress
        obtain rfl : f = g := Option.some_inj.mp (hf.symm.trans hg)
        rw [List.getElem?_set_self (List.getElem?_eq_some_iff.mp hf).1, Option.some_inj] at hf'
        subst hf'
        rw [hengages.subscribed]
        simp only [true_and, and_comm, eq_comm]
      · rw [List.getElem?_set_ne haddress, hf, Option.some_inj] at hf'
        rw [hf']
        exact (or_iff_left fun hgrants => haddress hgrants.1).symm

/-- What a façade has subscribed to in the end it had subscribed to before, or a registration was
granted. -/
theorem subscribed_stirAll (hf : n.facades[address]? = some f) {stirs : List (Stir C)}
    (hf' : (n.stirAll stirs).facades[address]? = some f') :
    f'.outline.subscribed.contains queue = true ↔
      f.outline.subscribed.contains queue = true ∨ n.Granted address queue stirs := by
  unfold Granted
  induction stirs generalizing n f with
  | nil =>
    obtain rfl : f = f' := Option.some_inj.mp (hf.symm.trans hf')
    simp
  | cons act rest ih =>
    obtain ⟨g, hg, -⟩ := (n.settles_stir act).getElem? hf
    rw [ih hg hf', subscribed_stir hf hg, or_assoc, exists_moment_cons]
    rfl

/-- What every façade was at first. -/
theorem exists_of_stirAll {stirs : List (Stir C)}
    (hf' : (n.stirAll stirs).facades[address]? = some f') :
    ∃ f, n.facades[address]? = some f := by
  induction stirs generalizing n with
  | nil => exact ⟨f', hf'⟩
  | cons act rest ih =>
    obtain ⟨g, hg⟩ := ih hf'
    obtain ⟨f, hf, -⟩ := (n.settles_stir act).of_getElem? hg
    exact ⟨f, hf⟩

/-- Who stands where. -/
theorem mem_posts {subscriber : Subscriber} :
    (queue, subscriber) ∈ n.posts ↔
      ∃ c ∈ n.exchange.transport.consumers, c.queue = queue ∧ c.subscriber = subscriber := by
  simp only [posts, List.mem_map, Consumer.post, Prod.mk.injEq]

/-- From the start on, a consumer of a façade's own stands at a queue exactly if a registration for
it was granted. -/
theorem mem_posts_iff (setups : List Setup) (visibility waitTime : Duration) (s : Session C)
    {stirs : List (Stir C)} {f' : AnyFacade C}
    (hf' : ((start setups visibility waitTime s).stirAll stirs).facades[address]? = some f') :
    (queue, .facade address) ∈ ((start setups visibility waitTime s).stirAll stirs).posts ↔
      (start setups visibility waitTime s).Granted address queue stirs := by
  have hmanned := (Manned.start setups visibility waitTime s).stirAll stirs
  rw [hmanned.posted queue address f' hf']
  obtain ⟨f, hf⟩ := exists_of_stirAll hf'
  rw [subscribed_stirAll hf hf',
    ← (Manned.start setups visibility waitTime s).posted queue address f hf]
  exact or_iff_right List.not_mem_nil

end

/-! ## Rounds -/

/-- Turns that consumers take one after the other are what happens at their places. -/
theorem stirAll_turns (before rest : List Consumer)
    (hconsumers : n.exchange.transport.consumers = before ++ rest) :
    let b := n.exchange.transport
    let taken := Broker.takeTurns (reception n.facades) b.now b.waitTime b.backlog rest
      n.exchange.session
    n.stirAll ((List.range' before.length rest.length).map .turn) =
      { n with exchange := ⟨taken.2, { b with
        backlog := taken.1.1, consumers := before ++ taken.1.2.1 }⟩ } := by
  induction rest generalizing n before with
  | nil =>
    obtain ⟨⟨s, b⟩, facades⟩ := n
    simp only [Broker.takeTurns, pure_apply, ← hconsumers]
    rfl
  | cons c rest ih =>
    have hc : n.exchange.transport.consumers[before.length]? = some c := by
      rw [hconsumers, List.getElem?_append_right le_rfl, Nat.sub_self]
      rfl
    have hset : ∀ c', n.exchange.transport.consumers.set before.length c' =
        (before ++ [c']) ++ rest := by
      intro c'
      rw [hconsumers, List.set_append_right _ _ le_rfl, Nat.sub_self, List.set_cons_zero,
        List.append_assoc, List.singleton_append]
    have hrest := ih (n := n.turn before.length) _ (by simp only [turn, hc]; exact hset _)
    rw [List.length_append, List.length_singleton] at hrest
    simp only [List.length_cons, List.range'_succ, List.map_cons, stirAll, List.foldl_cons]
    refine hrest.trans ?_
    simp only [turn, hc, Broker.takeTurns, bind_apply, pure_apply, List.append_assoc,
      List.singleton_append]

/-- A round of the broker is a turn of each consumer in their order, after which its receivers, who
are somebody else, look at the queues. -/
theorem round_eq_stirAll (n : Network C Broker) :
    let m := n.stirAll ((List.range' 0 n.exchange.transport.consumers.length).map .turn)
    let b := m.exchange.transport
    let looked := Broker.takeLooks b.now b.backlog b.receivers m.exchange.session
    n.round.1 = m.stir (.others looked.2 looked.1.1 looked.1.2.1) := by
  have hturns := n.stirAll_turns [] n.exchange.transport.consumers rfl
  rw [← List.length_nil, hturns]
  simp only [round, Broker.round, bind_apply, pure_apply]
  rfl

end Network
end Switchboard
