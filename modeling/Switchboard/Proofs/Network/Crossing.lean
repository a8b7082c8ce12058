import Switchboard.Proofs.Network.Publishing
import Switchboard.Proofs.Network.Twins

/-!
# What crosses the queue

Two runs of the same façades, in which the same payloads are published by different people.  Of a
publisher's context only the correlation id reaches the message: as long as that is the same, it
makes no difference to anybody who the publisher is, what the publisher may access, whether the
system publishes, and which handler is at work.

If the same identifiers are generated in both runs, they are the same run.  Otherwise they are the
same up to the identifiers, as far as the user code does not look at those that are generated.  The
second is shown with a relation between the states of both runs that each step keeps.

Main results:

- Definition {lit}`Publication.Twins`: the same publication, except for who publishes.
- Theorem {lit}`Publication.sendsAlike`: over any transport, twins are refused alike, or messages
  that are equal up to their ids are sent for them.
- Definition {lit}`Network.Twins`: equality of networks up to generated identifiers.
- Theorem {lit}`Network.Twins.goThrough`: what one step keeps.
- Theorem {lit}`Network.Twins.goThroughAll`: what a whole course keeps.
- Theorem {lit}`Publication.Twins.only_correlation_crosses`: nothing but the correlation id crosses.
-/

namespace Switchboard

variable {C : Catalogue} {ρ τ : Type} {mask : Context → Context}

/-! ## Composing -/

namespace Facade

variable {c c' : Context} {kind : C.Kind}

/-- The publisher's context is only asked for the correlation id. -/
theorem compose_congr (h : c.correlationId = c'.correlationId) (id : String)
    (payload : C.Value kind) (organisation : Option Uuid) :
    compose id c payload organisation = compose id c' payload organisation := by
  rw [compose, compose, h]

theorem publish_congr [Transport C τ] (f : Facade C ρ) (h : c.correlationId = c'.correlationId)
    (payload : C.Value kind) (organisation : Option Uuid) :
    (f.publish c payload organisation : StateM (Exchange C τ) _) =
      f.publish c' payload organisation := by
  simp only [publish, compose_congr h]

/-- Under another id the same payload is refused alike, or its message is a twin. -/
theorem compose_twins (ctx : Context) (payload : C.Value kind) (organisation : Option Uuid)
    (id id' : String) :
    (∃ refusal, compose id ctx payload organisation = .error refusal ∧
        compose id' ctx payload organisation = .error refusal) ∨
      ∃ m m', compose id ctx payload organisation = .ok m ∧
        compose id' ctx payload organisation = .ok m' ∧ m.Twins m' := by
  cases hbody : C.encode payload with
  | error refusal =>
    refine .inl ⟨refusal, ?_, ?_⟩ <;> rw [compose, Message.encode, hbody] <;> rfl
  | ok body =>
    obtain ⟨m, hm, -⟩ := body_compose id ctx organisation hbody
    obtain ⟨m', hm', -⟩ := body_compose id' ctx organisation hbody
    refine .inr ⟨m, m', hm, hm', ?_⟩
    rw [compose, Message.encode, hbody] at hm hm'
    cases hm
    cases hm'
    cases ctx.correlationId <;> cases organisation <;> exact ⟨rfl, rfl⟩

end Facade

/-! ## Publications -/

namespace Publication

/-- Two publications that are the same except for who publishes: of the contexts only the
correlation ids are known to be equal. -/
inductive Twins : Publication C → Publication C → Prop
  | command (address : Nat) {kind : C.Kind} (command : C.Value kind) (organisation : Option Uuid)
      {c c' : Context} (h : c.correlationId = c'.correlationId) :
      Twins (.command address ⟨kind, command, c, organisation⟩)
        (.command address ⟨kind, command, c', organisation⟩)
  | event (address : Nat) {kind : C.Kind} (payload : C.Value kind) {c c' : Context}
      (h : c.correlationId = c'.correlationId) :
      Twins (.event address c kind payload) (.event address c' kind payload)

/-- Publish at a façade, if it is one for commands or for events as is asked for. -/
def use [Transport C τ] (p : Publication C) (f : AnyFacade C) :
    StateM (Exchange C τ) (Option (Except DispatchError Unit)) :=
  match p, f with
  | command _ r, .commands f => some <$> f.execute r.context r.organisation r.command
  | event _ ctx _ payload, .events f => some <$> f.dispatch ctx payload
  | _, _ => return none

/-- What becomes of the same publication in two states, with other identifiers: either it ends
without a message, with the same answer, or messages that are equal up to their ids are sent to the
same queue. -/
inductive SendsAlike [Transport C τ] (p : Publication C) (f : AnyFacade C) (x x' : Exchange C τ) :
    (used used' : Option (Except DispatchError Unit) × Exchange C τ) → Prop
  | stops {answer : Option (Except DispatchError Unit)} {s s' : Session C}
      (hanswer : answer ≠ some (.ok ())) (hs : x.session.Undisturbed s)
      (hs' : x'.session.Undisturbed s') :
      SendsAlike p f x x' (answer, ⟨s, x.transport⟩) (answer, ⟨s', x'.transport⟩)
  | sends {m m' : Message} {log log' : List LogEntry}
      (hcompose : p.compose (Uuid.random x.session.nextId).text = .ok m)
      (hcompose' : p.compose (Uuid.random x'.session.nextId).text = .ok m') (hm : m.Twins m') :
      SendsAlike p f x x' (Prod.map some id (f.outline.post p.kind m log x))
        (Prod.map some id (f.outline.post p.kind m' log' x'))

section
variable [Transport C τ] {p : Publication C} {f : AnyFacade C} {x x' : Exchange C τ}

/-- Where nothing happens, both end alike. -/
theorem SendsAlike.idle {answer : Option (Except DispatchError Unit)}
    (hanswer : answer ≠ some (.ok ())) : p.SendsAlike f x x' (answer, x) (answer, x') :=
  .stops hanswer ⟨_, _, rfl⟩ ⟨_, _, rfl⟩

/-- What a façade lets through, it sends. -/
theorem SendsAlike.of_publish {g : Facade C ρ} (hg : f.outline = g.outline) {ctx : Context}
    {payload : C.Value p.kind} {organisation : Option Uuid}
    (hcompose : ∀ id, Facade.compose id ctx payload organisation = p.compose id) :
    p.SendsAlike f x x' (Prod.map some id (g.publish ctx payload organisation x))
      (Prod.map some id (g.publish ctx payload organisation x')) := by
  rcases Facade.compose_twins ctx payload organisation (Uuid.random x.session.nextId).text
    (Uuid.random x'.session.nextId).text with ⟨refusal, h, h'⟩ | ⟨m, m', h, h', hm⟩
  · simp only [Facade.publish, bind_apply, Exchange.act, Session.draw, h, h', pure_apply]
    exact .stops (by simp) ⟨_, _, rfl⟩ ⟨_, _, rfl⟩
  · obtain ⟨log, hpost⟩ := g.publish_eq_post h
    obtain ⟨log', hpost'⟩ := g.publish_eq_post h'
    rw [hpost, hpost']
    rw [hcompose] at h h'
    have hsends : p.SendsAlike f x x' (Prod.map some id (f.outline.post p.kind m log x))
      (Prod.map some id (f.outline.post p.kind m' log' x')) := .sends h h' hm
    rwa [hg] at hsends

end

/-- In whatever states and over whatever transport a façade is used for a publication, it stops
alike, or it sends messages that are equal up to their ids. -/
theorem sendsAlike [Transport C τ] (p : Publication C) (f : AnyFacade C) (x x' : Exchange C τ) :
    p.SendsAlike f x x' (p.use f x) (p.use f x') := by
  match p, f with
  | command address request, .commands f =>
    simp only [use, map_apply]
    cases hroute : f.routes.find? (C.tag request.kind) with
    | none =>
      simp only [CommandFacade.execute_of_unrouted hroute]
      exact .idle nofun
    | some routed =>
      by_cases hkind : routed = request.kind
      · simp only [CommandFacade.execute_of_route (hkind ▸ hroute)]
        exact .of_publish (g := f) rfl fun _ => rfl
      · simp only [CommandFacade.execute_of_other_route hroute hkind]
        exact .idle nofun
  | event address ctx kind payload, .events f =>
    simp only [use, map_apply]
    by_cases hother : ∃ routed, f.routes.find? (C.tag kind) = some routed ∧ routed ≠ kind
    · obtain ⟨routed, hroute, hkind⟩ := hother
      simp only [EventFacade.dispatch_of_other_route hroute hkind]
      exact .idle nofun
    · have hroute : ∀ routed, f.routes.find? (C.tag kind) = some routed → routed = kind :=
        fun routed hroute => of_not_not fun hkind => hother ⟨routed, hroute, hkind⟩
      simp only [EventFacade.dispatch_of_route hroute]
      exact .of_publish (g := f) rfl fun _ => rfl
  | command .., .events _ => exact .idle nofun
  | event .., .commands _ => exact .idle nofun

namespace Twins

variable {p p' : Publication C}

/-- With the same identifiers, a façade does the very same for twins, over any transport. -/
theorem use_eq [Transport C τ] (h : p.Twins p') (f : AnyFacade C) :
    (p.use f : StateM (Exchange C τ) _) = p'.use f := by
  cases h with
  | command address command organisation h =>
    cases f with
    | commands f => simp only [use, CommandFacade.execute, f.publish_congr h]
    | events f => rfl
  | event address payload h =>
    cases f with
    | commands f => rfl
    | events f => simp only [use, EventFacade.dispatch, f.publish_congr h]

theorem address_eq (h : p.Twins p') : p.address = p'.address := by
  cases h <;> rfl

end Twins
end Publication

namespace Network

variable {n : Network C Broker} {p : Publication C}

/-- To publish in a network is to use the façade of the publication's address. -/
theorem publish_of_getElem? {f : AnyFacade C} (hf : n.facades[p.address]? = some f) :
    n.publish p = ((p.use f n.exchange).1, { n with exchange := (p.use f n.exchange).2 }) := by
  cases p with
  | command address request =>
    change n.facades[address]? = some f at hf
    rw [publish]
    cases f with
    | commands f =>
      rw [onCommands_of_getElem? hf]
      simp only [bind_apply, pure_apply, set_facades_eq_self hf]
      rfl
    | events f =>
      rw [onCommands_of_not_commands (by rintro ⟨g, hg⟩; cases hf.symm.trans hg)]
      rfl
  | event address ctx kind payload =>
    change n.facades[address]? = some f at hf
    rw [publish, dispatch]
    cases f with
    | commands f =>
      rw [onEvents_of_not_events (by rintro ⟨g, hg⟩; cases hf.symm.trans hg)]
      rfl
    | events f =>
      rw [onEvents_of_getElem? hf]
      simp only [bind_apply, pure_apply, set_facades_eq_self hf]
      rfl

/-- Without a façade there, nothing happens. -/
theorem publish_of_none (hf : n.facades[p.address]? = none) : n.publish p = (none, n) := by
  cases p with
  | command address request =>
    change n.facades[address]? = none at hf
    rw [publish, onCommands_of_not_commands (by rintro ⟨g, hg⟩; cases hf.symm.trans hg)]
  | event address ctx kind payload =>
    change n.facades[address]? = none at hf
    rw [publish, dispatch, onEvents_of_not_events (by rintro ⟨g, hg⟩; cases hf.symm.trans hg)]

/-- With the same identifiers, twins are published as one. -/
theorem publish_congr {p' : Publication C} (h : p.Twins p') (n : Network C Broker) :
    n.publish p = n.publish p' := by
  cases hf : n.facades[p.address]? with
  | none => rw [publish_of_none hf, publish_of_none (h.address_eq ▸ hf)]
  | some f => rw [publish_of_getElem? hf, publish_of_getElem? (h.address_eq ▸ hf), h.use_eq f]

end Network

/-! ## Networks -/

/-- Two sessions over brokers that are equal up to generated identifiers: the store and, under a
mask over contexts, the calls are the same, and the queues are twins. -/
structure Exchange.Twins (mask : Context → Context) (admitted : Message → Prop)
    (x x' : Exchange C Broker) : Prop where
  session : x.session.Alike mask x'.session
  now : x.transport.now = x'.transport.now
  waitTime : x.transport.waitTime = x'.transport.waitTime
  consumers : x.transport.consumers = x'.transport.consumers
  backlog : x.transport.backlog.Twins admitted x'.transport.backlog

/-- A publication keeps them so, and its answer is the same. -/
theorem Exchange.Twins.used {admitted : Message → Prop} {x x' : Exchange C Broker}
    (h : x.Twins mask admitted x') {p : Publication C} {f : AnyFacade C}
    (hadmits : ∀ id m, p.compose id = .ok m → admitted m)
    {used used' : Option (Except DispatchError Unit) × Exchange C Broker}
    (hsends : p.SendsAlike f x x' used used') :
    used.1 = used'.1 ∧ used.2.Twins mask admitted used'.2 := by
  cases hsends with
  | stops hanswer hs hs' =>
    obtain ⟨log, nextId, rfl⟩ := hs
    obtain ⟨log', nextId', rfl⟩ := hs'
    exact ⟨rfl, { h with session := ⟨h.session.store, h.session.calls⟩ }⟩
  | @sends m m' log log' hcompose hcompose' hm =>
    simp only [Facade.post, Transport.send, Exchange.carry, Broker.send]
    rcases h.backlog.send x.transport.now (f.outline.queueName (C.tag p.kind)) hm
      (hadmits _ _ hcompose) with ⟨hclosed, hclosed'⟩ | ⟨b, b', hsent, hsent', hb⟩
    · rw [h.now] at hclosed'
      rw [hclosed, hclosed']
      exact ⟨rfl, { h with session := ⟨h.session.store, h.session.calls⟩ }⟩
    · rw [h.now] at hsent'
      rw [hsent, hsent']
      exact ⟨rfl, ⟨h.session.store, h.session.calls⟩, h.now, h.waitTime, h.consumers, hb⟩

/-- A façade that is used for a publication calls no user code, and sends one message at most. -/
theorem Publication.use_broker (p : Publication C) (f : AnyFacade C) (x : Exchange C Broker) :
    x.session.Undisturbed (p.use f x).2.session ∧
      ((p.use f x).2.transport = x.transport ∨
        ∃ queue m, x.transport.Appended (p.use f x).2.transport queue m) := by
  obtain ⟨used', hsends⟩ : ∃ used', p.SendsAlike f x x (p.use f x) used' :=
    ⟨_, p.sendsAlike f x x⟩
  generalize p.use f x = used at hsends ⊢
  cases hsends with
  | stops _ hs _ => exact ⟨hs, .inl rfl⟩
  | @sends m _ log _ _ _ _ =>
    simp only [Facade.post, Transport.send, Exchange.carry]
    rcases x.transport.send_cases (f.outline.queueName (C.tag p.kind)) m with
      ⟨-, hsend⟩ | ⟨b, hsend, happended⟩
    · rw [hsend]
      exact ⟨⟨_, _, rfl⟩, .inl rfl⟩
    · rw [hsend]
      exact ⟨⟨_, _, rfl⟩, .inr ⟨_, m, happended⟩⟩

/-- What a publication may do to a network. -/
theorem Network.publish_cases (n : Network C Broker) (p : Publication C) :
    (n.publish p).2.facades = n.facades ∧
      n.exchange.session.Undisturbed (n.publish p).2.exchange.session ∧
      ((n.publish p).2.exchange.transport = n.exchange.transport ∨
        ∃ queue m, n.exchange.transport.Appended (n.publish p).2.exchange.transport queue m) := by
  cases hf : n.facades[p.address]? with
  | none =>
    rw [publish_of_none hf]
    exact ⟨rfl, ⟨_, _, rfl⟩, .inl rfl⟩
  | some f =>
    rw [publish_of_getElem? hf]
    exact ⟨rfl, p.use_broker f n.exchange⟩

/-! ## Courses -/

/-- What happens in a network in which payloads are published. -/
inductive Episode (C : Catalogue) where
  /-- A command or an event is published. -/
  | publish (p : Publication C)
  /-- The consumer at a place takes a turn. -/
  | turn (place : Nat)
  /-- Time passes. -/
  | pass (duration : Duration)
  /-- The queues are closed. -/
  | close

/-- The same happens, except for who publishes. -/
inductive Episode.Twins : Episode C → Episode C → Prop
  | publish {p p' : Publication C} (h : p.Twins p') : Twins (.publish p) (.publish p')
  | same (e : Episode C) : Twins e e

/-- If a message is published, it does not matter which correlation id is drawn for it. -/
def Episode.Admits (mask : Context → Context) (facades : List (AnyFacade C)) : Episode C → Prop
  | publish p => ∀ id m, p.compose id = .ok m → Network.Indifferent mask facades m
  | _ => True

namespace Network

/-- Answers to publications. -/
abbrev Answers := List (Option (Except DispatchError Unit))

/-- Let something happen; the answer of a publication is given. -/
def goThrough (n : Network C Broker) : Episode C → Answers × Network C Broker
  | .publish p => ([(n.publish p).1], (n.publish p).2)
  | .turn place => ([], n.turn place)
  | .pass duration => ([], n.stir (.pass duration))
  | .close => ([], { n with exchange := { n.exchange with transport :=
      { n.exchange.transport with backlog := n.exchange.transport.backlog.close } } })

/-- Let things happen one after the other. -/
def goThroughAll (n : Network C Broker) : List (Episode C) → Answers × Network C Broker
  | [] => ([], n)
  | e :: rest =>
    let first := n.goThrough e
    let later := first.2.goThroughAll rest
    (first.1 ++ later.1, later.2)

/-- If a turn is taken, the receipt that is drawn for it is new at the queue. -/
def DrawsNew (n : Network C Broker) : Episode C → Prop
  | .turn place => ∀ consumer ∈ n.exchange.transport.consumers[place]?,
    n.exchange.transport.backlog.Lacks consumer.queue (Uuid.random n.exchange.session.nextId).text
  | _ => True

/-- All receipts that are drawn are new when they are. -/
def DrawsAllNew (n : Network C Broker) : List (Episode C) → Prop
  | [] => True
  | e :: rest => n.DrawsNew e ∧ (n.goThrough e).2.DrawsAllNew rest

/-- All consumers serve façades. -/
def Served (n : Network C Broker) : Prop :=
  ∀ post ∈ n.posts, ∃ address, post.2 = .facade address

theorem Served.subscriber_eq {n : Network C Broker} (h : n.Served) {consumer : Consumer}
    {place : Nat} (hconsumer : n.exchange.transport.consumers[place]? = some consumer) :
    ∃ address, consumer.subscriber = .facade address :=
  h consumer.post (List.mem_map_of_mem (List.mem_of_getElem? hconsumer))

/-- A message that is published waits under no receipt. -/
theorem lacks_publish {n : Network C Broker} {queue receipt : String}
    (h : n.exchange.transport.backlog.Lacks queue receipt) (p : Publication C) :
    (n.publish p).2.exchange.transport.backlog.Lacks queue receipt := by
  obtain ⟨-, -, hsame | ⟨other, m, happended⟩⟩ := n.publish_cases p
  · rwa [hsame]
  · by_cases hother : queue = other
    · subst hother
      rw [Backlog.Lacks, happended.waiting_self]
      exact List.forall_mem_append.mpr ⟨h, List.forall_mem_singleton.mpr nofun⟩
    · rw [Backlog.Lacks, happended.waiting_of_ne hother]
      exact h

/-- Whatever happens, the façades and the places of the consumers stay as they are. -/
theorem goThrough_keeps (n : Network C Broker) (e : Episode C) :
    (n.goThrough e).2.facades = n.facades ∧ (n.goThrough e).2.posts = n.posts := by
  cases e with
  | publish p =>
    obtain ⟨hfacades, -, hbroker⟩ := n.publish_cases p
    refine ⟨hfacades, ?_⟩
    rw [goThrough, posts]
    rcases hbroker with hsame | ⟨queue, m, happended⟩
    · rw [hsame, posts]
    · rw [happended.eq, posts]
  | turn place => exact ⟨n.facades_turn place, n.posts_turn place⟩
  | pass duration => exact ⟨rfl, rfl⟩
  | close => exact ⟨rfl, rfl⟩

theorem Served.goThrough {n : Network C Broker} (h : n.Served) (e : Episode C) :
    (n.goThrough e).2.Served := by
  rw [Served, (n.goThrough_keeps e).2]
  exact h

/-! ## The same identifiers -/

/-- With the same identifiers, twins make no difference at all. -/
theorem goThrough_congr (n : Network C Broker) {e e' : Episode C} (h : e.Twins e') :
    n.goThrough e = n.goThrough e' := by
  cases h with
  | publish h => rw [goThrough, goThrough, publish_congr h]
  | same e => rfl

theorem goThroughAll_congr (n : Network C Broker) {es es' : List (Episode C)}
    (h : List.Forall₂ Episode.Twins es es') : n.goThroughAll es = n.goThroughAll es' := by
  induction h generalizing n with
  | nil => rfl
  | cons he _ ih => simp only [goThroughAll, n.goThrough_congr he, ih]

/-! ## Other identifiers -/

/-- Two networks that are equal up to generated identifiers, and in which it does not matter which
correlation ids are drawn for the messages. -/
structure Twins (mask : Context → Context) (n n' : Network C Broker) : Prop where
  facades : n.facades = n'.facades
  exchange : n.exchange.Twins mask (Indifferent mask n.facades) n'.exchange
  served : n.Served

namespace Twins

variable {n n' : Network C Broker}

/-- A publication keeps networks twins, and its answer is the same. -/
theorem publish (h : n.Twins mask n') {p : Publication C}
    (hadmits : (Episode.publish p).Admits mask n.facades) :
    (n.publish p).1 = (n'.publish p).1 ∧
      (n.publish p).2.exchange.Twins mask (Indifferent mask n.facades)
        (n'.publish p).2.exchange := by
  cases hf : n.facades[p.address]? with
  | none =>
    rw [publish_of_none hf, publish_of_none (h.facades ▸ hf)]
    exact ⟨rfl, h.exchange⟩
  | some f =>
    rw [publish_of_getElem? hf, publish_of_getElem? (h.facades ▸ hf)]
    exact h.exchange.used hadmits (p.sendsAlike f n.exchange n'.exchange)

/-- So does a turn, if the receipts that are drawn for it are new. -/
theorem turn (h : n.Twins mask n') {place : Nat} (hnew : n.DrawsNew (.turn place))
    (hnew' : n'.DrawsNew (.turn place)) :
    (n.turn place).exchange.Twins mask (Indifferent mask n.facades) (n'.turn place).exchange := by
  unfold Network.turn
  simp only [DrawsNew, ← h.exchange.consumers] at hnew hnew' ⊢
  cases hconsumer : n.exchange.transport.consumers[place]? with
  | none => exact h.exchange
  | some consumer =>
    obtain ⟨address, hserves⟩ := h.served.subscriber_eq hconsumer
    have hbackground : Session.Alike mask { n.exchange.session with background := true }
      { n'.exchange.session with background := true } :=
        ⟨h.exchange.session.store, h.exchange.session.calls⟩
    obtain ⟨hsession, hsame, hbacklog⟩ := Consumer.turn_twins hserves n.exchange.transport.now
      n.exchange.transport.waitTime h.exchange.backlog hbackground (hnew consumer hconsumer)
      (hnew' consumer hconsumer)
    simp only [Session.inBackground, ← h.facades, ← h.exchange.now, ← h.exchange.waitTime]
    exact ⟨⟨hsession.store, hsession.calls⟩, rfl, rfl,
      congrArg (n.exchange.transport.consumers.set place) hsame, hbacklog⟩

/-- Whatever happens, networks stay twins, and the answers are the same. -/
theorem goThrough (h : n.Twins mask n') {e : Episode C} (hadmits : e.Admits mask n.facades)
    (hnew : n.DrawsNew e) (hnew' : n'.DrawsNew e) :
    (n.goThrough e).1 = (n'.goThrough e).1 ∧ (n.goThrough e).2.Twins mask (n'.goThrough e).2 := by
  have hkept := (n.goThrough_keeps e).1
  have hfacades : (n.goThrough e).2.facades = (n'.goThrough e).2.facades := by
    rw [hkept, h.facades, (n'.goThrough_keeps e).1]
  suffices hstep : (n.goThrough e).1 = (n'.goThrough e).1 ∧
      (n.goThrough e).2.exchange.Twins mask (Indifferent mask n.facades)
        (n'.goThrough e).2.exchange from
    ⟨hstep.1, hfacades, hkept ▸ hstep.2, h.served.goThrough e⟩
  cases e with
  | publish p =>
    obtain ⟨hanswer, hexchange⟩ := h.publish hadmits
    exact ⟨congrArg (fun answer => [answer]) hanswer, hexchange⟩
  | turn place => exact ⟨rfl, h.turn hnew hnew'⟩
  | pass duration =>
    exact ⟨rfl, { h.exchange with now := congrArg (· + duration) h.exchange.now }⟩
  | close => exact ⟨rfl, { h.exchange with backlog := h.exchange.backlog.close }⟩

/-- Twins make no difference to networks that are twins, as they happen. -/
theorem goThroughAll (h : n.Twins mask n') {es es' : List (Episode C)}
    (hes : List.Forall₂ Episode.Twins es es') (hadmits : ∀ e ∈ es, e.Admits mask n.facades)
    (hnew : n.DrawsAllNew es) (hnew' : n'.DrawsAllNew es') :
    (n.goThroughAll es).1 = (n'.goThroughAll es').1 ∧
      (n.goThroughAll es).2.Twins mask (n'.goThroughAll es').2 := by
  induction hes generalizing n n' with
  | nil => exact ⟨rfl, h⟩
  | @cons e e' rest rest' he _ ih =>
    obtain ⟨hfirst, hrest⟩ := List.forall_mem_cons.mp hadmits
    have hdraws : n'.DrawsNew e := by
      cases he with
      | publish _ => trivial
      | same e => exact hnew'.1
    obtain ⟨hanswer, htwins⟩ := h.goThrough hfirst hnew.1 hdraws
    rw [n'.goThrough_congr he] at hanswer htwins
    obtain ⟨hanswers, hlast⟩ := ih htwins (by rwa [(n.goThrough_keeps e).1]) hnew.2 hnew'.2
    simp only [Network.goThroughAll, hanswer, hanswers]
    exact ⟨trivial, hlast⟩

end Twins

/-! ## What user code is shown -/

namespace Served

variable {n : Network C Broker}

/-- The calls that are made are shown the context of the system. -/
theorem shows_goThrough (h : n.Served) (e : Episode C) :
    ∃ new, (n.goThrough e).2.exchange.session.calls = n.exchange.session.calls ++ new ∧
      ∀ call ∈ new, call.BySystem := by
  have hnone : ∃ new, n.exchange.session.calls = n.exchange.session.calls ++ new ∧
      ∀ call ∈ new, call.BySystem := ⟨[], (List.append_nil _).symm, List.forall_mem_nil _⟩
  cases e with
  | publish p =>
    obtain ⟨-, ⟨log, nextId, hsession⟩, -⟩ := n.publish_cases p
    rw [Network.goThrough, hsession]
    exact hnone
  | turn place =>
    simp only [Network.goThrough, Network.turn]
    split
    · exact hnone
    · rename_i consumer hconsumer
      obtain ⟨address, hserves⟩ := h.subscriber_eq hconsumer
      exact Consumer.shows_turn hserves n.facades n.exchange.transport.now
        n.exchange.transport.waitTime n.exchange.transport.backlog
        { n.exchange.session with background := true }
  | pass duration => exact hnone
  | close => exact hnone

theorem shows_goThroughAll (h : n.Served) (es : List (Episode C)) :
    ∃ new, (n.goThroughAll es).2.exchange.session.calls = n.exchange.session.calls ++ new ∧
      ∀ call ∈ new, call.BySystem := by
  induction es generalizing n with
  | nil => exact ⟨[], (List.append_nil _).symm, List.forall_mem_nil _⟩
  | cons e rest ih =>
    obtain ⟨new, hcalls, hnew⟩ := h.shows_goThrough e
    obtain ⟨later, hlater, hall⟩ := ih (h.goThrough e)
    refine ⟨new ++ later, ?_, List.forall_mem_append.mpr ⟨hnew, hall⟩⟩
    rw [goThroughAll, hlater, hcalls, List.append_assoc]

end Served
end Network

/-! ## Noninterference -/

namespace Publication

/-- A publisher who names a chain of work leaves nothing to be drawn, whatever the user code is. -/
theorem admits_of_named {p : Publication C}
    (h : match p with
      | command _ request => request.context.correlationId.isSome = true
      | event _ ctx _ _ => ctx.correlationId.isSome = true)
    (mask : Context → Context) (facades : List (AnyFacade C)) :
    (Episode.publish p).Admits mask facades := by
  intro id m hm
  cases p with
  | command address request =>
    obtain ⟨correlation, hcorrelation⟩ := Option.isSome_iff_exists.mp h
    exact .inl (by rw [Facade.correlation_compose hm, hcorrelation]; rfl)
  | event address ctx kind payload =>
    obtain ⟨correlation, hcorrelation⟩ := Option.isSome_iff_exists.mp h
    exact .inl (by rw [Facade.correlation_compose hm, hcorrelation]; rfl)

/-- What it means that nobody can tell which one of two publications was made. -/
structure Indistinguishable (p p' : Publication C) : Prop where
  /-- With the same identifiers a façade does the very same for both, over any transport. -/
  exact : ∀ {τ : Type} [Transport C τ] (f : AnyFacade C),
    (p.use f : StateM (Exchange C τ) _) = p'.use f
  /-- With other identifiers both are refused alike, or messages that are equal up to their ids are
  sent to the same queue. -/
  sends : ∀ {τ : Type} [Transport C τ] (f : AnyFacade C) (x x' : Exchange C τ),
    p.SendsAlike f x x' (p.use f x) (p'.use f x')
  /-- With the same identifiers all that follows is the same: all answers, all calls with the
  contexts that they are shown, the store, and the queues. -/
  course : ∀ (n : Network C Broker) {later later' : List (Episode C)},
    List.Forall₂ Episode.Twins later later' →
      n.goThroughAll (.publish p :: later) = n.goThroughAll (.publish p' :: later')
  /-- With other identifiers so it is up to these, if messages name their chains of work or user
  code cannot tell one drawn correlation id from another. -/
  twins : ∀ (mask : Context → Context) (n n' : Network C Broker) {later later' : List (Episode C)},
    n.Twins mask n' → List.Forall₂ Episode.Twins later later' →
    (∀ e ∈ Episode.publish p :: later, e.Admits mask n.facades) →
    n.DrawsAllNew (.publish p :: later) → n'.DrawsAllNew (.publish p' :: later') →
      (n.goThroughAll (.publish p :: later)).1 = (n'.goThroughAll (.publish p' :: later')).1 ∧
        (n.goThroughAll (.publish p :: later)).2.Twins mask
          (n'.goThroughAll (.publish p' :: later')).2
  /-- User code is shown that the system calls, and nothing of the publisher. -/
  shown : ∀ (n : Network C Broker) (later : List (Episode C)), n.Served →
    ∃ new, (n.goThroughAll (.publish p :: later)).2.exchange.session.calls =
        n.exchange.session.calls ++ new ∧ ∀ call ∈ new, call.BySystem

/-- Nobody can tell who made a publication: nothing of the publisher's context but the correlation
id crosses the queue. -/
theorem Twins.only_correlation_crosses {p p' : Publication C} (h : p.Twins p') :
    p.Indistinguishable p' where
  exact f := h.use_eq f
  sends f x x' := by
    rw [← h.use_eq f]
    exact p.sendsAlike f x x'
  course n _ _ hlater := n.goThroughAll_congr (.cons (.publish h) hlater)
  twins _ _ _ _ _ htwins hlater := htwins.goThroughAll (.cons (.publish h) hlater)
  shown _ later hserved := hserved.shows_goThroughAll (.publish p :: later)

end Publication

namespace Sample

/-- Keeps the pings of one chain of work, and panics if it is shown more about the publisher. -/
def discreet : CommandEntry nameless :=
  ⟨.ping, ⟨1, "discreet", .withBoth fun _ ctx store p =>
    if ctx = (Context.system "chain").withHandler "discreet" then
      (.ok (), { store with items := store.items ++ [("pings", ⟨.ping, p⟩)] })
    else (.panicked .wordless, store)⟩, .organisationMember⟩

/-- A façade with a consumer that takes pings; the identifiers start anywhere. -/
def pingNetwork (entry : CommandEntry nameless) (firstId : Nat) : Network nameless Broker :=
  let s : Session nameless := .start ⟨[], []⟩ firstId
  (Network.start [.commands "app" (.perType "app")] 40 5 s).performAll [.enlist (.command 0 entry)]

/-- A ping that a member of an organisation publishes from within a handler. -/
def memberPing (chain : Option String) : Publication nameless :=
  .command 0 ⟨.ping, Ping.ping,
    ⟨chain, some "alice", some [Uuid.random 3], false, some "parent"⟩, none⟩

/-- A ping that the system publishes. -/
def systemPing (chain : Option String) : Publication nameless :=
  .command 0 ⟨.ping, Ping.ping, ⟨chain, none, none, true, none⟩, none⟩

theorem memberPing_twins (chain : Option String) : (memberPing chain).Twins (systemPing chain) :=
  .command 0 _ _ rfl

theorem pingNetwork_twins (mask : Context → Context) {entry : CommandEntry nameless}
    (h : entry = discreet ∨ entry = pings) (firstId firstId' : Nat) :
    (pingNetwork entry firstId).Twins mask (pingNetwork entry firstId') := by
  have hposts : (pingNetwork entry firstId).posts = [("app-ping", .facade 0)] := by
    rcases h with rfl | rfl <;> rfl
  have hserved : (pingNetwork entry firstId).Served := by
    rw [Network.Served, hposts]
    exact List.forall_mem_singleton.mpr ⟨0, rfl⟩
  rcases h with rfl | rfl <;> exact ⟨rfl, ⟨⟨rfl, rfl⟩, rfl, rfl, rfl, .start _ _⟩, hserved⟩

/-- A ping that was just published was never handed out, so it waits under no receipt. -/
theorem pingNetwork_drawsAllNew {entry : CommandEntry nameless}
    (h : entry = discreet ∨ entry = pings) (firstId : Nat) (p : Publication nameless) :
    (pingNetwork entry firstId).DrawsAllNew [.publish p, .turn 0] := by
  have hbacklog : (pingNetwork entry firstId).exchange.transport.backlog = .start 40 := by
    rcases h with rfl | rfl <;> rfl
  refine ⟨trivial, fun consumer _ => Network.lacks_publish ?_ p, trivial⟩
  rw [hbacklog]
  exact List.forall_mem_nil _

/-- The façade that keeps all pings ignores correlation ids. -/
theorem ignores_pings (firstId : Nat) (i j : String) :
    Network.Ignores Context.withoutCorrelation (pingNetwork pings firstId).facades (.system i)
      (.system j) where
  context := rfl
  named _ := rfl
  code f hf := by
    obtain rfl : f = _ := List.mem_singleton.mp hf
    intro tag entry hentry
    have hentries : (Dictionary.empty.insert "Ping" pings).find? tag = some entry := hentry
    rw [Dictionary.find?_insert] at hentries
    split at hentries
    · cases hentries
      exact ⟨fun _ _ => rfl, trivial⟩
    · cases hentries

end Sample

/-- A ping that names its chain of work is handled alike whoever publishes it, even if the handler
looks at its whole context; one that names none, if the handler does not look at what is drawn. -/
theorem Publication.Twins.only_correlation_crosses_pings :
    let named : Option String := some "chain"
    let run (entry : CommandEntry Sample.nameless) (firstId : Nat)
        (p : Publication Sample.nameless) :=
      ((Sample.pingNetwork entry firstId).goThroughAll [.publish p, .turn 0]).2
    (run Sample.discreet 0 (Sample.memberPing named)).Twins id
        (run Sample.discreet 9 (Sample.systemPing named)) ∧
      (run Sample.pings 0 (Sample.memberPing none)).Twins Context.withoutCorrelation
        (run Sample.pings 9 (Sample.systemPing none)) ∧
      (run Sample.discreet 0 (Sample.memberPing named)).exchange.transport.stats "app-ping" =
        some ⟨2, 1, 0⟩ ∧
      (run Sample.pings 0 (Sample.memberPing none)).exchange.transport.stats "app-ping" =
        some ⟨2, 1, 0⟩ := by
  intro named run
  have hcrosses := fun chain => (Sample.memberPing_twins chain).only_correlation_crosses
  refine ⟨?_, ?_, by decide +kernel, by decide +kernel⟩
  · refine ((hcrosses named).twins id _ _ (Sample.pingNetwork_twins id (.inl rfl) 0 9)
      (.cons (.same (.turn 0)) .nil) ?_ (Sample.pingNetwork_drawsAllNew (.inl rfl) 0 _)
      (Sample.pingNetwork_drawsAllNew (.inl rfl) 9 _)).2
    exact List.forall_mem_cons.mpr ⟨admits_of_named (p := Sample.memberPing named) rfl id _,
      List.forall_mem_singleton.mpr trivial⟩
  · refine ((hcrosses none).twins Context.withoutCorrelation _ _
      (Sample.pingNetwork_twins _ (.inr rfl) 0 9) (.cons (.same (.turn 0)) .nil) ?_
      (Sample.pingNetwork_drawsAllNew (.inr rfl) 0 _)
      (Sample.pingNetwork_drawsAllNew (.inr rfl) 9 _)).2
    exact List.forall_mem_cons.mpr ⟨fun _ _ _ => .inr (Sample.ignores_pings 0),
      List.forall_mem_singleton.mpr trivial⟩

end Switchboard
