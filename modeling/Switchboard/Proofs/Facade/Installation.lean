import Switchboard.Proofs.Facade.Enrolment
import Switchboard.Proofs.Command.Sequence
import Switchboard.Queue.Broker

/-!
# Handlers behind one queue

Handlers of commands that are taken in behind one shared queue end up in the registry exactly as if
they had been taken in there directly.  The first of them starts the consumer of the queue, and the
others find it there.

Main results:

- Definition {lit}`CommandFacade.registerAll`: takes handlers in one after the other.
- Theorem {lit}`Installed.register`: what is kept by each registration.
- Theorem {lit}`Installed.registerAll`: what is there after all of them.
-/

namespace Switchboard

variable {C : Catalogue} {τ : Type}

/-- Take in handlers one after the other; those whose tags have one are refused. -/
def CommandFacade.registerAll [Transport C τ] (f : CommandFacade C) :
    List (CommandEntry C) → StateM (Exchange C τ) (CommandFacade C)
  | [] => return f
  | entry :: rest => do
    let (_, f) ← f.register entry.kind entry.handler entry.authorizer
    registerAll f rest

/-- Open queues take a subscription, of which only the log tells. -/
theorem Broker.subscribe_of_open {b : Broker} (hopen : b.backlog.closed = false) (queue : String)
    (subscriber : Subscriber) (s : Session C) :
    ∃ log, Transport.subscribe queue subscriber (⟨s, b⟩ : Exchange C Broker) =
      (.ok (), ⟨{ s with log }, { b with
        consumers := b.consumers ++ [.start queue subscriber b.now b.waitTime] }⟩) := by
  refine ⟨s.log ++ [⟨s.background, .info, "consumer started", [("queue", .text queue)]⟩], ?_⟩
  simp [Transport.subscribe, Broker.subscribe, hopen, bind_apply, pure_apply, Session.report]

/-- Tags are routed to the payload types of their handlers. -/
def CommandFacade.InStep (f : CommandFacade C) : Prop :=
  ∀ tag, f.routes.find? tag = (f.registry.entries.find? tag).map CommandEntry.kind

/-- A handler that is taken in under a new tag keeps routes and handlers in step. -/
theorem CommandFacade.InStep.takeIn {f : CommandFacade C} (h : f.InStep) {entry : CommandEntry C}
    (hnew : f.registry.entries.find? (C.tag entry.kind) = none) :
    CommandFacade.InStep
      (f.takeIn entry.kind ⟨f.registry.entries.insert (C.tag entry.kind) entry⟩) := by
  intro tag
  have hroute : f.routes.find? (C.tag entry.kind) = none := by
    rw [h, hnew]
    rfl
  have hroutes : (f.takeIn entry.kind
      ⟨f.registry.entries.insert (C.tag entry.kind) entry⟩).routes =
        f.routes.insert (C.tag entry.kind) entry.kind := by
    simp [Facade.takeIn, Facade.addRoute, Dictionary.contains, hroute]
  rw [hroutes, Facade.registry_takeIn, Dictionary.find?_insert, Dictionary.find?_insert, h]
  split <;> rfl

/-- A façade at the first address whose commands share one queue, with what it left of a session and
of a broker without consumers. -/
structure Installed (queue : String) (s : Session C) (b : Broker) (f : CommandFacade C)
    (x : Exchange C Broker) : Prop where
  address : f.address = 0
  queueName : ∀ tag, f.queueName tag = queue
  /-- Tags are routed to the payload types of their handlers. -/
  routes : ∀ tag, f.routes.find? tag = (f.registry.entries.find? tag).map CommandEntry.kind
  store : x.session.store = s.store
  calls : x.session.calls = s.calls
  /-- There is a consumer, unless there are no handlers. -/
  consumer : (f.subscribed.contains queue = false ∧ x.transport = b ∧ f.registry = .empty) ∨
    (f.subscribed.contains queue = true ∧ x.transport =
      { b with consumers := [.start queue (.facade 0) b.now b.waitTime] })

namespace Installed

variable {queue : String} {s : Session C} {b : Broker} {f : CommandFacade C}
  {x : Exchange C Broker}

/-- Before the first registration. -/
theorem start {naming : QueueNaming} (hshared : ∀ tag, naming.queueName tag = queue)
    (application : String) (s : Session C) (b : Broker) :
    Installed queue s b ((CommandFacade.start 0 application).withNaming naming) ⟨s, b⟩ where
  address := rfl
  queueName := hshared
  routes _ := rfl
  store := rfl
  calls := rfl
  consumer := .inl ⟨rfl, rfl, rfl⟩

/-- Taking a handler in keeps routes and handlers together. -/
theorem routes_takeIn (h : Installed queue s b f x) {entry : CommandEntry C}
    (hnew : f.registry.entries.find? (C.tag entry.kind) = none) (tag : String) :
    (f.takeIn entry.kind ⟨f.registry.entries.insert (C.tag entry.kind) entry⟩).routes.find? tag =
      ((f.registry.entries.insert (C.tag entry.kind) entry).find? tag).map CommandEntry.kind := by
  rw [CommandFacade.InStep.takeIn h.routes hnew, Facade.registry_takeIn]

/-- Once there is a consumer, registrations only change the registry and the routes. -/
theorem takeIn (h : Installed queue s b f x) (hsubscribed : f.subscribed.contains queue = true)
    {entry : CommandEntry C} (hnew : f.registry.entries.find? (C.tag entry.kind) = none) :
    Installed queue s b
      (f.takeIn entry.kind ⟨f.registry.entries.insert (C.tag entry.kind) entry⟩) x where
  address := by rw [Facade.address_takeIn, h.address]
  queueName tag := by rw [Facade.queueName_takeIn, h.queueName]
  routes tag := by rw [h.routes_takeIn hnew, Facade.registry_takeIn]
  store := h.store
  calls := h.calls
  consumer := by
    rcases h.consumer with ⟨hfree, -⟩ | ⟨-, htransport⟩
    · rw [hsubscribed] at hfree
      cases hfree
    · exact .inr ⟨by rw [Facade.subscribed_takeIn, hsubscribed], htransport⟩

/-- What is kept by each registration; after it there is a consumer. -/
theorem register (h : Installed queue s b f x) (hopen : b.backlog.closed = false)
    (hnone : b.consumers = []) (entry : CommandEntry C) :
    let outcome := f.register entry.kind entry.handler entry.authorizer x
    Installed queue s b outcome.1.2 outcome.2 ∧
      outcome.1.2.registry = f.registry.registerAll [entry] ∧
        outcome.1.2.subscribed.contains queue = true := by
  cases hregister : f.registry.register entry.kind entry.handler entry.authorizer with
  | error e =>
    have hsubscribed : f.subscribed.contains queue = true := by
      rcases h.consumer with ⟨-, -, hempty⟩ | ⟨hsubscribed, -⟩
      · rw [hempty] at hregister
        cases hregister
      · exact hsubscribed
    rw [CommandFacade.register, Facade.enroll_of_error hregister]
    exact ⟨h, by simp [CommandRegistry.registerAll, hregister], hsubscribed⟩
  | ok registry =>
    have hregistry : f.registry.registerAll [entry] = registry := by
      simp [CommandRegistry.registerAll, hregister]
    obtain ⟨hnew, rfl⟩ := CommandRegistry.register_eq_ok_iff.mp hregister
    cases hsubscribed : f.subscribed.contains queue with
    | true =>
      rw [CommandFacade.register, Facade.enroll_of_subscribed hregister (by rwa [h.queueName])]
      exact ⟨h.takeIn hsubscribed hnew, by rw [hregistry, Facade.registry_takeIn],
        by rw [Facade.subscribed_takeIn, hsubscribed]⟩
    | false =>
      have htransport : x.transport = b := by
        rcases h.consumer with ⟨-, htransport, -⟩ | ⟨hoccupied, -⟩
        · exact htransport
        · rw [hsubscribed] at hoccupied
          cases hoccupied
      obtain ⟨log, haccepted⟩ := Broker.subscribe_of_open hopen queue (.facade 0) x.session
      rw [← htransport] at haccepted
      obtain ⟨log', henrolled⟩ := Facade.enroll_of_accepted
        (fun r : CommandRegistry C => r.register entry.kind entry.handler entry.authorizer)
        hregister (by rwa [h.queueName]) (by rwa [h.queueName, h.address])
      rw [CommandFacade.register, henrolled, h.queueName]
      have hnoted : ((f.takeIn entry.kind
          ⟨f.registry.entries.insert (C.tag entry.kind) entry⟩).noteSubscribed
            queue).subscribed.contains queue = true := by
        simp [Facade.noteSubscribed, Dictionary.contains]
      refine ⟨⟨?_, ?_, ?_, ?_, ?_, ?_⟩, ?_, hnoted⟩
      · exact (Facade.address_takeIn ..).trans h.address
      · exact fun tag => (Facade.queueName_takeIn ..).trans (h.queueName tag)
      · intro tag
        rw [Facade.noteSubscribed, Facade.registry_takeIn]
        exact h.routes_takeIn hnew tag
      · exact h.store
      · exact h.calls
      · exact .inr ⟨hnoted, by simp [htransport, hnone]⟩
      · rw [hregistry, Facade.noteSubscribed, Facade.registry_takeIn]

/-- What is there after all registrations. -/
theorem registerAll (h : Installed queue s b f x) (hopen : b.backlog.closed = false)
    (hnone : b.consumers = []) (entries : List (CommandEntry C)) :
    let outcome := f.registerAll entries x
    Installed queue s b outcome.1 outcome.2 ∧
      outcome.1.registry = f.registry.registerAll entries ∧
        (entries ≠ [] ∨ f.subscribed.contains queue = true →
          outcome.1.subscribed.contains queue = true) := by
  induction entries generalizing f x with
  | nil =>
    refine ⟨h, rfl, fun hsubscribed => ?_⟩
    rcases hsubscribed with hnil | hsubscribed
    · exact absurd rfl hnil
    · exact hsubscribed
  | cons entry rest ih =>
    obtain ⟨hnext, hregistry, hsubscribed⟩ := h.register hopen hnone entry
    obtain ⟨hlast, hlastRegistry, hlastSubscribed⟩ := ih hnext
    refine ⟨hlast, ?_, fun _ => hlastSubscribed (.inr hsubscribed)⟩
    rw [hregistry] at hlastRegistry
    exact hlastRegistry

end Installed
end Switchboard
