import Switchboard.Facade.Commands
import Switchboard.Facade.Events
import Switchboard.Sample.Catalogue
import Switchboard.Transport.Held
import Switchboard.Transport.Rehearsed

/-!
# Registrations that break off

A registration at a façade changes the registry and the routes before it asks the transport for a
subscription.  If the transport refuses, the registration breaks off: it is answered with an error,
and yet the handler stays and its payloads are published to a queue that nobody consumes.

Main results:

- Theorem {lit}`Facade.enroll_allOrNothing_iff`: an error leaves the façade as it was exactly if the
  registration did not break off.
- Theorem {lit}`Facade.register_allOrNothing_iff`: so it is for commands and for events, and trying
  again does not mend a registration that broke off.
-/

namespace Switchboard

variable {C : Catalogue} {ρ τ : Type}

namespace Facade

@[simp]
theorem naming_addRoute (f : Facade C ρ) (kind : C.Kind) :
    (f.addRoute kind).naming = f.naming := by
  unfold addRoute
  split <;> rfl

@[simp]
theorem registry_addRoute (f : Facade C ρ) (kind : C.Kind) :
    (f.addRoute kind).registry = f.registry := by
  unfold addRoute
  split <;> rfl

@[simp]
theorem subscribed_addRoute (f : Facade C ρ) (kind : C.Kind) :
    (f.addRoute kind).subscribed = f.subscribed := by
  unfold addRoute
  split <;> rfl

@[simp]
theorem address_addRoute (f : Facade C ρ) (kind : C.Kind) :
    (f.addRoute kind).address = f.address := by
  unfold addRoute
  split <;> rfl

/-- A tag without a route is routed to the payload type that is added. -/
theorem routes?_addRoute {f : Facade C ρ} {kind : C.Kind} (h : f.routes? kind = .ok false) :
    (f.addRoute kind).routes? kind = .ok true := by
  unfold routes? at h
  split at h
  · rename_i hnone
    simp [addRoute, Dictionary.contains, hnone, routes?]
  · split at h <;> cases h

/-! ## How a registration ends -/

/-- A façade that a handler was taken into and that routes its payload type. -/
def takeIn (f : Facade C ρ) (kind : C.Kind) (registry : ρ) : Facade C ρ :=
  { f with registry }.addRoute kind

@[simp]
theorem naming_takeIn (f : Facade C ρ) (kind : C.Kind) (registry : ρ) :
    (f.takeIn kind registry).naming = f.naming := by
  rw [takeIn, naming_addRoute]

@[simp]
theorem queueName_takeIn (f : Facade C ρ) (kind : C.Kind) (registry : ρ) (tag : String) :
    (f.takeIn kind registry).queueName tag = f.queueName tag := by
  rw [queueName, naming_takeIn, queueName]

@[simp]
theorem subscribed_takeIn (f : Facade C ρ) (kind : C.Kind) (registry : ρ) :
    (f.takeIn kind registry).subscribed = f.subscribed := by
  rw [takeIn, subscribed_addRoute]

@[simp]
theorem address_takeIn (f : Facade C ρ) (kind : C.Kind) (registry : ρ) :
    (f.takeIn kind registry).address = f.address := by
  rw [takeIn, address_addRoute]

@[simp]
theorem registry_takeIn (f : Facade C ρ) (kind : C.Kind) (registry : ρ) :
    (f.takeIn kind registry).registry = registry := by
  rw [takeIn, registry_addRoute]

variable [Transport C τ] {f : Facade C ρ} {kind : C.Kind} {register : ρ → Except DispatchError ρ}
  {registry : ρ} {x y : Exchange C τ}

/-- What the registry refuses changes nothing. -/
theorem enroll_of_error {e : DispatchError} (h : register f.registry = .error e) :
    f.enroll kind register x = ((.error e, f), x) := by
  simp [enroll, h, pure_apply]

/-- A queue that is subscribed to already needs no transport. -/
theorem enroll_of_subscribed (h : register f.registry = .ok registry)
    (hsubscribed : f.subscribed.contains (f.queueName (C.tag kind)) = true) :
    f.enroll kind register x = ((.ok (), f.takeIn kind registry), x) := by
  rw [queueName] at hsubscribed
  simp [enroll, h, takeIn, queueName, hsubscribed, pure_apply]

/-- A transport that refuses comes too late for the registry and the routes. -/
theorem enroll_of_refused {e : TransportError} (h : register f.registry = .ok registry)
    (hsubscribed : f.subscribed.contains (f.queueName (C.tag kind)) = false)
    (hrefused : Transport.subscribe (f.queueName (C.tag kind)) (.facade f.address) x =
      (.error e, y)) :
    f.enroll kind register x = ((.error (.transport e), f.takeIn kind registry), y) := by
  rw [queueName] at hsubscribed hrefused
  simp [enroll, h, takeIn, queueName, hsubscribed, bind_apply, hrefused, pure_apply]

/-- A transport that accepts completes the registration, of which only the log tells. -/
theorem enroll_of_accepted (register : ρ → Except DispatchError ρ)
    (h : register f.registry = .ok registry)
    (hsubscribed : f.subscribed.contains (f.queueName (C.tag kind)) = false)
    (haccepted : Transport.subscribe (f.queueName (C.tag kind)) (.facade f.address) x =
      (.ok (), y)) :
    ∃ log, f.enroll kind register x =
      ((.ok (), (f.takeIn kind registry).noteSubscribed (f.queueName (C.tag kind))),
        { y with session := { y.session with log } }) := by
  rw [queueName] at hsubscribed haccepted
  refine ⟨y.session.log ++ [⟨y.session.background, .info, "subscribed to queue",
    [("queue", .text (f.queueName (C.tag kind))), ("type_name", .text (C.tag kind))]⟩], ?_⟩
  simp [enroll, h, takeIn, queueName, hsubscribed, bind_apply, map_apply, haccepted,
    Exchange.act, Session.report]

/-- How a registration ends over any transport: the registry refuses the handler and nothing
changes; or the handler is taken in, and the queue is subscribed to already, or the transport
refuses the subscription, or it accepts it. -/
theorem enroll_cases_of_transport (f : Facade C ρ) (kind : C.Kind)
    (register : ρ → Except DispatchError ρ) (x : Exchange C τ) :
    let queue := f.queueName (C.tag kind)
    (∃ e, register f.registry = .error e ∧ f.enroll kind register x = ((.error e, f), x)) ∨
    ∃ registry, register f.registry = .ok registry ∧
      (f.subscribed.contains queue = true ∧
          f.enroll kind register x = ((.ok (), f.takeIn kind registry), x) ∨
        f.subscribed.contains queue = false ∧
          ((∃ e y, Transport.subscribe queue (.facade f.address) x = (.error e, y) ∧
              f.enroll kind register x =
                ((.error (.transport e), f.takeIn kind registry), y)) ∨
            ∃ y log, Transport.subscribe queue (.facade f.address) x = (.ok (), y) ∧
              f.enroll kind register x =
                ((.ok (), (f.takeIn kind registry).noteSubscribed queue),
                  { y with session := { y.session with log } }))) := by
  intro queue
  cases hregister : register f.registry with
  | error e => exact .inl ⟨e, rfl, enroll_of_error hregister⟩
  | ok registry =>
    refine .inr ⟨registry, rfl, ?_⟩
    cases hsubscribed : f.subscribed.contains queue with
    | true => exact .inl ⟨rfl, enroll_of_subscribed hregister hsubscribed⟩
    | false =>
      refine .inr ⟨rfl, ?_⟩
      cases hanswer : Transport.subscribe queue (.facade f.address) x with
      | mk result y =>
        cases result with
        | error e => exact .inl ⟨e, y, rfl, enroll_of_refused hregister hsubscribed hanswer⟩
        | ok _ =>
          obtain ⟨log, haccepted⟩ := enroll_of_accepted register hregister hsubscribed hanswer
          exact .inr ⟨y, log, rfl, haccepted⟩

/-! ## All or nothing -/

/-- A registration is all or nothing if an error leaves the façade as it was. -/
def AllOrNothing (f : Facade C ρ) (outcome : Except DispatchError Unit × Facade C ρ) : Prop :=
  ∀ e, outcome.1 = .error e → outcome.2 = f

/-- A registration breaks off if the registry takes the handler in, the queue is not subscribed to
yet, and the transport refuses the subscription. -/
def BreaksOff (f : Facade C ρ) (kind : C.Kind) (registration : Except DispatchError ρ)
    (x : Exchange C τ) : Prop :=
  ∃ registry e, registration = .ok registry ∧
    f.subscribed.contains (f.queueName (C.tag kind)) = false ∧
      (Transport.subscribe (f.queueName (C.tag kind)) (.facade f.address) x).1 = .error e

/-- What is left of a registration that broke off: the handler and the route, but no
subscription. -/
theorem enroll_of_breaksOff (register : ρ → Except DispatchError ρ)
    (h : f.BreaksOff kind (register f.registry) x) :
    ∃ registry e, register f.registry = .ok registry ∧
      (f.enroll kind register x).1 = (.error (.transport e), f.takeIn kind registry) := by
  obtain ⟨registry, e, hregister, hsubscribed, hrefused⟩ := h
  refine ⟨registry, e, hregister, ?_⟩
  rw [enroll_of_refused hregister hsubscribed (Prod.ext hrefused rfl)]

/-- An error leaves the façade as it was exactly if the registration did not break off, provided
that the registry changes by what it takes in. -/
theorem enroll_allOrNothing_iff
    (hchange : ∀ registry, register f.registry = .ok registry → registry ≠ f.registry) :
    f.AllOrNothing (f.enroll kind register x).1 ↔
      ¬ f.BreaksOff kind (register f.registry) x := by
  constructor
  · intro hall hbreaks
    obtain ⟨registry, e, hregister, hleft⟩ := enroll_of_breaksOff register hbreaks
    have hsame := hall (.transport e) (by rw [hleft])
    rw [hleft] at hsame
    have hregistry : registry = f.registry := by
      simpa using congrArg Facade.registry hsame
    exact hchange registry hregister hregistry
  · intro hnot e herror
    cases hregister : register f.registry with
    | error e' => rw [enroll_of_error hregister]
    | ok registry =>
      cases hsubscribed : f.subscribed.contains (f.queueName (C.tag kind)) with
      | true =>
        rw [enroll_of_subscribed hregister hsubscribed] at herror
        cases herror
      | false =>
        cases hresult :
            (Transport.subscribe (f.queueName (C.tag kind)) (.facade f.address) x).1 with
        | error e' => exact absurd ⟨registry, e', hregister, hsubscribed, hresult⟩ hnot
        | ok _ =>
          obtain ⟨log, haccepted⟩ :=
            enroll_of_accepted register hregister hsubscribed (Prod.ext hresult rfl)
          rw [haccepted] at herror
          cases herror

end Facade

/-! ## Commands and events -/

/-- A command that has a handler is not taken in again. -/
theorem CommandRegistry.register_of_isRegistered {r : CommandRegistry C} {kind : C.Kind}
    (h : r.isRegistered (C.tag kind) = true) (handler : Handler C.Store (C.Value kind) Unit)
    (authorizer : Authorizer) :
    r.register kind handler authorizer =
      .error (.registration (.commandTaken (C.tag kind))) := by
  rw [isRegistered] at h
  simp [register, h]

/-- What a command registry takes in changes it. -/
theorem CommandRegistry.ne_of_register {r r' : CommandRegistry C} {kind : C.Kind}
    {handler : Handler C.Store (C.Value kind) Unit} {authorizer : Authorizer}
    (h : r.register kind handler authorizer = .ok r') : r' ≠ r := by
  rintro rfl
  rw [register_of_isRegistered (isRegistered_of_register h)] at h
  cases h

/-- What an event registry takes in changes it. -/
theorem EventRegistry.ne_of_register {r r' : EventRegistry C} {kind : C.Kind}
    {handler : EventHandler (C.Value kind)} (h : r.register kind handler = .ok r') : r' ≠ r := by
  rintro rfl
  have hcount := handlerCount_of_register h
  omega

/-- An event registry that took a handler in takes it in again. -/
theorem EventRegistry.register_again {r r' : EventRegistry C} {kind : C.Kind}
    {handler : EventHandler (C.Value kind)} (h : r.register kind handler = .ok r') :
    ∃ r'', r'.register kind handler = .ok r'' := by
  obtain ⟨before, -, rfl⟩ := register_eq_ok_iff.mp h
  exact ⟨_, register_eq_ok_iff.mpr ⟨_, .inr (Dictionary.find?_insert_self ..), rfl⟩⟩

namespace Facade

variable [Transport C τ]

/-- An error leaves a façade as it was exactly if the registration did not break off.  One that
broke off is not mended by trying again: the command is refused because it has its handler, without
any subscription, and the event gets its handler twice. -/
theorem register_allOrNothing_iff (kind : C.Kind) (x : Exchange C τ) :
    (∀ (f : CommandFacade C) (handler : Handler C.Store (C.Value kind) Unit)
        (authorizer : Authorizer),
      let registration := f.registry.register kind handler authorizer
      let f' := (f.register kind handler authorizer x).1.2
      (f.AllOrNothing (f.register kind handler authorizer x).1 ↔
        ¬ f.BreaksOff kind registration x) ∧
      (f.BreaksOff kind registration x →
        f'.registry.isRegistered (C.tag kind) = true ∧ f'.subscribed = f.subscribed ∧
          (f.routes? kind = .ok false → f'.routes? kind = .ok true) ∧
          ∀ y : Exchange C τ, f'.register kind handler authorizer y =
            ((.error (.registration (.commandTaken (C.tag kind))), f'), y))) ∧
    ∀ (f : EventFacade C) (handler : EventHandler (C.Value kind)),
      let registration := f.registry.register kind handler
      let f' := (f.register kind handler x).1.2
      (f.AllOrNothing (f.register kind handler x).1 ↔ ¬ f.BreaksOff kind registration x) ∧
      (f.BreaksOff kind registration x →
        f'.handlerCount (C.tag kind) = f.handlerCount (C.tag kind) + 1 ∧
          f'.subscribed = f.subscribed ∧
          ∀ y : Exchange C τ,
            (Transport.subscribe (f.queueName (C.tag kind)) (.facade f.address) y).1 = .ok () →
              ∃ f'', (f'.register kind handler y).1 = (.ok (), f'') ∧
                f''.handlerCount (C.tag kind) = f.handlerCount (C.tag kind) + 2) := by
  constructor
  · intro f handler authorizer registration f'
    refine ⟨enroll_allOrNothing_iff fun _ => CommandRegistry.ne_of_register, fun hbreaks => ?_⟩
    obtain ⟨registry, e, hregister, hleft⟩ :=
      enroll_of_breaksOff (fun r : CommandRegistry C => r.register kind handler authorizer) hbreaks
    have hf' : f' = f.takeIn kind registry := congrArg Prod.snd hleft
    have hregistered := CommandRegistry.isRegistered_of_register hregister
    rw [hf']
    refine ⟨by simpa using hregistered, by simp, fun hroute => ?_, fun y => ?_⟩
    · exact routes?_addRoute hroute
    · apply enroll_of_error
      rw [registry_takeIn]
      exact CommandRegistry.register_of_isRegistered hregistered handler authorizer
  · intro f handler registration f'
    refine ⟨enroll_allOrNothing_iff fun _ => EventRegistry.ne_of_register, fun hbreaks => ?_⟩
    have hbroken := hbreaks
    obtain ⟨-, -, -, hsubscribed, -⟩ := hbroken
    obtain ⟨registry, e, hregister, hleft⟩ :=
      enroll_of_breaksOff (fun r : EventRegistry C => r.register kind handler) hbreaks
    have hf' : f' = f.takeIn kind registry := congrArg Prod.snd hleft
    have hcount := EventRegistry.handlerCount_of_register hregister
    rw [hf']
    refine ⟨by simpa [EventFacade.handlerCount] using hcount, by simp, fun y haccepted => ?_⟩
    obtain ⟨registry', hagain⟩ := EventRegistry.register_again hregister
    have hcount' := EventRegistry.handlerCount_of_register hagain
    have hfree : (f.takeIn kind registry).subscribed.contains
        ((f.takeIn kind registry).queueName (C.tag kind)) = false := by simpa using hsubscribed
    obtain ⟨log, haccepted⟩ :=
      enroll_of_accepted (fun r : EventRegistry C => r.register kind handler)
        (by simpa using hagain) hfree (Prod.ext (by simpa using haccepted) rfl)
    refine ⟨_, congrArg Prod.fst haccepted, ?_⟩
    simp only [EventFacade.handlerCount, noteSubscribed, registry_takeIn]
    omega

/-- Over a transport that refuses the first subscription, a command keeps its handler although its
registration was answered with an error, and it is refused for that when it is tried again. -/
theorem register_refused_keeps_handler :
    let C := Sample.catalogue fun _ => ""
    let x : Exchange C (Rehearsed HeldMail) :=
      ⟨.start ⟨[], []⟩ 0, (Rehearsed.start HeldMail.empty).planSubscribe .closed⟩
    let handler : Handler C.Store (C.Value Sample.Kind.ping) Unit :=
      ⟨1, "p", .plain fun _ _ => .ok ()⟩
    let f : CommandFacade C := CommandFacade.start 0 "app"
    let first := f.register Sample.Kind.ping handler .everyone x
    let again := first.1.2.register Sample.Kind.ping handler .everyone first.2
    ¬ f.AllOrNothing first.1 ∧ first.1.1 = .error (.transport .closed) ∧
      again.1.1 = .error (.registration (.commandTaken "Ping")) ∧
      again.1.2.subscribedQueues = [] := by
  refine ⟨fun hall => ?_, rfl, rfl, rfl⟩
  have hsame := congrArg (fun f => f.registry.isRegistered "Ping") (hall _ rfl)
  exact absurd hsame (by decide)

end Facade
end Switchboard
