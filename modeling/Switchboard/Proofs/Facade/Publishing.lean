import Switchboard.Facade.Commands
import Switchboard.Facade.Events
import Switchboard.Proofs.Facade.Imprint
import Switchboard.Queue.Broker

/-!
# Publishing

What a façade does when it publishes: it looks at its routes, composes a message and sends it, and
stops at the first of these that fails.  Over a broker a message that was sent stands last on its
queue, and without one nothing has changed but the log and the supply of identifiers.

Main results:

- Theorem {lit}`Facade.publish_error`: why publishing fails, over any transport.
- Theorem {lit}`Broker.send_cases`: what a broker makes of a message.
- Theorem {lit}`Facade.publish_cases`: what publishing does over a broker.
- Theorems {lit}`CommandFacade.execute_of_unrouted`, {lit}`CommandFacade.execute_of_other_route` and
  {lit}`CommandFacade.execute_of_route`: what a façade does with a command, by the route of its tag.
- Theorems {lit}`EventFacade.dispatch_of_other_route` and {lit}`EventFacade.dispatch_of_route`: what
  it does with an event.
-/

namespace Switchboard

variable {C : Catalogue} {ρ τ : Type}

/-! ## Any transport -/

section
variable [Transport C τ]

/-- What goes wrong with publishing lies in the payload's text or in the transport. -/
theorem Facade.publish_error (f : Facade C ρ) (ctx : Context) {kind : C.Kind}
    (payload : C.Value kind) (organisation : Option Uuid) (x : Exchange C τ) {e : DispatchError}
    (herror : (f.publish ctx payload organisation x).1 = .error e) :
    (∃ cause, e = .serialization cause) ∨ ∃ fault, e = .transport fault := by
  cases hcompose : compose (Uuid.random x.session.nextId).text ctx payload organisation with
  | error refusal =>
    simp only [publish, bind_apply, Exchange.act, Session.draw, hcompose, pure_apply,
      Except.error.injEq] at herror
    exact .inl ⟨_, herror.symm⟩
  | ok m =>
    obtain ⟨log, hpost⟩ := f.publish_eq_post hcompose
    rw [hpost] at herror
    simp only [post] at herror
    generalize Transport.send (C := C) (τ := τ) (f.queueName (C.tag kind)) m _ = sent at herror
    obtain ⟨_ | _, _⟩ := sent
    · exact .inr ⟨_, (Except.error.inj herror).symm⟩
    · cases herror

namespace CommandFacade

variable {f : CommandFacade C} {kind : C.Kind}

/-- A façade refuses a command whose tag is not routed, and nothing happens. -/
theorem execute_of_unrouted (hroute : f.routes.find? (C.tag kind) = none) (ctx : Context)
    (organisation : Option Uuid) (command : C.Value kind) (x : Exchange C τ) :
    f.execute ctx organisation command x =
      (.error (.lookup (.noCommandHandler (C.tag kind))), x) := by
  simp only [execute, Facade.routes?, hroute, pure_apply]

/-- A façade refuses a command whose tag is routed to another type, and nothing happens. -/
theorem execute_of_other_route {routed : C.Kind}
    (hroute : f.routes.find? (C.tag kind) = some routed) (hkind : routed ≠ kind) (ctx : Context)
    (organisation : Option Uuid) (command : C.Value kind) (x : Exchange C τ) :
    f.execute ctx organisation command x =
      (.error (.registration (.routedType (C.tag kind))), x) := by
  simp only [execute, Facade.routes?, hroute, if_neg hkind, pure_apply]

/-- A façade publishes the commands whose tag is routed to their type. -/
theorem execute_of_route (hroute : f.routes.find? (C.tag kind) = some kind) (ctx : Context)
    (organisation : Option Uuid) (command : C.Value kind) (x : Exchange C τ) :
    f.execute ctx organisation command x = f.publish ctx command organisation x := by
  simp only [execute, Facade.routes?, hroute, if_true]

end CommandFacade

namespace EventFacade

variable {f : EventFacade C} {kind : C.Kind}

/-- A façade refuses an event whose tag is routed to another type, and nothing happens. -/
theorem dispatch_of_other_route {routed : C.Kind}
    (hroute : f.routes.find? (C.tag kind) = some routed) (hkind : routed ≠ kind) (ctx : Context)
    (event : C.Value kind) (x : Exchange C τ) :
    f.dispatch ctx event x = (.error (.registration (.routedType (C.tag kind))), x) := by
  simp only [dispatch, Facade.routes?, hroute, if_neg hkind, pure_apply]

/-- A façade publishes all other events, whether their tag is routed or not. -/
theorem dispatch_of_route (hroute : ∀ routed, f.routes.find? (C.tag kind) = some routed →
      routed = kind) (ctx : Context) (event : C.Value kind) (x : Exchange C τ) :
    f.dispatch ctx event x = f.publish ctx event none x := by
  unfold dispatch Facade.routes?
  cases hfound : f.routes.find? (C.tag kind) with
  | none => rfl
  | some routed => simp only [if_pos (hroute routed hfound)]

end EventFacade

end

/-! ## A broker -/

/-- No user code has been called: the store and the record are as before, and only the log and the
supply of identifiers have moved on. -/
def Session.Undisturbed (s s' : Session C) : Prop :=
  ∃ log nextId, s' = { s with log, nextId }

/-- A message was appended to a queue of a broker that was open, and nothing else has changed. -/
structure Broker.Appended (b b' : Broker) (queue : String) (m : Message) : Prop where
  isOpen : b.backlog.closed = false
  eq : b' = { b with backlog := { b.backlog with
    queues := b.backlog.queues.insert queue (b.backlog.waiting queue ++ [.sent m b.now]) } }

namespace Broker.Appended

variable {b b' : Broker} {queue : String} {m : Message}

/-- A message that was appended stands last on its queue, visible at once. -/
theorem waiting_self (h : b.Appended b' queue m) :
    b'.backlog.waiting queue = b.backlog.waiting queue ++ [.sent m b.now] := by
  rw [h.eq]
  simp [Backlog.waiting]

/-- All other queues are as before. -/
theorem waiting_of_ne (h : b.Appended b' queue m) {other : String} (hne : other ≠ queue) :
    b'.backlog.waiting other = b.backlog.waiting other := by
  rw [h.eq, Backlog.waiting, Dictionary.find?_insert_of_ne _ hne, ← Backlog.waiting]

end Broker.Appended

/-- What a broker makes of a message that is sent: closed queues refuse it, and open ones take
it. -/
theorem Broker.send_cases (b : Broker) (queue : String) (m : Message) :
    (b.backlog.closed = true ∧ b.send queue m = (.error .closed, b)) ∨
      ∃ b', b.send queue m = (.ok (), b') ∧ b.Appended b' queue m := by
  cases hclosed : b.backlog.closed with
  | true => exact .inl ⟨rfl, by simp [send, Backlog.send, hclosed]⟩
  | false =>
    obtain ⟨backlog, hsend, heq⟩ := send_of_open hclosed queue m
    exact .inr ⟨_, heq, hclosed, by rw [(Backlog.send_eq_ok_iff.mp hsend).2]⟩

/-- What publishing does over a broker: a payload that cannot be written, or queues that are closed,
leave the broker as it was, and otherwise the composed message is appended to the queue of its tag.
No user code is called. -/
theorem Facade.publish_cases (f : Facade C ρ) (ctx : Context) {kind : C.Kind}
    (payload : C.Value kind) (organisation : Option Uuid) (x : Exchange C Broker) :
    let outcome := f.publish ctx payload organisation x
    let composed := compose (Uuid.random x.session.nextId).text ctx payload organisation
    x.session.Undisturbed outcome.2.session ∧
      ((∃ refusal, composed = .error refusal ∧
          outcome.1 = .error (.serialization (.refused refusal)) ∧
          outcome.2.transport = x.transport) ∨
        (x.transport.backlog.closed = true ∧ outcome.1 = .error (.transport .closed) ∧
          outcome.2.transport = x.transport) ∨
        ∃ m, composed = .ok m ∧ outcome.1 = .ok () ∧
          x.transport.Appended outcome.2.transport (f.queueName (C.tag kind)) m) := by
  intro outcome composed
  cases hcompose : compose (Uuid.random x.session.nextId).text ctx payload organisation with
  | error refusal =>
    have houtcome : outcome = (.error (.serialization (.refused refusal)),
        ⟨{ x.session with nextId := x.session.nextId + 1 }, x.transport⟩) := by
      simp only [outcome, publish, bind_apply, Exchange.act, Session.draw, hcompose, pure_apply]
    rw [houtcome]
    exact ⟨⟨_, _, rfl⟩, .inl ⟨refusal, hcompose, rfl, rfl⟩⟩
  | ok m =>
    obtain ⟨log, hpost⟩ := f.publish_eq_post hcompose
    simp only [outcome, hpost, post, Transport.send, Exchange.carry]
    rcases x.transport.send_cases (f.queueName (C.tag kind)) m with
      ⟨hclosed, heq⟩ | ⟨b', heq, happended⟩
    · rw [heq]
      exact ⟨⟨_, _, rfl⟩, .inr (.inl ⟨hclosed, rfl, rfl⟩)⟩
    · rw [heq]
      exact ⟨⟨_, _, rfl⟩, .inr (.inr ⟨m, hcompose, rfl, happended⟩)⟩

end Switchboard
