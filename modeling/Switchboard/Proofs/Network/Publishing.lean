import Switchboard.Proofs.Facade.Publishing
import Switchboard.Proofs.Network.Coherence
import Switchboard.Proofs.Network.Standing

/-!
# Publishing is atomic

A command or an event is published at one of the façades that share a broker, in any state of the
network.  Either one message comes to stand last on the queue of the payload's tag, or the call
answers with an error that has a cause and the broker is as it was.  The façades stay as they were,
and no user code is called, whatever happens.

Main results:

- Definition {lit}`Publication`: a command or an event that is to be published.
- Definition {lit}`Publication.Fault`: why it cannot be published.
- Definition {lit}`Network.Published`: what a call that publishes it may do.
- Theorem {lit}`Network.publish_atomic`: such a call does nothing else.
-/

namespace Switchboard

variable {C : Catalogue}

/-! ## Publications -/

/-- What is to be published at the façade of an address. -/
inductive Publication (C : Catalogue) where
  | command (address : Nat) (request : Request C)
  | event (address : Nat) (context : Context) (kind : C.Kind) (payload : C.Value kind)

namespace Publication

/-- The address of the façade. -/
def address : Publication C → Nat
  | command address _ => address
  | event address _ _ _ => address

/-- The payload type. -/
def kind : Publication C → C.Kind
  | command _ request => request.kind
  | event _ _ kind _ => kind

/-- The tag of the payload. -/
def tag (p : Publication C) : String :=
  C.tag p.kind

/-- The message of a publication, an identifier being given. -/
def compose (p : Publication C) (id : String) : Except Refusal Message :=
  match p with
  | command _ request =>
    Facade.compose id request.context request.command request.organisation
  | event _ context _ payload => Facade.compose id context payload none

/-- A façade of a publication's sort stands at the publication's address. -/
def At (p : Publication C) (n : Network C Broker) (f : AnyFacade C) : Prop :=
  n.facades[p.address]? = some f ∧
    match p, f with
    | command .., .commands _ => True
    | event .., .events _ => True
    | _, _ => False

/-- Why the façade of a publication's address does not publish it. -/
inductive Fault (n : Network C Broker) : Publication C → DispatchError → Prop
  /-- There is no handler for the command. -/
  | unrouted {address : Nat} {request : Request C} {f : CommandFacade C}
      (hf : n.facades[address]? = some (.commands f))
      (hroute : f.routes.find? (C.tag request.kind) = none) :
      Fault n (.command address request) (.lookup (.noCommandHandler (C.tag request.kind)))
  /-- The tag is routed to another payload type. -/
  | otherRoute {p : Publication C} {f : AnyFacade C} {routed : C.Kind} (hf : p.At n f)
      (hroute : f.outline.routes.find? p.tag = some routed) (hkind : routed ≠ p.kind) :
      Fault n p (.registration (.routedType p.tag))
  /-- The payload cannot be written. -/
  | unwritable {p : Publication C} {refusal : Refusal}
      (hcompose : p.compose (Uuid.random n.exchange.session.nextId).text = .error refusal) :
      Fault n p (.serialization (.refused refusal))
  /-- The queues are closed. -/
  | closed {p : Publication C} (hclosed : n.exchange.transport.backlog.closed = true) :
      Fault n p (.transport .closed)

end Publication

namespace Network

/-- Publish a command or an event at the façade of its address, if there is one for it. -/
def publish (p : Publication C) : StateM (Network C Broker) (Option (Except DispatchError Unit)) :=
  match p with
  | .command address request => onCommands address fun f => do
    return (← f.execute request.context request.organisation request.command, f)
  | .event address context _ payload => dispatch address context payload

/-- What a call that publishes may do to a network, by its answer: nothing without a façade; nothing
to the broker where it answers with an error, which has a cause; otherwise it appends the message to
the queue of the payload's tag.  The façades stay as they are, and no user code is called. -/
structure Published (p : Publication C) (n n' : Network C Broker)
    (answer : Option (Except DispatchError Unit)) : Prop where
  facades : n'.facades = n.facades
  session : n.exchange.session.Undisturbed n'.exchange.session
  broker : match answer with
    | none => (¬ ∃ f, p.At n f) ∧ n' = n
    | some (.error e) => p.Fault n e ∧ n'.exchange.transport = n.exchange.transport
    | some (.ok ()) => ∃ f m, p.At n f ∧
      p.compose (Uuid.random n.exchange.session.nextId).text = .ok m ∧
      let queue := f.outline.queueName p.tag
      let b := n.exchange.transport
      let b' := n'.exchange.transport
      b.Appended b' queue m ∧
        b'.backlog.waiting queue = b.backlog.waiting queue ++ [.sent m b.now] ∧
        ∀ other, other ≠ queue → b'.backlog.waiting other = b.backlog.waiting other

/-- What the use of a façade for publishing may come to. -/
structure Posts (p : Publication C) (n : Network C Broker) (f : AnyFacade C)
    (used : Except DispatchError Unit × Exchange C Broker) : Prop where
  session : n.exchange.session.Undisturbed used.2.session
  broker : (∃ e, used.1 = .error e ∧ p.Fault n e ∧ used.2.transport = n.exchange.transport) ∨
    ∃ m, used.1 = .ok () ∧ p.compose (Uuid.random n.exchange.session.nextId).text = .ok m ∧
      n.exchange.transport.Appended used.2.transport (f.outline.queueName p.tag) m

section
variable {n : Network C Broker} {p : Publication C} {f : AnyFacade C}

/-- A façade that refuses a payload for a reason does nothing. -/
theorem Posts.of_fault {e : DispatchError} (h : p.Fault n e) :
    Posts p n f (.error e, n.exchange) :=
  ⟨⟨_, _, rfl⟩, .inl ⟨e, rfl, h, rfl⟩⟩

/-- A façade that lets a payload through sends the publication's message. -/
theorem Posts.of_publish {ρ : Type} {g : Facade C ρ} (hg : f.outline = g.outline) {ctx : Context}
    {payload : C.Value p.kind} {organisation : Option Uuid}
    (hcompose : ∀ id, Facade.compose id ctx payload organisation = p.compose id) :
    Posts p n f (g.publish ctx payload organisation n.exchange) := by
  obtain ⟨hsession, hrefused | hclosed | hsent⟩ :=
    g.publish_cases ctx payload organisation n.exchange
  · obtain ⟨refusal, hrefusal, hanswer, hsame⟩ := hrefused
    exact ⟨hsession, .inl ⟨_, hanswer, .unwritable (hcompose _ ▸ hrefusal), hsame⟩⟩
  · obtain ⟨hclosed, hanswer, hsame⟩ := hclosed
    exact ⟨hsession, .inl ⟨_, hanswer, .closed hclosed, hsame⟩⟩
  · obtain ⟨m, hm, hanswer, happended⟩ := hsent
    exact ⟨hsession, .inr ⟨m, hanswer, hcompose _ ▸ hm, hg ▸ happended⟩⟩

/-- A façade that was used for publishing stays where and what it is. -/
theorem Posts.published (hat : p.At n f)
    {used : Except DispatchError Unit × Exchange C Broker} (h : Posts p n f used) :
    Published p n ⟨used.2, n.facades.set p.address f⟩ (some used.1) where
  facades := set_facades_eq_self hat.1
  session := h.session
  broker := by
    rcases h.broker with ⟨e, hanswer, hfault, hsame⟩ | ⟨m, hanswer, hcompose, happended⟩
    · rw [hanswer]
      exact ⟨hfault, hsame⟩
    · rw [hanswer]
      exact ⟨f, m, hat, hcompose, happended, happended.waiting_self,
        fun other => happended.waiting_of_ne⟩

/-- Where there is no façade for a publication, nothing happens. -/
theorem published_of_none (hnone : ¬ ∃ f, p.At n f) : Published p n n none :=
  ⟨rfl, ⟨_, _, rfl⟩, hnone, rfl⟩

end

/-- What a façade does with a command. -/
theorem posts_execute {n : Network C Broker} {address : Nat} {f : CommandFacade C}
    (hf : n.facades[address]? = some (.commands f)) (request : Request C) :
    Posts (.command address request) n (.commands f)
      (f.execute request.context request.organisation request.command n.exchange) := by
  cases hroute : f.routes.find? (C.tag request.kind) with
  | none =>
    rw [CommandFacade.execute_of_unrouted hroute]
    exact .of_fault (.unrouted hf hroute)
  | some routed =>
    by_cases hkind : routed = request.kind
    · rw [CommandFacade.execute_of_route (hkind ▸ hroute)]
      exact .of_publish rfl fun _ => rfl
    · rw [CommandFacade.execute_of_other_route hroute hkind]
      exact .of_fault (.otherRoute (p := .command address request) ⟨hf, trivial⟩ hroute hkind)

/-- What a façade does with an event. -/
theorem posts_dispatch {n : Network C Broker} {address : Nat} {f : EventFacade C}
    (hf : n.facades[address]? = some (.events f)) (ctx : Context) {kind : C.Kind}
    (payload : C.Value kind) :
    Posts (.event address ctx kind payload) n (.events f) (f.dispatch ctx payload n.exchange) := by
  by_cases hother : ∃ routed, f.routes.find? (C.tag kind) = some routed ∧ routed ≠ kind
  · obtain ⟨routed, hroute, hkind⟩ := hother
    rw [EventFacade.dispatch_of_other_route hroute hkind]
    exact .of_fault (.otherRoute (p := .event address ctx kind payload) ⟨hf, trivial⟩ hroute hkind)
  · rw [EventFacade.dispatch_of_route fun routed hroute =>
      of_not_not fun hkind => hother ⟨routed, hroute, hkind⟩]
    exact .of_publish rfl fun _ => rfl

/-- In any state of a network, a call that publishes a command or an event leaves the façades and
all user code alone.  If it answers with an error, there is a cause, and the broker is as it was; if
it succeeds, exactly one message, that of the payload, was appended, at the back of the queue of the
payload's tag. -/
theorem publish_atomic (n : Network C Broker) (p : Publication C) :
    Published p n (n.publish p).2 (n.publish p).1 := by
  cases p with
  | command address request =>
    by_cases hf : ∃ f, n.facades[address]? = some (.commands f)
    · obtain ⟨f, hf⟩ := hf
      rw [publish, onCommands_of_getElem? hf]
      exact (posts_execute hf request).published ⟨hf, trivial⟩
    · rw [publish, onCommands_of_not_commands hf]
      refine published_of_none ?_
      rintro ⟨f, hat⟩
      cases f with
      | commands f => exact hf ⟨f, hat.1⟩
      | events f => exact hat.2
  | event address ctx kind payload =>
    by_cases hf : ∃ f, n.facades[address]? = some (.events f)
    · obtain ⟨f, hf⟩ := hf
      rw [publish, dispatch, onEvents_of_getElem? hf]
      exact (posts_dispatch hf ctx payload).published ⟨hf, trivial⟩
    · rw [publish, dispatch, onEvents_of_not_events hf]
      refine published_of_none ?_
      rintro ⟨f, hat⟩
      cases f with
      | commands f => exact hat.2
      | events f => exact hf ⟨f, hat.1⟩

end Network
end Switchboard
