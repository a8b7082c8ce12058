import Switchboard.Proofs.Facade.Draining
import Switchboard.Proofs.Network.Course
import Switchboard.Proofs.Network.Reception

/-!
# Routes and handlers in step

Handlers are handed in at the façades of a network.  Some are refused by the registry, and for some
the transport refuses the subscription, although the handler has been taken in by then.  Through all
of this a façade's routes keep step with its handlers, and its subscriptions with what the transport
accepted from it.

The transport is arbitrary, and between two registrations anything may happen to it and in the
session.  It only keeps a list of the subscriptions that it accepted.

Main results:

- Definition {lit}`Noted`: a transport with a list of the subscriptions that it accepted.
- Theorem {lit}`Facade.enroll_noted`: what a registration makes of its façade and of the list.
- Theorem {lit}`Enrolment.forget_run`: the list changes nothing about what happens.
- Theorem {lit}`AnyFacade.Coherent.handsOver`: a routed message comes to the handlers of its tag.
- Theorem {lit}`Enrolment.Sound.step`: every registration keeps the façades coherent.
- Theorem {lit}`Enrolment.run_coherent`: so they are after any sequence of registrations.
-/

namespace Switchboard

variable {C : Catalogue} {ρ τ : Type}

/-! ## Transports that keep a list -/

/-- A transport with the subscriptions that it accepted, the latest last. -/
structure Noted (τ : Type) where
  inner : τ
  accepted : List (String × Subscriber)

namespace Noted

instance [Transport C τ] : Transport C (Noted τ) where
  send queue message := fun x =>
    let (result, y) := Transport.send queue message ⟨x.session, x.transport.inner⟩
    (result, ⟨y.session, { x.transport with inner := y.transport }⟩)
  subscribe queue subscriber := fun x =>
    let (result, y) := Transport.subscribe queue subscriber ⟨x.session, x.transport.inner⟩
    let accepted :=
      match result with
      | .ok () => x.transport.accepted ++ [(queue, subscriber)]
      | .error _ => x.transport.accepted
    (result, ⟨y.session, ⟨y.transport, accepted⟩⟩)

/-- An exchange without the list that its transport keeps. -/
def forget (x : Exchange C (Noted τ)) : Exchange C τ :=
  ⟨x.session, x.transport.inner⟩

end Noted

/-- The address of the façade that a subscriber stands for, if it stands for one. -/
def Subscriber.address? : Subscriber → Option Nat
  | facade address => some address
  | consumer _ => none

/-- How often the façade of an address was accepted as the subscriber of a queue. -/
def timesAccepted (accepted : List (String × Subscriber)) (queue : String) (address : Nat) : Nat :=
  accepted.countP fun entry => entry.1 = queue ∧ entry.2.address? = some address

theorem timesAccepted_concat (accepted : List (String × Subscriber)) (queue other : String)
    (address place : Nat) :
    timesAccepted (accepted ++ [(queue, .facade address)]) other place =
      timesAccepted accepted other place + if queue = other ∧ address = place then 1 else 0 := by
  simp [timesAccepted, Subscriber.address?, List.countP_append, List.countP_singleton]

/-! ## How a registration ends -/

namespace Facade

variable [Transport C τ]

/-- A transport goes about its subscriptions as it would without the list. -/
theorem enroll_forget (f : Facade C ρ) (kind : C.Kind) (register : ρ → Except DispatchError ρ)
    (x : Exchange C (Noted τ)) :
    f.enroll kind register (Noted.forget x) =
      ((f.enroll kind register x).1, Noted.forget (f.enroll kind register x).2) := by
  unfold enroll
  cases register f.registry with
  | error e => rfl
  | ok registry =>
    dsimp only
    split
    · rfl
    · simp only [bind_apply, Transport.subscribe, Noted.forget]
      generalize Transport.subscribe _ _ (⟨x.session, x.transport.inner⟩ : Exchange C τ) = answer
      obtain ⟨_ | _, y⟩ := answer <;> rfl

/-- What a registration makes of its façade and of the list: nothing changes; or the handler is
taken in, and the list stays, or it gets longer by a queue that was not subscribed to before. -/
theorem enroll_noted (f : Facade C ρ) (kind : C.Kind) (register : ρ → Except DispatchError ρ)
    (x : Exchange C (Noted τ)) :
    let queue := f.queueName (C.tag kind)
    let outcome := f.enroll kind register x
    (outcome.1.1 ≠ .ok () ∧ outcome.1.2 = f ∧
      outcome.2.transport.accepted = x.transport.accepted) ∨
    ∃ registry, register f.registry = .ok registry ∧
      ((outcome.1.1 = .ok () → f.subscribed.contains queue = true) ∧
          outcome.1.2 = f.takeIn kind registry ∧
          outcome.2.transport.accepted = x.transport.accepted ∨
        f.subscribed.contains queue = false ∧
          outcome.1.2 = (f.takeIn kind registry).noteSubscribed queue ∧
          outcome.2.transport.accepted =
            x.transport.accepted ++ [(queue, .facade f.address)]) := by
  intro queue outcome
  rcases f.enroll_cases_of_transport kind register x with
    ⟨e, -, heq⟩ | ⟨registry, hregister, ⟨hsubscribed, heq⟩ | ⟨hfree, hasked⟩⟩
  · exact .inl ⟨by simp [outcome, heq], by simp [outcome, heq], by simp [outcome, heq]⟩
  · refine .inr ⟨registry, hregister, .inl ⟨fun _ => hsubscribed, ?_, ?_⟩⟩
    · simp [outcome, heq]
    · simp [outcome, heq]
  · -- The list is extended exactly if the inner transport accepts.
    refine .inr ⟨registry, hregister, ?_⟩
    rcases hasked with ⟨e, y, hanswer, heq⟩ | ⟨y, log, hanswer, heq⟩
    · refine .inl ⟨by simp [outcome, heq], by simp [outcome, heq], ?_⟩
      obtain ⟨hresult, hy⟩ := Prod.mk.inj hanswer
      simp only [outcome, heq, ← hy, hresult]
    · refine .inr ⟨hfree, by simp [outcome, heq, queue], ?_⟩
      obtain ⟨hresult, hy⟩ := Prod.mk.inj hanswer
      simp only [outcome, heq, ← hy, hresult, queue]

end Facade

namespace Enlistment

/-- How a façade is changed by a handler that its registry takes in, before its queue is asked
for. -/
inductive Enters : Enlistment C → AnyFacade C → AnyFacade C → Prop
  | command {address : Nat} {entry : CommandEntry C} {f : CommandFacade C}
      {registry : CommandRegistry C}
      (h : f.registry.register entry.kind entry.handler entry.authorizer = .ok registry) :
      Enters (.command address entry) (.commands f) (.commands (f.takeIn entry.kind registry))
  | event {address : Nat} {kind : C.Kind} {handler : EventHandler (C.Value kind)}
      {f : EventFacade C} {registry : EventRegistry C}
      (h : f.registry.register kind handler = .ok registry) :
      Enters (.event address kind handler) (.events f) (.events (f.takeIn kind registry))

end Enlistment

namespace AnyFacade

/-- Note that a queue is subscribed to. -/
def noteSubscribed (f : AnyFacade C) (queue : String) : AnyFacade C :=
  match f with
  | commands f => commands (f.noteSubscribed queue)
  | events f => events (f.noteSubscribed queue)

theorem outline_noteSubscribed (f : AnyFacade C) (queue : String) :
    (f.noteSubscribed queue).outline = f.outline.noteSubscribed queue := by
  cases f <;> rfl

theorem roster_noteSubscribed (f : AnyFacade C) (queue tag : String) :
    (f.noteSubscribed queue).roster tag = f.roster tag := by
  cases f <;> rfl

end AnyFacade

namespace Enlistment.Enters

variable {e : Enlistment C} {f f' : AnyFacade C}

/-- A handler that has entered joins its façade once the queue is noted. -/
theorem joins (h : e.Enters f f') :
    e.Joins f (f'.noteSubscribed (f.outline.queueName e.tag)) := by
  cases h with
  | command h => exact .command h
  | event h => exact .event h

theorem outline_eq (h : e.Enters f f') : f'.outline = f.outline.takeIn e.kind () := by
  cases h <;> exact Facade.outline_takeIn ..

/-- A handler that enters comes last. -/
theorem roster_eq (h : e.Enters f f') (haddress : f.outline.address = e.address) (tag : String) :
    f'.roster tag = f.roster tag ++ if e.tag = tag then [e] else [] := by
  rw [← h.joins.roster_eq haddress tag, AnyFacade.roster_noteSubscribed]

end Enlistment.Enters

/-! ## What becomes of a message -/

namespace AnyFacade

/-- A façade hands a message over to the handlers of a payload type: if it cannot be read as one,
nothing happens but an error; otherwise the handlers for the type are given the payload, and the
answer is theirs or that of the check before them. -/
def HandsOver (f : AnyFacade C) (kind : C.Kind) (ctx : Context) (m : Message) (s : Session C) :
    Prop :=
  match m.decode kind with
  | none => f.receive ctx m s = (.error (.serialization .unreadable), s)
  | some payload =>
    match f with
    | commands g =>
      ∃ handler authorizer,
        g.registry.entries.find? (C.tag kind) = some ⟨kind, handler, authorizer⟩ ∧
        g.receive ctx m s =
          let checked := authorizer.authorize (C.tag kind) ctx.asSystem m.organisation s
          match checked.1 with
          | .error e => (.error e, checked.2)
          | .ok () =>
            CommandRegistry.runEntry ⟨kind, handler, authorizer⟩ ctx.asSystem payload checked.2
    | events g =>
      ∃ handlers, handlers ≠ [] ∧ g.registry.slots.find? (C.tag kind) = some ⟨kind, handlers⟩ ∧
        g.receive ctx m s =
          let run := EventRegistry.runFrom ctx.asSystem payload 0 handlers s
          (if run.1 = [] then .ok () else .error (.aggregate ⟨C.tag kind, run.1⟩), run.2)

/-- An error that lies in the text of a message, in the handlers for its tag or in the check before
them, and not in the façade. -/
inductive Blames (f : AnyFacade C) (tag : String) (ctx : Context) (m : Message) :
    DispatchError → Prop
  | text : Blames f tag ctx m (.serialization .unreadable)
  | handler (e : HandlerError) : Blames f tag ctx m (.handler e)
  | handlers (failures : List HandlerFailure) : Blames f tag ctx m (.aggregate ⟨tag, failures⟩)
  | check {e : DispatchError} {entry : CommandEntry C} {n : Nat}
      (hentry : .command f.outline.address entry ∈ f.roster tag)
      (hcheck : containCheck tag (entry.authorizer.decide n ctx.asSystem m.organisation) =
        .error e) : Blames f tag ctx m e

end AnyFacade

/-- Whatever goes wrong with a message that is handed over, the façade is not to blame. -/
theorem AnyFacade.HandsOver.blames {f : AnyFacade C} {kind : C.Kind} {ctx : Context} {m : Message}
    {s : Session C} (h : f.HandsOver kind ctx m s) {e : DispatchError}
    (herror : (f.receive ctx m s).1 = .error e) : f.Blames (C.tag kind) ctx m e := by
  unfold HandsOver at h
  cases hdecode : m.decode kind with
  | none =>
    simp only [hdecode] at h
    rw [h, Except.error.injEq] at herror
    exact herror ▸ .text
  | some payload =>
    simp only [hdecode] at h
    cases f with
    | commands f =>
      obtain ⟨handler, authorizer, hentry, hreceive⟩ := h
      change (CommandFacade.receive f ctx m s).1 = .error e at herror
      rw [hreceive] at herror
      split at herror
      · rename_i e' hcheck
        rw [Except.error.injEq] at herror
        exact .check (mem_roster_commands.mpr ⟨_, hentry, rfl⟩) (herror ▸ hcheck)
      · rcases CommandRegistry.answer_runEntry ⟨kind, handler, authorizer⟩ ctx.asSystem payload
          (authorizer.authorize (C.tag kind) ctx.asSystem m.organisation s).2 with hok | ⟨e', he'⟩
        · rw [hok] at herror
          cases herror
        · rw [he', Except.error.injEq] at herror
          exact herror ▸ .handler e'
    | events f =>
      obtain ⟨handlers, -, -, hreceive⟩ := h
      change (EventFacade.receive f ctx m s).1 = .error e at herror
      rw [hreceive] at herror
      dsimp only at herror
      split at herror
      · cases herror
      · rw [Except.error.injEq] at herror
        exact herror ▸ .handlers _

/-! ## Coherence -/

/-- A façade at an address is coherent: its routes keep step with its handlers, and its
subscriptions with what the transport accepted, and it has subscribed to the queues of all types
whose registration was granted. -/
structure AnyFacade.Coherent (f : AnyFacade C) (address : Nat)
    (accepted : List (String × Subscriber)) (granted : List (Enlistment C)) : Prop where
  located : f.outline.address = address
  tags : ∀ tag, ∀ e ∈ f.roster tag, e.tag = tag
  routes : ∀ tag, f.outline.routes.find? tag = (f.roster tag).head?.map Enlistment.kind
  accepted : ∀ queue, timesAccepted accepted queue address =
    if f.outline.subscribed.contains queue = true then 1 else 0
  granted : ∀ e ∈ granted, e.address = address →
    f.outline.subscribed.contains (f.outline.queueName e.tag) = true

namespace AnyFacade.Coherent

variable {f f' : AnyFacade C} {address : Nat} {accepted : List (String × Subscriber)}
  {granted : List (Enlistment C)} {e : Enlistment C}

theorem of_vacant (h : f.Vacant address) : f.Coherent address [] [] where
  located := h.located
  tags tag e he := by
    rw [h.roster] at he
    cases he
  routes tag := by
    rw [h.routes, h.roster]
    rfl
  accepted queue := by
    rw [h.subscribed]
    rfl
  granted := List.forall_mem_nil _

/-- A handler that enters leaves a façade coherent. -/
theorem enters (h : f.Coherent e.address accepted granted) (henters : e.Enters f f') :
    f'.Coherent e.address accepted granted where
  located := by
    rw [henters.outline_eq, Facade.address_takeIn, h.located]
  tags tag other hother := by
    rw [henters.roster_eq h.located, List.mem_append] at hother
    rcases hother with hold | hnew
    · exact h.tags tag other hold
    · split at hnew
      · rename_i htag
        rwa [List.mem_singleton.mp hnew]
      · cases hnew
  routes tag := by
    rw [henters.outline_eq, henters.roster_eq h.located, List.head?_append, Option.map_or,
      ← h.routes]
    refine (Facade.find?_routes_takeIn ..).trans (congrArg _ ?_)
    change (if e.tag = tag then some e.kind else none) = _
    split <;> rfl
  accepted queue := by rw [henters.outline_eq, Facade.subscribed_takeIn, h.accepted]
  granted other hother haddress := by
    rw [henters.outline_eq, Facade.subscribed_takeIn, Facade.queueName_takeIn]
    exact h.granted other hother haddress

/-- A subscription that the transport accepted, to a queue that was not subscribed to, leaves a
façade coherent. -/
theorem noteSubscribed (h : f.Coherent address accepted granted) {queue : String}
    (hfree : f.outline.subscribed.contains queue = false) :
    (f.noteSubscribed queue).Coherent address (accepted ++ [(queue, .facade address)]) granted where
  located := by
    rw [outline_noteSubscribed]
    exact h.located
  tags tag := by
    rw [roster_noteSubscribed]
    exact h.tags tag
  routes tag := by
    rw [outline_noteSubscribed, roster_noteSubscribed]
    exact h.routes tag
  accepted other := by
    rw [timesAccepted_concat, h.accepted, outline_noteSubscribed]
    by_cases hsame : queue = other
    · subst hsame
      rw [hfree, if_pos ((Facade.contains_noteSubscribed ..).mpr (.inl rfl))]
      simp
    · have hiff := Facade.contains_noteSubscribed f.outline queue other
      simp only [hiff, hsame, Ne.symm hsame, false_and, false_or, if_false, add_zero]
  granted e he haddress := by
    rw [outline_noteSubscribed]
    exact (Facade.contains_noteSubscribed ..).mpr (.inr (h.granted e he haddress))

/-- A registration may be granted once its queue is subscribed to. -/
theorem grant (h : f.Coherent address accepted granted)
    (hsubscribed : e.address = address →
      f.outline.subscribed.contains (f.outline.queueName e.tag) = true) :
    f.Coherent address accepted (granted ++ [e]) where
  located := h.located
  tags := h.tags
  routes := h.routes
  accepted := h.accepted
  granted other hother haddress := by
    rcases List.mem_append.mp hother with hold | hnew
    · exact h.granted other hold haddress
    · obtain rfl := List.mem_singleton.mp hnew
      exact hsubscribed haddress

/-- A subscription of another façade does not matter. -/
theorem elsewhere (h : f.Coherent address accepted granted) {other : Nat} (hne : other ≠ address)
    (queue : String) : f.Coherent address (accepted ++ [(queue, .facade other)]) granted where
  located := h.located
  tags := h.tags
  routes := h.routes
  accepted entered := by
    have hother : ¬ (queue = entered ∧ other = address) := fun hsame => hne hsame.2
    rw [timesAccepted_concat, if_neg hother, h.accepted, add_zero]
  granted := h.granted

/-- A tag is routed exactly if there are handlers for it, and then to the payload type that all of
them take. -/
theorem find?_routes_eq_some_iff (h : f.Coherent address accepted granted) {tag : String}
    {kind : C.Kind} : f.outline.routes.find? tag = some kind ↔
      f.roster tag ≠ [] ∧ ∀ e ∈ f.roster tag, e.kind = kind := by
  rw [h.routes]
  cases hroster : f.roster tag with
  | nil => simp
  | cons first rest =>
    simp only [List.head?_cons, Option.map_some, Option.some_inj, ne_eq, reduceCtorEq,
      not_false_eq_true, true_and]
    constructor
    · intro hfirst e he
      rw [← hroster] at he
      exact (kind_of_mem_roster he (hroster ▸ List.mem_cons_self)).trans hfirst
    · intro hall
      exact hall first List.mem_cons_self

/-- A message whose tag is routed is handed over to the handlers of its type. -/
theorem handsOver (h : f.Coherent address accepted granted) {tag : String} {kind : C.Kind}
    (hroute : f.outline.routes.find? tag = some kind) {m : Message} (htag : m.typeInfo = some tag)
    (ctx : Context) (s : Session C) : tag = C.tag kind ∧ f.HandsOver kind ctx m s := by
  obtain ⟨hsome, hkinds⟩ := h.find?_routes_eq_some_iff.mp hroute
  obtain ⟨e, he⟩ := List.exists_mem_of_ne_nil _ hsome
  have hkind := hkinds e he
  obtain rfl : tag = C.tag kind := by rw [← h.tags tag e he, Enlistment.tag, hkind]
  refine ⟨rfl, ?_⟩
  unfold HandsOver
  cases f with
  | commands f =>
    change f.routes.find? (C.tag kind) = some kind at hroute
    obtain ⟨⟨kind', handler, authorizer⟩, hentry, rfl⟩ := mem_roster_commands.mp he
    obtain rfl : kind' = kind := hkind
    cases hdecode : m.decode kind' with
    | none =>
      change CommandFacade.receive f ctx m s = _
      rw [CommandFacade.receive, Facade.route_of_unreadable htag hroute hdecode]
    | some command =>
      refine ⟨handler, authorizer, hentry, ?_⟩
      rw [CommandFacade.receive, Facade.route_of_find htag hroute, Facade.readAs, hdecode]
      exact @CommandRegistry.execute_of_find C f.registry ⟨kind', handler, authorizer⟩ hentry ..
  | events f =>
    change f.routes.find? (C.tag kind) = some kind at hroute
    obtain ⟨⟨kind', handlers⟩, hslot, handler, hhandler, rfl⟩ := mem_roster_events.mp he
    obtain rfl : kind' = kind := hkind
    cases hdecode : m.decode kind' with
    | none =>
      change EventFacade.receive f ctx m s = _
      rw [EventFacade.receive, Facade.route_of_unreadable htag hroute hdecode]
    | some event =>
      refine ⟨handlers, List.ne_nil_of_mem hhandler, hslot, ?_⟩
      rw [EventFacade.receive, Facade.route_of_find htag hroute, Facade.readAs, hdecode]
      exact @EventRegistry.dispatch_of_find C f.registry ⟨kind', handlers⟩ hslot ..

end AnyFacade.Coherent

/-! ## Sequences of registrations -/

/-- What may happen where handlers are handed in. -/
inductive Offer (C : Catalogue) (τ : Type) where
  /-- A handler is handed in at a façade. -/
  | enlist (e : Enlistment C)
  /-- Anything else happens in the session and to the transport. -/
  | others (x : Exchange C τ)

/-- A network whose transport keeps a list, with the registrations that were granted so far. -/
structure Enrolment (C : Catalogue) (τ : Type) where
  network : Network C (Noted τ)
  granted : List (Enlistment C)

namespace Network

/-- Using the façade for commands at an address changes that façade and the exchange. -/
theorem onCommands_of_getElem? {α : Type} {n : Network C τ} {address : Nat} {f : CommandFacade C}
    (hf : n.facades[address]? = some (.commands f))
    (use : CommandFacade C → StateM (Exchange C τ) (α × CommandFacade C)) :
    onCommands address use n =
      let used := use f n.exchange
      (some used.1.1, ⟨used.2, n.facades.set address (.commands used.1.2)⟩) := by
  simp only [onCommands, hf]
  rfl

/-- Using the façade for events at an address changes that façade and the exchange. -/
theorem onEvents_of_getElem? {α : Type} {n : Network C τ} {address : Nat} {f : EventFacade C}
    (hf : n.facades[address]? = some (.events f))
    (use : EventFacade C → StateM (Exchange C τ) (α × EventFacade C)) :
    onEvents address use n =
      let used := use f n.exchange
      (some used.1.1, ⟨used.2, n.facades.set address (.events used.1.2)⟩) := by
  simp only [onEvents, hf]
  rfl

/-- Where there is no façade for commands, none is used. -/
theorem onCommands_of_not_commands {α : Type} {n : Network C τ} {address : Nat}
    (hnone : ¬ ∃ f, n.facades[address]? = some (.commands f))
    (use : CommandFacade C → StateM (Exchange C τ) (α × CommandFacade C)) :
    onCommands address use n = (none, n) := by
  rw [onCommands]
  split
  · rename_i f hf
    exact absurd ⟨f, hf⟩ hnone
  · rfl

/-- Where there is no façade for events, none is used. -/
theorem onEvents_of_not_events {α : Type} {n : Network C τ} {address : Nat}
    (hnone : ¬ ∃ f, n.facades[address]? = some (.events f))
    (use : EventFacade C → StateM (Exchange C τ) (α × EventFacade C)) :
    onEvents address use n = (none, n) := by
  rw [onEvents]
  split
  · rename_i f hf
    exact absurd ⟨f, hf⟩ hnone
  · rfl

/-- Putting a façade where it is already changes nothing. -/
theorem set_facades_eq_self {n : Network C τ} {address : Nat} {f : AnyFacade C}
    (hf : n.facades[address]? = some f) : n.facades.set address f = n.facades := by
  obtain ⟨hlt, rfl⟩ := List.getElem?_eq_some_iff.mp hf
  exact List.set_getElem_self hlt

/-- How a handler that is handed in changes a network and the list of its transport: it is refused
and nothing changes; or it enters, and the list stays, or it gets longer by a queue that was not
subscribed to before. -/
theorem enlist_noted [Transport C τ] (n : Network C (Noted τ)) (e : Enlistment C) :
    let outcome := enlist e n
    let before := n.exchange.transport.accepted
    let after := outcome.2.exchange.transport.accepted
    (outcome.1 ≠ some (.ok ()) ∧ outcome.2.facades = n.facades ∧ after = before) ∨
    ∃ f f', n.facades[e.address]? = some f ∧ e.Enters f f' ∧
      let queue := f.outline.queueName e.tag
      ((outcome.1 = some (.ok ()) → f.outline.subscribed.contains queue = true) ∧
          outcome.2.facades = n.facades.set e.address f' ∧ after = before ∨
        f.outline.subscribed.contains queue = false ∧
          outcome.2.facades = n.facades.set e.address (f'.noteSubscribed queue) ∧
          after = before ++ [(queue, .facade f.outline.address)]) := by
  cases e with
  | command address entry =>
    by_cases hf : ∃ f, n.facades[address]? = some (.commands f)
    · obtain ⟨f, hf⟩ := hf
      simp only [enlist, onCommands_of_getElem? hf, Enlistment.address, ne_eq, Option.some_inj]
      rcases f.enroll_noted entry.kind
        (fun registry => registry.register entry.kind entry.handler entry.authorizer) n.exchange
        with ⟨hanswer, hsame, hlist⟩ | ⟨registry, hregister, hrest⟩
      · have hkept := congrArg (fun g => n.facades.set address (.commands g)) hsame
        exact .inl ⟨hanswer, hkept.trans (set_facades_eq_self hf), hlist⟩
      · refine .inr ⟨.commands f, _, hf, .command hregister, hrest.imp ?_ ?_⟩
        · rintro ⟨hknown, hfacade, hlist⟩
          exact ⟨hknown, hfacade ▸ rfl, hlist⟩
        · rintro ⟨hfree, hfacade, hlist⟩
          exact ⟨hfree, hfacade ▸ rfl, hlist⟩
    · simp only [enlist, onCommands_of_not_commands hf]
      refine .inl ⟨?_, trivial, trivial⟩
      intro hgranted
      cases hgranted
  | event address kind handler =>
    by_cases hf : ∃ f, n.facades[address]? = some (.events f)
    · obtain ⟨f, hf⟩ := hf
      simp only [enlist, onEvents_of_getElem? hf, Enlistment.address, ne_eq, Option.some_inj]
      rcases f.enroll_noted kind (fun registry => registry.register kind handler) n.exchange
        with ⟨hanswer, hsame, hlist⟩ | ⟨registry, hregister, hrest⟩
      · have hkept := congrArg (fun g => n.facades.set address (.events g)) hsame
        exact .inl ⟨hanswer, hkept.trans (set_facades_eq_self hf), hlist⟩
      · refine .inr ⟨.events f, _, hf, .event hregister, hrest.imp ?_ ?_⟩
        · rintro ⟨hknown, hfacade, hlist⟩
          exact ⟨hknown, hfacade ▸ rfl, hlist⟩
        · rintro ⟨hfree, hfacade, hlist⟩
          exact ⟨hfree, hfacade ▸ rfl, hlist⟩
    · simp only [enlist, onEvents_of_not_events hf]
      refine .inl ⟨?_, trivial, trivial⟩
      intro hgranted
      cases hgranted

/-- A network without the list that its transport keeps. -/
def forget (n : Network C (Noted τ)) : Network C τ :=
  ⟨Noted.forget n.exchange, n.facades⟩

variable [Transport C τ]

/-- A network goes about a handler that is handed in as it would without the list. -/
theorem enlist_forget (n : Network C (Noted τ)) (e : Enlistment C) :
    enlist e n.forget = ((enlist e n).1, (enlist e n).2.forget) := by
  cases e with
  | command address entry =>
    by_cases hf : ∃ f, n.facades[address]? = some (.commands f)
    · obtain ⟨f, hf⟩ := hf
      have hforgotten : n.forget.facades[address]? = some (.commands f) := hf
      simp only [enlist, onCommands_of_getElem? hf, onCommands_of_getElem? hforgotten]
      simp only [CommandFacade.register, forget, f.enroll_forget]
    · simp only [enlist, onCommands_of_not_commands hf,
        onCommands_of_not_commands (n := n.forget) hf]
  | event address kind handler =>
    by_cases hf : ∃ f, n.facades[address]? = some (.events f)
    · obtain ⟨f, hf⟩ := hf
      have hforgotten : n.forget.facades[address]? = some (.events f) := hf
      simp only [enlist, onEvents_of_getElem? hf, onEvents_of_getElem? hforgotten]
      simp only [EventFacade.register, forget, f.enroll_forget]
    · simp only [enlist, onEvents_of_not_events hf, onEvents_of_not_events (n := n.forget) hf]

/-- Let something happen to a network whose transport keeps no list. -/
def undergo (n : Network C τ) : Offer C τ → Network C τ
  | .enlist e => (enlist e n).2
  | .others x => { n with exchange := x }

end Network

namespace Enrolment

/-- Façades without handlers over a transport that has accepted nothing yet. -/
def start (setups : List Setup) (x : Exchange C τ) : Enrolment C τ :=
  ⟨⟨⟨x.session, ⟨x.transport, []⟩⟩, setups.mapIdx AnyFacade.start⟩, []⟩

/-- The subscriptions that the transport accepted. -/
def accepted (d : Enrolment C τ) : List (String × Subscriber) :=
  d.network.exchange.transport.accepted

variable [Transport C τ]

/-- Let something happen. -/
def step (d : Enrolment C τ) : Offer C τ → Enrolment C τ
  | .enlist e =>
    let outcome := Network.enlist e d.network
    match outcome.1 with
    | some (.ok ()) => ⟨outcome.2, d.granted ++ [e]⟩
    | _ => ⟨outcome.2, d.granted⟩
  | .others x =>
    { d with network := { d.network with exchange :=
      ⟨x.session, { d.network.exchange.transport with inner := x.transport }⟩ } }

/-- Let things happen one after the other. -/
def run (d : Enrolment C τ) (offers : List (Offer C τ)) : Enrolment C τ :=
  offers.foldl step d

/-- A registration is granted if it is answered with success, and not otherwise. -/
theorem granted_enlist (d : Enrolment C τ) (e : Enlistment C) :
    (d.step (.enlist e)).network = (Network.enlist e d.network).2 ∧
      ((d.step (.enlist e)).granted = d.granted ∨
        (Network.enlist e d.network).1 = some (.ok ()) ∧
          (d.step (.enlist e)).granted = d.granted ++ [e]) := by
  simp only [step]
  split
  · rename_i hanswer
    exact ⟨rfl, .inr ⟨hanswer, rfl⟩⟩
  · exact ⟨rfl, .inl rfl⟩

/-- Whatever happens, the list that is kept changes nothing about it. -/
theorem forget_step (d : Enrolment C τ) (offer : Offer C τ) :
    (d.step offer).network.forget = d.network.forget.undergo offer := by
  cases offer with
  | enlist e =>
    rw [(d.granted_enlist e).1, Network.undergo, Network.enlist_forget]
  | others x => rfl

/-- Through any sequence of registrations, a network is what it would be without the list. -/
theorem forget_run (d : Enrolment C τ) (offers : List (Offer C τ)) :
    (d.run offers).network.forget = offers.foldl Network.undergo d.network.forget := by
  induction offers generalizing d with
  | nil => rfl
  | cons offer rest ih =>
    rw [List.foldl_cons, ← d.forget_step offer]
    exact ih (d.step offer)

omit [Transport C τ] in
/-- All façades are coherent. -/
def Sound (d : Enrolment C τ) : Prop :=
  ∀ (address : Nat) (f : AnyFacade C), d.network.facades[address]? = some f →
    f.Coherent address d.accepted d.granted

omit [Transport C τ] in
theorem sound_start (setups : List Setup) (x : Exchange C τ) : (start setups x).Sound := by
  intro address f hf
  rw [start, List.getElem?_mapIdx] at hf
  obtain ⟨setup, -, rfl⟩ := Option.map_eq_some_iff.mp hf
  exact .of_vacant (AnyFacade.vacant_start address setup)

/-- Whatever becomes of a registration, all façades stay coherent. -/
theorem Sound.step {d : Enrolment C τ} (h : d.Sound) (offer : Offer C τ) :
    (d.step offer).Sound := by
  cases offer with
  | others x => exact h
  | enlist e =>
    obtain ⟨hnetwork, hgranted⟩ := d.granted_enlist e
    intro address g hg
    rw [accepted, hnetwork]
    rw [hnetwork] at hg
    rcases Network.enlist_noted d.network e with
      ⟨hrefused, hfacades, hlist⟩ | ⟨f, f', hf, henters, hrest⟩
    · rw [hfacades] at hg
      rw [hlist, hgranted.resolve_right fun hok => hrefused hok.1]
      exact h address g hg
    · have hlt : e.address < d.network.facades.length := (List.getElem?_eq_some_iff.mp hf).1
      have hold := h e.address f hf
      have hentered := hold.enters henters
      have hname : f'.outline.queueName e.tag = f.outline.queueName e.tag := by
        rw [henters.outline_eq, Facade.queueName_takeIn]
      -- Whether it was granted or not, the façade is coherent with what it is then.
      have hgrant : ∀ {f accepted}, AnyFacade.Coherent f address accepted d.granted →
          ((Network.enlist e d.network).1 = some (.ok ()) → e.address = address →
            f.outline.subscribed.contains (f.outline.queueName e.tag) = true) →
          AnyFacade.Coherent f address accepted (d.step (.enlist e)).granted := by
        intro f accepted hcoherent hsubscribed
        rcases hgranted with hsame | ⟨hok, hmore⟩
        · rwa [hsame]
        · rw [hmore]
          exact hcoherent.grant (hsubscribed hok)
      by_cases hhere : e.address = address
      · subst hhere
        rcases hrest with ⟨hknown, hfacades, hlist⟩ | ⟨hfree, hfacades, hlist⟩
        · rw [hfacades, List.getElem?_set_self hlt, Option.some_inj] at hg
          subst hg
          rw [hlist]
          refine hgrant hentered fun hok _ => ?_
          rw [hname, henters.outline_eq, Facade.subscribed_takeIn]
          exact hknown hok
        · rw [hfacades, List.getElem?_set_self hlt, Option.some_inj] at hg
          subst hg
          rw [hlist, hold.located]
          refine hgrant (hentered.noteSubscribed ?_) fun _ _ => ?_
          · rwa [henters.outline_eq, Facade.subscribed_takeIn]
          · rw [AnyFacade.outline_noteSubscribed]
            exact (Facade.contains_noteSubscribed ..).mpr (.inl hname)
      · rcases hrest with ⟨-, hfacades, hlist⟩ | ⟨-, hfacades, hlist⟩
        · rw [hfacades, List.getElem?_set_ne hhere] at hg
          rw [hlist]
          exact hgrant (h address g hg) fun _ hsame => absurd hsame hhere
        · rw [hfacades, List.getElem?_set_ne hhere] at hg
          rw [hlist, hold.located]
          exact hgrant ((h address g hg).elsewhere hhere _) fun _ hsame => absurd hsame hhere

/-- All façades stay coherent through any sequence of registrations. -/
theorem Sound.run {d : Enrolment C τ} (h : d.Sound) (offers : List (Offer C τ)) :
    (d.run offers).Sound := by
  induction offers generalizing d with
  | nil => exact h
  | cons offer rest ih => exact ih (h.step offer)

/-- After any sequence of registrations, some of which may have been refused by the registry or by
the transport: a tag is routed exactly if there are handlers for it, and then to the payload type
that all of them take; a message with such a tag is handed over to them, and no error that comes of
it is the façade's own; and the queue of every type whose registration was granted is subscribed to,
by a single subscription. -/
theorem run_coherent (setups : List Setup) (x : Exchange C τ) (offers : List (Offer C τ))
    {address : Nat} {f : AnyFacade C}
    (hf : ((start setups x).run offers).network.facades[address]? = some f) :
    let d := (start setups x).run offers
    (∀ tag kind, f.outline.routes.find? tag = some kind ↔
      f.roster tag ≠ [] ∧ ∀ e ∈ f.roster tag, e.kind = kind) ∧
    (∀ tag kind, f.outline.routes.find? tag = some kind → ∀ m : Message, m.typeInfo = some tag →
      ∀ ctx s, f.HandsOver kind ctx m s ∧
        ∀ e, (f.receive ctx m s).1 = .error e → f.Blames tag ctx m e) ∧
    ∀ e ∈ d.granted, e.address = address →
      f.outline.subscribed.contains (f.outline.queueName e.tag) = true ∧
        timesAccepted d.accepted (f.outline.queueName e.tag) address = 1 := by
  intro d
  have hcoherent : f.Coherent address d.accepted d.granted :=
    (sound_start setups x).run offers address f hf
  refine ⟨fun tag kind => hcoherent.find?_routes_eq_some_iff, ?_, fun e he haddress => ?_⟩
  · intro tag kind hroute m htag ctx s
    obtain ⟨rfl, hhandsOver⟩ := hcoherent.handsOver hroute htag ctx s
    exact ⟨hhandsOver, fun e => hhandsOver.blames⟩
  · have hsubscribed := hcoherent.granted e he haddress
    exact ⟨hsubscribed, by rw [hcoherent.accepted, if_pos hsubscribed]⟩

end Enrolment

/-! ## A refused subscription -/

namespace Sample

/-- Watches paid invoices. -/
def paidWatcher : EventHandler (nameless.Value .invoicePaid) :=
  ⟨1, "paid", .plain fun _ _ => .ok ()⟩

/-- Watches what pretends to be paid invoices. -/
def fakeWatcher : EventHandler (nameless.Value .fakeInvoicePaid) :=
  ⟨2, "fake", .plain fun _ _ => .ok ()⟩

/-- The subscription for the first handler fails, the registry refuses the second, an impostor, and
the third, for another type on the same queue, is granted. -/
def mixedOffers : List (Offer nameless (Rehearsed Broker)) :=
  [.enlist (.event 0 .invoicePaid paidWatcher), .enlist (.event 0 .fakeInvoicePaid fakeWatcher),
    .enlist (.event 0 .shape ⟨3, "shape", .plain fun _ _ => .ok ()⟩)]

/-- A broker that refuses the first subscription, in a session in which nothing has happened. -/
def refusingOnce : Exchange nameless (Rehearsed Broker) :=
  ⟨.start ⟨[], []⟩ 0, (Rehearsed.start (.start 0 5)).planSubscribe .closed⟩

end Sample

/-- The type whose subscription was refused keeps its route and its handler, which takes the
messages of the shared queue once another type has subscribed to it. -/
theorem Enrolment.run_coherent_refused :
    let d := (start [.events "app" (.shared "app" "all")] Sample.refusingOnce).run
      Sample.mixedOffers
    d.granted.length = 1 ∧ ∃ f, d.network.facades[0]? = some f ∧
      (f.roster "events.InvoicePaidEvent").length = 1 ∧
      (∀ m : Message, m.typeInfo = some "events.InvoicePaidEvent" →
        ∀ ctx s, f.HandsOver .invoicePaid ctx m s) ∧
      timesAccepted d.accepted "app-all" 0 = 1 := by
  intro d
  obtain ⟨f, hf, hroute, hroster, hname⟩ : ∃ f, d.network.facades[0]? = some f ∧
      f.outline.routes.find? "events.InvoicePaidEvent" = some .invoicePaid ∧
      (f.roster "events.InvoicePaidEvent").length = 1 ∧
      f.outline.queueName (Sample.nameless.tag .shape) = "app-all" := by
    refine ⟨_, rfl, ?_, ?_, ?_⟩ <;> decide +kernel
  have hgranted : d.granted.length = 1 := by decide +kernel
  obtain ⟨e, he, haddress, hkind⟩ : ∃ e ∈ d.granted, e.address = 0 ∧ e.kind = .shape :=
    ⟨_, List.mem_singleton_self _, rfl, rfl⟩
  obtain ⟨-, hreads, hsubscribed⟩ := run_coherent _ Sample.refusingOnce Sample.mixedOffers hf
  refine ⟨hgranted, f, hf, hroster, fun m htag ctx s => (hreads _ _ hroute m htag ctx s).1, ?_⟩
  have honce := (hsubscribed e he haddress).2
  rwa [Enlistment.tag, hkind, hname] at honce

end Switchboard
