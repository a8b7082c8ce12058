import Switchboard.Network
import Switchboard.Proofs.Facade.Enrolment
import Switchboard.Proofs.Facade.Installation

/-!
# Handlers in a network

Handlers are taken in at the façades of a network, each at the façade of an address.  A façade has
for each tag the handlers that were taken in there, in their order; it routes the tag to their
payload type, and it subscribed to the queues of their tags.

Main results:

- Definition {lit}`Network.enlist`: takes a handler in.
- Theorem {lit}`Network.enlist_of_ok`: what changes when a handler is taken in.
- Theorem {lit}`AnyFacade.Holds.joins`: a façade holds what was taken in, and one handler more.
-/

namespace Switchboard

variable {C : Catalogue} {ρ τ : Type}

/-! ## Façades of either sort -/

/-- A façade whose registry is left open. -/
def Facade.outline (f : Facade C ρ) : Facade C Unit :=
  ⟨f.address, (), f.routes, f.naming, f.subscribed⟩

theorem Facade.outline_takeIn (f : Facade C ρ) (kind : C.Kind) (registry : ρ) :
    (f.takeIn kind registry).outline = f.outline.takeIn kind () := by
  unfold takeIn addRoute
  cases h : f.routes.contains (C.tag kind) <;> simp [outline, h]

/-- A façade, whatever it is for, with its registry left open. -/
def AnyFacade.outline : AnyFacade C → Facade C Unit
  | commands f => f.outline
  | events f => f.outline

/-- What a façade makes of a message. -/
def AnyFacade.receive : AnyFacade C → Context → Message → Activity C (Except DispatchError Unit)
  | commands f => f.receive
  | events f => f.receive

/-- What the subscriber of an address makes of a message. -/
theorem Network.reception_of_getElem? {facades : List (AnyFacade C)} {address : Nat}
    {f : AnyFacade C} (h : facades[address]? = some f) (queue : String) (ctx : Context)
    (m : Message) (s : Session C) :
    reception facades (.facade address) queue ctx m s =
      (.returned (f.receive ctx m s).1, (f.receive ctx m s).2) := by
  simp only [reception, h]
  cases f <;> rfl

/-! ## Taking handlers in -/

/-- A handler that is to be taken in at the façade of an address. -/
inductive Enlistment (C : Catalogue) where
  | command (address : Nat) (entry : CommandEntry C)
  | event (address : Nat) (kind : C.Kind) (handler : EventHandler (C.Value kind))

namespace Enlistment

/-- The address of the façade. -/
def address : Enlistment C → Nat
  | command address _ => address
  | event address _ _ => address

/-- The payload type that the handler takes. -/
def kind : Enlistment C → C.Kind
  | command _ entry => entry.kind
  | event _ kind _ => kind

/-- The tag of that payload type. -/
def tag (e : Enlistment C) : String :=
  C.tag e.kind

/-- How a façade is changed by a handler that its registry takes in. -/
inductive Joins : Enlistment C → AnyFacade C → AnyFacade C → Prop
  | command {address : Nat} {entry : CommandEntry C} {f : CommandFacade C}
      {registry : CommandRegistry C}
      (h : f.registry.register entry.kind entry.handler entry.authorizer = .ok registry) :
      Joins (.command address entry) (.commands f) (.commands
        ((f.takeIn entry.kind registry).noteSubscribed (f.queueName (C.tag entry.kind))))
  | event {address : Nat} {kind : C.Kind} {handler : EventHandler (C.Value kind)}
      {f : EventFacade C} {registry : EventRegistry C}
      (h : f.registry.register kind handler = .ok registry) :
      Joins (.event address kind handler) (.events f) (.events
        ((f.takeIn kind registry).noteSubscribed (f.queueName (C.tag kind))))

/-- Whatever the registry is, the tag is routed then and its queue subscribed to. -/
theorem Joins.outline_eq {e : Enlistment C} {f f' : AnyFacade C} (h : e.Joins f f') :
    f'.outline =
      (f.outline.takeIn e.kind ()).noteSubscribed (f.outline.queueName e.tag) := by
  cases h <;> exact congrArg (fun f => Facade.noteSubscribed f _) (Facade.outline_takeIn ..)

end Enlistment

/-- Take a handler in, at the façade of its address, if there is one for handlers of its sort. -/
def Network.enlist [Transport C τ] :
    Enlistment C → StateM (Network C τ) (Option (Except DispatchError Unit))
  | .command address entry =>
    onCommands address fun f => f.register entry.kind entry.handler entry.authorizer
  | .event address kind handler => onEvents address fun f => f.register kind handler

/-! ## What changes -/

/-- A broker with a consumer for a queue of a façade, which has one if it subscribed to the queue
already. -/
def Facade.staff (f : Facade C ρ) (queue : String) (b : Broker) : Broker :=
  if f.subscribed.contains queue then b
  else { b with consumers := b.consumers ++ [.start queue (.facade f.address) b.now b.waitTime] }

@[simp]
theorem Facade.backlog_staff (f : Facade C ρ) (queue : String) (b : Broker) :
    (f.staff queue b).backlog = b.backlog := by
  unfold staff
  split <;> rfl

@[simp]
theorem Facade.now_staff (f : Facade C ρ) (queue : String) (b : Broker) :
    (f.staff queue b).now = b.now := by
  unfold staff
  split <;> rfl

@[simp]
theorem Facade.receivers_staff (f : Facade C ρ) (queue : String) (b : Broker) :
    (f.staff queue b).receivers = b.receivers := by
  unfold staff
  split <;> rfl

/-- A queue that was subscribed to is noted. -/
theorem Facade.noteSubscribed_of_contains {f : Facade C ρ} {queue : String}
    (h : f.subscribed.contains queue = true) : f.noteSubscribed queue = f := by
  obtain ⟨value, hvalue⟩ := Option.isSome_iff_exists.mp h
  rw [noteSubscribed, Dictionary.insert_eq_self hvalue]

/-- With open queues, a handler is taken in if the registry takes it in, and then there is a
consumer for its queue. -/
theorem Facade.enroll_of_ok {f : Facade C ρ} {kind : C.Kind}
    {register : ρ → Except DispatchError ρ} {x : Exchange C Broker}
    (hopen : x.transport.backlog.closed = false)
    (h : (f.enroll kind register x).1.1 = .ok ()) :
    ∃ registry log, register f.registry = .ok registry ∧ f.enroll kind register x =
      ((.ok (), (f.takeIn kind registry).noteSubscribed (f.queueName (C.tag kind))),
        ⟨{ x.session with log }, f.staff (f.queueName (C.tag kind)) x.transport⟩) := by
  cases hregister : register f.registry with
  | error e =>
    rw [enroll_of_error hregister] at h
    cases h
  | ok registry =>
    unfold staff
    cases hsubscribed : f.subscribed.contains (f.queueName (C.tag kind)) with
    | true =>
      refine ⟨registry, x.session.log, rfl, ?_⟩
      rw [enroll_of_subscribed hregister hsubscribed,
        noteSubscribed_of_contains (by rwa [subscribed_takeIn])]
      rfl
    | false =>
      obtain ⟨log, haccepted⟩ := Broker.subscribe_of_open hopen (f.queueName (C.tag kind))
        (.facade f.address) x.session
      obtain ⟨log', henrolled⟩ := enroll_of_accepted register hregister hsubscribed haccepted
      exact ⟨registry, log', rfl, henrolled⟩

/-- What changes when a handler is taken in: its façade, and the broker, which has a consumer for
its queue. -/
theorem Network.enlist_of_ok {n : Network C Broker} {e : Enlistment C}
    (hopen : n.exchange.transport.backlog.closed = false)
    (h : (enlist e n).1 = some (.ok ())) :
    ∃ f f' log, n.facades[e.address]? = some f ∧ e.Joins f f' ∧ (enlist e n).2 =
      ⟨⟨{ n.exchange.session with log },
        f.outline.staff (f.outline.queueName e.tag) n.exchange.transport⟩,
          n.facades.set e.address f'⟩ := by
  cases e with
  | command address entry =>
    simp only [enlist, onCommands, Enlistment.address] at h ⊢
    split at h
    · rename_i f hf
      have hok : (f.register entry.kind entry.handler entry.authorizer n.exchange).1.1 = .ok () :=
        Option.some_inj.mp h
      obtain ⟨registry, log, hregister, henrolled⟩ := Facade.enroll_of_ok hopen hok
      refine ⟨.commands f, _, log, hf, .command hregister, ?_⟩
      simp only [CommandFacade.register, henrolled]
      rfl
    · cases h
  | event address kind handler =>
    simp only [enlist, onEvents, Enlistment.address] at h ⊢
    split at h
    · rename_i f hf
      have hok : (f.register kind handler n.exchange).1.1 = .ok () := Option.some_inj.mp h
      obtain ⟨registry, log, hregister, henrolled⟩ := Facade.enroll_of_ok hopen hok
      refine ⟨.events f, _, log, hf, .event hregister, ?_⟩
      simp only [EventFacade.register, henrolled]
      rfl
    · cases h

/-! ## The handlers of a façade -/

/-- The handlers that a façade has for a tag, in the order in which they were taken in. -/
def AnyFacade.roster (f : AnyFacade C) (tag : String) : List (Enlistment C) :=
  match f with
  | commands f => (f.registry.entries.find? tag).toList.map (.command f.address)
  | events f =>
    match f.registry.slots.find? tag with
    | none => []
    | some slot => slot.handlers.map (.event f.address slot.kind)

/-- A façade without handlers at an address. -/
structure AnyFacade.Vacant (f : AnyFacade C) (address : Nat) : Prop where
  located : f.outline.address = address
  roster : ∀ tag, f.roster tag = []
  routes : f.outline.routes = ∅
  subscribed : f.outline.subscribed = ∅

/-- A façade at an address holds, of the handlers that were taken in, those of its address. -/
structure AnyFacade.Holds (f : AnyFacade C) (address : Nat) (known : List (Enlistment C)) :
    Prop where
  located : f.outline.address = address
  roster : ∀ tag, f.roster tag = known.filter fun e => e.address = address ∧ e.tag = tag
  /-- A tag is routed to the payload type of its handlers. -/
  routes : ∀ tag, f.outline.routes.find? tag = (f.roster tag).head?.map Enlistment.kind
  subscribed : ∀ queue, f.outline.subscribed.contains queue = true ↔
    ∃ e ∈ known, e.address = address ∧ f.outline.queueName e.tag = queue

/-- A handler that is taken in comes last. -/
theorem Enlistment.Joins.roster_eq {e : Enlistment C} {f f' : AnyFacade C} (h : e.Joins f f')
    (haddress : f.outline.address = e.address) (tag : String) :
    f'.roster tag = f.roster tag ++ if e.tag = tag then [e] else [] := by
  cases h with
  | @command address entry f registry hregister =>
    obtain ⟨hnew, rfl⟩ := CommandRegistry.register_eq_ok_iff.mp hregister
    change f.address = address at haddress
    have htag : (Enlistment.command address entry).tag = C.tag entry.kind := rfl
    simp only [AnyFacade.roster, Facade.noteSubscribed, Facade.registry_takeIn,
      Facade.address_takeIn, Dictionary.find?_insert, htag, haddress]
    by_cases hsame : tag = C.tag entry.kind
    · subst hsame
      simp [hnew]
    · simp [hsame, Ne.symm hsame]
  | @event address kind handler f registry hregister =>
    obtain ⟨before, hslot, rfl⟩ := EventRegistry.register_eq_ok_iff.mp hregister
    change f.address = address at haddress
    have htag : (Enlistment.event address kind handler).tag = C.tag kind := rfl
    simp only [AnyFacade.roster, Facade.noteSubscribed, Facade.registry_takeIn,
      Facade.address_takeIn, Dictionary.find?_insert, htag, haddress]
    by_cases hsame : tag = C.tag kind
    · subst hsame
      rcases hslot with ⟨hnone, rfl⟩ | hsome
      · simp [hnone]
      · simp [hsome]
    · simp [hsame, Ne.symm hsame]

namespace Facade

variable (f : Facade C ρ) (kind : C.Kind) (registry : ρ)

/-- A route is added behind those that there are. -/
theorem find?_routes_takeIn (tag : String) :
    (f.takeIn kind registry).routes.find? tag =
      (f.routes.find? tag).or (if C.tag kind = tag then some kind else none) := by
  unfold takeIn addRoute Dictionary.contains
  cases hroute : f.routes.find? (C.tag kind) with
  | some routed =>
    simp only [Option.isSome_some, if_true]
    split
    · subst_vars
      rw [hroute]
      rfl
    · rw [Option.or_none]
  | none =>
    simp only [Option.isSome_none, Bool.false_eq_true, if_false]
    rw [Dictionary.find?_insert]
    by_cases hsame : tag = C.tag kind
    · subst hsame
      simp [hroute]
    · simp [hsame, Ne.symm hsame]

theorem contains_noteSubscribed (queue other : String) :
    (f.noteSubscribed queue).subscribed.contains other = true ↔
      other = queue ∨ f.subscribed.contains other = true := by
  unfold noteSubscribed Dictionary.contains
  rw [Dictionary.find?_insert]
  by_cases hsame : other = queue <;> simp [hsame]

end Facade

namespace AnyFacade.Holds

variable {f f' : AnyFacade C} {address : Nat} {known : List (Enlistment C)} {e : Enlistment C}

theorem of_vacant (h : f.Vacant address) : f.Holds address [] where
  located := h.located
  roster tag := h.roster tag
  routes tag := by rw [h.routes, h.roster]; rfl
  subscribed queue := by
    rw [h.subscribed]
    exact ⟨nofun, nofun⟩

/-- A façade that takes a handler in holds it too. -/
theorem joins (h : f.Holds e.address known) (hjoins : e.Joins f f') :
    f'.Holds e.address (known ++ [e]) where
  located := by
    rw [hjoins.outline_eq]
    exact (Facade.address_takeIn ..).trans h.located
  roster tag := by
    rw [hjoins.roster_eq h.located, h.roster, List.filter_append]
    by_cases htag : e.tag = tag <;> simp [htag]
  routes tag := by
    rw [hjoins.outline_eq, hjoins.roster_eq h.located, List.head?_append, Option.map_or, ← h.routes]
    refine (Facade.find?_routes_takeIn ..).trans (congrArg _ ?_)
    change (if e.tag = tag then some e.kind else none) = _
    split <;> rfl
  subscribed queue := by
    rw [hjoins.outline_eq, Facade.contains_noteSubscribed, Facade.subscribed_takeIn, h.subscribed]
    have hname : ∀ tag, ((f.outline.takeIn e.kind ()).noteSubscribed
        (f.outline.queueName e.tag)).queueName tag = f.outline.queueName tag :=
      Facade.queueName_takeIn f.outline e.kind ()
    simp only [hname, List.mem_append, List.mem_singleton, or_and_right, exists_or,
      exists_eq_left, true_and]
    rw [or_comm, eq_comm]

/-- A façade at another address holds what it held. -/
theorem elsewhere (h : f.Holds address known) (hne : e.address ≠ address) :
    f.Holds address (known ++ [e]) where
  located := h.located
  roster tag := by simp [h.roster, hne]
  routes := h.routes
  subscribed queue := by simp [h.subscribed, hne, or_and_right, exists_or]

end AnyFacade.Holds
end Switchboard
