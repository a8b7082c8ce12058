import Switchboard.Proofs.Facade.Provenance
import Switchboard.Proofs.Network.Reception
import Switchboard.Proofs.Queue.Twins

/-!
# The receiving side, side by side

A message is handed to the same façades twice, under other identifiers: its id is another one, and
so are its receipt and the correlation id that is drawn where the message names no chain of work.
The id and the receipt never reach user code.  The drawn correlation id does, so all goes on alike
if the message names its chain of work, or if the user code cannot tell one drawn id from another.

Main results:

- Definition {lit}`AnyFacade.Confuses`: the user code of a façade cannot tell two contexts apart.
- Theorem {lit}`Network.follows_reception`: façades go on alike with twins.
- Theorem {lit}`Consumer.turn_twins`: so do consumers at queues that are twins.
- Theorem {lit}`Consumer.shows_turn`: whatever calls they make are shown the context of the system.
-/

namespace Switchboard

variable {C : Catalogue} {mask : Context → Context} {m m' : Message} {c c' : Context}

/-! ## Façades -/

/-- The user code that was registered at a façade cannot tell two contexts apart. -/
def AnyFacade.Confuses (f : AnyFacade C) (c c' : Context) : Prop :=
  match f with
  | commands f => ∀ tag entry, f.registry.entries.find? tag = some entry → entry.Confuses c c'
  | events f => ∀ tag slot, f.registry.slots.find? tag = some slot →
    ∀ handler ∈ slot.handlers,
      handler.Confuses (c.withHandler handler.name) (c'.withHandler handler.name)

theorem AnyFacade.confuses_self (f : AnyFacade C) (c : Context) : f.Confuses c c := by
  cases f with
  | commands f => exact fun _ entry _ => entry.confuses_self c
  | events f => exact fun _ _ _ handler _ => handler.confuses_self _

/-- All that façades do is alike in two contexts: a mask makes them equal, and the user code that
was registered cannot tell them apart. -/
structure Network.Ignores (mask : Context → Context) (facades : List (AnyFacade C))
    (c c' : Context) : Prop where
  context : mask c = mask c'
  named : ∀ name, mask (c.withHandler name) = mask (c'.withHandler name)
  code : ∀ f ∈ facades, f.Confuses c c'

theorem Network.ignores_self (mask : Context → Context) (facades : List (AnyFacade C))
    (c : Context) : Ignores mask facades c c :=
  ⟨rfl, fun _ => rfl, fun f _ => f.confuses_self c⟩

/-- Twins are routed and read alike. -/
theorem Facade.follows_route {ρ : Type} {f : Facade C ρ}
    {run : ρ → Context → Message → (kind : C.Kind) → C.Value kind →
      Activity C (Except DispatchError Unit)}
    (hm : m.Twins m') (hrun : ∀ kind payload, Session.Follows mask
      (run f.registry c.asSystem m kind payload) (run f.registry c'.asSystem m' kind payload)) :
    Session.Follows mask (f.route run c m) (f.route run c' m') := by
  unfold route
  rw [← hm.typeInfo_eq]
  split
  · exact Session.follows_bind Session.follows_report fun _ => Session.follows_pure _
  · split
    · exact Session.follows_bind Session.follows_report fun _ => Session.follows_pure _
    · rename_i kind hkind
      rw [← hm.decode_eq kind]
      split
      · exact Session.follows_pure _
      · exact hrun kind _

/-- A façade goes on alike with twins, in contexts that it ignores. -/
theorem AnyFacade.follows_receive {f : AnyFacade C} {facades : List (AnyFacade C)}
    (hf : f ∈ facades) (hm : m.Twins m')
    (hignores : Network.Ignores mask facades c.asSystem c'.asSystem) :
    Session.Follows mask (f.receive c m) (f.receive c' m') := by
  have hcode := hignores.code f hf
  cases f with
  | commands f =>
    refine Facade.follows_route (f := f) hm fun kind command => ?_
    rw [← hm.organisation_eq]
    exact CommandRegistry.follows_execute hcode hignores.context hignores.named _ command
  | events f =>
    exact Facade.follows_route (f := f) hm fun kind event =>
      EventRegistry.follows_dispatch hignores.named hcode event

/-- The calls on the way of an event are shown its context. -/
theorem EventRegistry.shows_dispatch (r : EventRegistry C) (ctx : Context) {kind : C.Kind}
    (event : C.Value kind) (organisation : Option Uuid) :
    Session.Makes (Call.Shows · ctx organisation) (r.dispatch ctx event) := by
  unfold dispatch
  split
  · exact Session.makes_pure _
  · rename_i slot _
    split
    · refine Session.makes_bind (fun s => ?_) fun failures => ?_
      · obtain ⟨new, hcalls, hserves, -⟩ := calls_runFrom ctx _ 0 slot.handlers s
        refine ⟨new, hcalls, fun call hcall => ?_⟩
        obtain ⟨i, hi, rfl⟩ := List.mem_iff_getElem.mp hcall
        exact (hserves.get (hserves.length_eq ▸ hi) hi).shows organisation
      · split <;> exact Session.makes_pure _
    · exact Session.makes_pure _

/-- Whatever message a façade receives, the calls on its way are shown the context of the system and
the organisation that the message names. -/
theorem AnyFacade.shows_receive (f : AnyFacade C) (ctx : Context) (m : Message) :
    Session.Makes (Call.Shows · ctx.asSystem m.organisation) (f.receive ctx m) := by
  cases f with
  | commands f =>
    intro s
    obtain ⟨new, hcalls, hshows, -⟩ := f.shows_receive ctx m s
    exact ⟨new, hcalls, hshows⟩
  | events f =>
    change Session.Makes _ (f.route _ ctx m)
    unfold Facade.route
    split
    · exact Session.makes_bind (Session.makes_report _ _ _) fun _ => Session.makes_pure _
    · split
      · exact Session.makes_bind (Session.makes_report _ _ _) fun _ => Session.makes_pure _
      · split
        · exact Session.makes_pure _
        · exact f.registry.shows_dispatch ctx.asSystem _ _

/-- A call that is shown the context of the system: who is behind it, it is not told. -/
def Call.BySystem (call : Call C) : Prop :=
  ∃ id organisation, call.Shows (.system id) organisation

/-! ## Generated correlation ids -/

namespace Network

/-- It does not matter which correlation id is drawn for a message: the message names its chain of
work itself, or the façades ignore it. -/
def Indifferent (mask : Context → Context) (facades : List (AnyFacade C)) (m : Message) : Prop :=
  (m.attributeValue Message.correlationKey).isSome = true ∨
    ∀ i j, Ignores mask facades (.system i) (.system j)

variable {facades : List (AnyFacade C)} {address : Nat}

/-- Then twins are received in contexts that the façades ignore, whatever is drawn for them. -/
theorem Indifferent.ignores (h : Indifferent mask facades m) (hm : m.Twins m') (i j : String) :
    Ignores mask facades (m.receivingContext i).asSystem (m'.receivingContext j).asSystem := by
  rw [Message.asSystem_receivingContext, Message.asSystem_receivingContext,
    ← hm.attributeValue_eq]
  rcases h with hnamed | hignores
  · obtain ⟨id, hid⟩ := Option.isSome_iff_exists.mp hnamed
    rw [hid]
    exact ignores_self mask facades _
  · exact hignores _ _

/-- The façade of an address goes on alike with twins, in contexts that it ignores. -/
theorem follows_reception (address : Nat) (queue : String) (hm : m.Twins m')
    (hignores : Ignores mask facades c.asSystem c'.asSystem) :
    Session.Follows mask (reception facades (.facade address) queue c m)
      (reception facades (.facade address) queue c' m') := by
  cases hf : facades[address]? with
  | none =>
    simp only [reception, hf]
    exact Session.follows_pure _
  | some f =>
    intro s t hst
    obtain ⟨hanswer, halike⟩ :=
      f.follows_receive (List.mem_of_getElem? hf) hm hignores s t hst
    rw [reception_of_getElem? hf, reception_of_getElem? hf]
    exact ⟨congrArg Outcome.returned hanswer, halike⟩

/-- The calls that are made at the façade of an address are shown the context of the system. -/
theorem shows_reception (facades : List (AnyFacade C)) (address : Nat) (queue : String)
    (ctx : Context) (m : Message) :
    Session.Makes (Call.Shows · ctx.asSystem m.organisation)
      (reception facades (.facade address) queue ctx m) := by
  cases hf : facades[address]? with
  | none =>
    simp only [reception, hf]
    exact Session.makes_pure _
  | some f =>
    intro s
    rw [reception_of_getElem? hf]
    exact f.shows_receive ctx m s

end Network

/-! ## Consumers -/

namespace Consumer

variable {facades : List (AnyFacade C)} {consumer : Consumer} {address : Nat} {d d' : Delivery}
  {b b' : Backlog} {s s' : Session C}

/-- A consumer that serves a façade goes on alike with twins: it handles and deletes both, or it
leaves both where they are. -/
theorem handle_twins (hserves : consumer.subscriber = .facade address)
    (hd : d.Twins (Network.Indifferent mask facades) d') (hs : s.Alike mask s')
    (b b' : Backlog) :
    let handled := consumer.handle (Network.reception facades) d b s
    let handled' := consumer.handle (Network.reception facades) d' b' s'
    handled.2.Alike mask handled'.2 ∧
      ((handled.1 = (consumer.countHandled, b.delete consumer.queue d.receipt) ∧
          handled'.1 = (consumer.countHandled, b'.delete consumer.queue d'.receipt)) ∨
        (handled.1 = (consumer.countFailed, b) ∧ handled'.1 = (consumer.countFailed, b'))) := by
  obtain ⟨houtcome, halike⟩ := Network.follows_reception address consumer.queue hd.message
    (hd.admits.ignores hd.message (Uuid.random s.nextId).text (Uuid.random s'.nextId).text)
    { s with nextId := s.nextId + 1 } { s' with nextId := s'.nextId + 1 } ⟨hs.store, hs.calls⟩
  simp only [handle_eq, hserves, ← houtcome, ← hd.message.typeInfo_eq]
  split
  · exact ⟨halike, .inl ⟨rfl, rfl⟩⟩
  · exact ⟨⟨halike.store, halike.calls⟩, .inr ⟨rfl, rfl⟩⟩

/-- So does its turn at queues that are twins, if the receipts that are drawn are new there. -/
theorem turn_twins (hserves : consumer.subscriber = .facade address) (now : Instant)
    (wait : Duration) (hb : b.Twins (Network.Indifferent mask facades) b')
    (hs : s.Alike mask s')
    (hnew : b.Lacks consumer.queue (Uuid.random s.nextId).text)
    (hnew' : b'.Lacks consumer.queue (Uuid.random s'.nextId).text) :
    let turn := consumer.turn (Network.reception facades) now wait b s
    let turn' := consumer.turn (Network.reception facades) now wait b' s'
    turn.2.Alike mask turn'.2 ∧ turn.1.consumer = turn'.1.consumer ∧
      turn.1.backlog.Twins (Network.Indifferent mask facades) turn'.1.backlog := by
  cases hrunning : consumer.running with
  | false =>
    simp only [turn, hrunning]
    exact ⟨hs, rfl, hb⟩
  | true =>
    simp only [turn_of_running _ hrunning]
    have htwins := hb.poll now consumer.deadline hnew hnew'
    generalize b.poll now consumer.deadline consumer.queue (Uuid.random s.nextId).text = poll
      at htwins ⊢
    generalize b'.poll now consumer.deadline consumer.queue (Uuid.random s'.nextId).text = poll'
      at htwins ⊢
    cases htwins with
    | closed => exact ⟨⟨hs.store, hs.calls⟩, rfl, hb⟩
    | timedOut => exact ⟨⟨hs.store, hs.calls⟩, rfl, hb⟩
    | blocked => exact ⟨⟨hs.store, hs.calls⟩, rfl, hb⟩
    | @delivered d d' left left' hd hleft hdeleted =>
      have hdrawn : Session.Alike mask { s with nextId := s.nextId + 1 }
        { s' with nextId := s'.nextId + 1 } := ⟨hs.store, hs.calls⟩
      obtain ⟨halike, hboth⟩ := handle_twins hserves hd hdrawn left left'
      refine ⟨halike, ?_⟩
      rcases hboth with ⟨h, h'⟩ | ⟨h, h'⟩
      · simp only [h, h']
        exact ⟨trivial, hdeleted⟩
      · simp only [h, h']
        exact ⟨trivial, hleft⟩

/-- Whatever the turn of a consumer that serves a façade comes to, the calls that it makes are shown
the context of the system. -/
theorem shows_turn (hserves : consumer.subscriber = .facade address)
    (facades : List (AnyFacade C)) (now : Instant) (wait : Duration) (b : Backlog) :
    Session.Makes Call.BySystem (consumer.turn (Network.reception facades) now wait b) := by
  have hhandle : ∀ d b, Session.Makes Call.BySystem
      (consumer.handle (Network.reception facades) d b) := by
    intro d b
    refine Session.makes_bind Session.makes_draw fun id => Session.makes_bind ?_ fun outcome => ?_
    · rw [hserves]
      refine (Network.shows_reception facades address consumer.queue (d.message.receivingContext id)
        d.message).imp fun call hshows => ?_
      rw [Message.asSystem_receivingContext] at hshows
      exact ⟨_, _, hshows⟩
    · split
      · exact Session.makes_pure _
      · exact Session.makes_bind (Session.makes_report _ _ _) fun _ => Session.makes_pure _
  unfold turn
  split
  · exact Session.makes_pure _
  · refine Session.makes_bind Session.makes_draw fun receipt => ?_
    split
    · exact Session.makes_bind (Session.makes_report _ _ _) fun _ => Session.makes_pure _
    · exact Session.makes_pure _
    · exact Session.makes_pure _
    · exact Session.makes_bind (hhandle _ _) fun _ => Session.makes_pure _

end Consumer
end Switchboard
