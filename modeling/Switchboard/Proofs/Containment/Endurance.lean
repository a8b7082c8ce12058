import Switchboard.Proofs.Containment.Service

/-!
# Consumers that go on

As long as the queues of a broker are open, all its consumers are at work, whatever their
subscribers do: a failure is counted, a panic counts as a failure, and the next turn is taken.  That
is kept by every operation, so it holds at any point of any run.

Main results:

- Definition {lit}`Broker.Untiring`: if the queues are open, all consumers are at work.
- Theorem {lit}`Broker.Untiring.round`: a round keeps them at work.
- Theorem {lit}`Network.untiring_conduct`: so does whatever is done with a network.
- Theorem {lit}`Service.untiring_run`: so do all runs.
-/

namespace Switchboard

variable {C : Catalogue} {ρ σ τ α β γ : Type}

/-! ## What is kept -/

/-- An activity ends with values of one sort only. -/
def Yields (P : α → Prop) (activity : Activity C α) : Prop :=
  ∀ s, P (activity s).1

theorem yields_pure {P : α → Prop} {value : α} (h : P value) : Yields (C := C) P (pure value) :=
  fun _ => h

theorem yields_bind {P : α → Prop} {Q : β → Prop} {first : Activity C α} {next : α → Activity C β}
    (hfirst : Yields P first) (hnext : ∀ value, P value → Yields Q (next value)) :
    Yields Q (first >>= next) :=
  fun s => hnext (first s).1 (hfirst s) (first s).2

/-- A computation keeps a property of its state. -/
def Preserves (P : σ → Prop) (a : StateM σ α) : Prop :=
  ∀ s, P s → P (a s).2

section
variable {P : σ → Prop}

theorem preserves_pure (value : α) : Preserves P (pure value) := fun _ h => h

theorem preserves_bind {first : StateM σ α} {next : α → StateM σ β} (hfirst : Preserves P first)
    (hnext : ∀ value, Preserves P (next value)) : Preserves P (first >>= next) :=
  fun s h => hnext (first s).1 (first s).2 (hfirst s h)

theorem preserves_map {a : StateM σ α} (h : Preserves P a) (tell : α → β) :
    Preserves P (tell <$> a) :=
  h

end

/-! ## Brokers -/

/-- A turn over open queues keeps a consumer at work. -/
theorem Consumer.running_turn_of_open (receive : Reception C) (now : Instant) (wait : Duration)
    {backlog : Backlog} (hopen : backlog.closed = false) {c : Consumer}
    (hrunning : c.running = true) (s : Session C) :
    (c.turn receive now wait backlog s).1.consumer.running = true := by
  have hends := c.running_turn receive now wait backlog s hrunning
  rw [hopen, iff_false_right Bool.false_ne_true] at hends
  exact eq_true_of_ne_false hends

namespace Broker

/-- If the queues are open, all consumers are at work. -/
def Untiring (b : Broker) : Prop :=
  b.backlog.closed = false → ∀ c ∈ b.consumers, c.running = true

theorem untiring_of_closed {b : Broker} (hclosed : b.backlog.closed = true) : b.Untiring := by
  intro hopen
  rw [hclosed] at hopen
  cases hopen

/-- Turns over open queues keep consumers at work. -/
theorem running_takeTurns (receive : Reception C) (now : Instant) (wait : Duration)
    {backlog : Backlog} (hopen : backlog.closed = false) {consumers : List Consumer}
    (hrunning : ∀ c ∈ consumers, c.running = true) (s : Session C) :
    ∀ c ∈ (takeTurns receive now wait backlog consumers s).1.2.1, c.running = true := by
  induction consumers generalizing backlog s with
  | nil => nofun
  | cons c rest ih =>
    obtain ⟨hfirst, hrest⟩ := List.forall_mem_cons.mp hrunning
    have hstays := (c.turn_keeps receive now wait backlog { s with background := true }).2
    simp only [takeTurns, bind_apply, pure_apply]
    exact List.forall_mem_cons.mpr
      ⟨c.running_turn_of_open receive now wait hopen hfirst _, ih (hstays.trans hopen) hrest _⟩

namespace Untiring

variable {b : Broker}

theorem round (h : b.Untiring) (receive : Reception C) :
    Yields (fun outcome => outcome.1.Untiring) (b.round receive) := by
  intro s hopen
  have hbefore : b.backlog.closed = false := (b.round_keeps receive s).2 ▸ hopen
  simp only [Broker.round, bind_apply, pure_apply]
  exact running_takeTurns receive b.now b.waitTime hbefore (h hbefore) s

theorem turnAt (h : b.Untiring) (receive : Reception C) (place : Nat) :
    Yields Untiring (b.turnAt receive place) := by
  intro s
  unfold Broker.turnAt
  cases hc : b.consumers[place]? with
  | none => exact h
  | some c =>
    intro hopen
    have hstays := (c.turn_keeps receive b.now b.waitTime b.backlog { s with background := true }).2
    have hbefore : b.backlog.closed = false := hstays ▸ hopen
    intro c' hc'
    rcases List.mem_or_eq_of_mem_set hc' with hother | rfl
    · exact h hbefore c' hother
    · have hrunning := h hbefore c (List.mem_of_getElem? hc)
      exact c.running_turn_of_open receive b.now b.waitTime hbefore hrunning _

theorem work (h : b.Untiring) (receive : Reception C) (rounds : Nat) :
    Yields (fun outcome => outcome.1.Untiring) (b.work receive rounds) := by
  induction rounds generalizing b with
  | zero => exact yields_pure h
  | succ rounds ih =>
    refine yields_bind (h.round receive) fun outcome houtcome => ?_
    obtain ⟨b', moved⟩ := outcome
    cases moved with
    | true => exact ih houtcome
    | false => exact yields_pure houtcome

theorem settle (h : b.Untiring) (receive : Reception C) (rounds : Nat) (horizon : Instant)
    (instants : Nat) :
    Yields (fun outcome => outcome.1.Untiring) (b.settle receive rounds horizon instants) := by
  induction instants generalizing b with
  | zero => exact yields_pure h
  | succ instants ih =>
    refine yields_bind (h.work receive rounds) fun outcome houtcome => ?_
    obtain ⟨b', done⟩ := outcome
    cases done with
    | false => exact yields_pure houtcome
    | true =>
      simp only [Bool.not_true, Bool.false_eq_true, if_false]
      cases b'.nextInstant with
      | none => exact yields_pure houtcome
      | some t =>
        dsimp only
        split
        · exact ih (b := { b' with now := t }) houtcome
        · exact yields_pure houtcome

theorem sleep (h : b.Untiring) (receive : Reception C) (duration : Duration) :
    Yields Untiring (b.sleep receive duration) :=
  yields_bind (h.settle receive patience (b.now + duration) patience) fun _ houtcome =>
    yields_pure houtcome

theorem beginReceive (h : b.Untiring) (queue : String) (wait : Duration) :
    Yields (C := C) Untiring (b.beginReceive queue wait) := by
  intro s hopen
  have hlook := Receiver.closed_look b.now b.backlog (Session.draw s).1
    ⟨queue, Instant.after? b.now wait, none⟩
  exact h (hlook ▸ hopen)

theorem await (h : b.Untiring) (receive : Reception C) (instants : Nat) :
    Yields (fun outcome => outcome.2.Untiring) (b.await receive instants) := by
  induction instants generalizing b with
  | zero => exact yields_pure h
  | succ instants ih =>
    unfold Broker.await
    cases b.receivers.getLast?.bind Receiver.reply with
    | some reply => exact yields_pure h
    | none =>
      refine yields_bind (h.work receive patience) fun outcome houtcome => ?_
      obtain ⟨b', rested⟩ := outcome
      dsimp only
      cases b'.receivers.getLast?.bind Receiver.reply with
      | some reply => exact yields_pure houtcome
      | none =>
        cases b'.nextInstant with
        | none => exact yields_pure houtcome
        | some t => exact ih (b := { b' with now := t }) houtcome

theorem close (h : b.Untiring) (receive : Reception C) :
    Yields Untiring (b.close receive) := by
  intro s
  unfold Broker.close
  split
  · exact h
  · exact untiring_of_closed
      (({ b with backlog := b.backlog.close } : Broker).round_keeps receive s).2

theorem send (h : b.Untiring) (queue : String) (m : Message) : (b.send queue m).2.Untiring := by
  unfold Broker.send
  cases hsend : b.backlog.send b.now queue m with
  | error e => exact h
  | ok backlog =>
    obtain ⟨hopen, -⟩ := Backlog.send_eq_ok_iff.mp hsend
    exact fun _ => h hopen

theorem subscribe (h : b.Untiring) (queue : String) (subscriber : Subscriber) :
    Yields (C := C) (fun outcome => outcome.2.Untiring) (b.subscribe queue subscriber) := by
  intro s
  unfold Broker.subscribe
  split
  · exact h
  · intro hopen c hc
    rcases List.mem_append.mp hc with hbefore | hnew
    · exact h hopen c hbefore
    · obtain rfl := List.mem_singleton.mp hnew
      rfl

end Untiring
end Broker

/-! ## Transports -/

/-- If this is a broker, its consumers are untiring. -/
def Carrier.Untiring : Carrier → Prop
  | held _ => True
  | broker b => b.Untiring

namespace Rehearsed

/-- What stands behind planned faults is untiring. -/
def Untiring (x : Exchange C (Rehearsed Carrier)) : Prop :=
  x.transport.inner.Untiring

theorem preserves_send (queue : String) (m : Message) :
    Preserves (Untiring (C := C)) (Transport.send queue m) := by
  rintro ⟨s, ⟨mail | b, sendFaults, subscribeFaults, sent⟩⟩ h
  · cases sendFaults <;> trivial
  · cases sendFaults with
    | cons fault rest => exact h
    | nil => exact Broker.Untiring.send h queue m

theorem preserves_subscribe (queue : String) (subscriber : Subscriber) :
    Preserves (Untiring (C := C)) (Transport.subscribe queue subscriber) := by
  rintro ⟨s, ⟨mail | b, sendFaults, subscribeFaults, sent⟩⟩ h
  · cases subscribeFaults <;> trivial
  · cases subscribeFaults with
    | cons fault rest => exact h
    | nil => exact Broker.Untiring.subscribe h queue subscriber s

theorem preserves_act (activity : Activity C α) :
    Preserves (Untiring (C := C)) (Exchange.act activity) := fun _ h => h

end Rehearsed

/-! ## Façades -/

namespace Facade

open Rehearsed (Untiring)

theorem untiring_enroll (f : Facade C ρ) (kind : C.Kind) (register : ρ → Except DispatchError ρ) :
    Preserves Untiring (f.enroll kind register) := by
  unfold enroll
  cases register f.registry with
  | error e => exact preserves_pure _
  | ok registry =>
    dsimp only
    split
    · exact preserves_pure _
    · refine preserves_bind (Rehearsed.preserves_subscribe _ _) fun answer => ?_
      cases answer with
      | error e => exact preserves_pure _
      | ok _ => exact preserves_bind (Rehearsed.preserves_act _) fun _ => preserves_pure _

theorem untiring_publish (f : Facade C ρ) (ctx : Context) {kind : C.Kind} (payload : C.Value kind)
    (organisation : Option Uuid) :
    Preserves Untiring (f.publish ctx payload organisation) := by
  refine preserves_bind (Rehearsed.preserves_act _) fun freshId => ?_
  cases compose freshId ctx payload organisation with
  | error refusal => exact preserves_pure _
  | ok m =>
    refine preserves_bind (Rehearsed.preserves_act _) fun _ => ?_
    refine preserves_bind (Rehearsed.preserves_send _ m) fun answer => ?_
    cases answer <;> exact preserves_pure _

end Facade

/-! ## Networks -/

namespace Network

/-- If a network has a broker, its consumers are untiring. -/
def Untiring (n : Rehearsal C) : Prop :=
  n.exchange.transport.inner.Untiring

theorem untiring_direct {use : StateM (Exchange C (Rehearsed Carrier)) α}
    (h : Preserves Rehearsed.Untiring use) : Preserves Untiring (direct use) :=
  fun n hn => h n.exchange hn

theorem untiring_onCommands (address : Nat)
    {use : CommandFacade C → StateM (Exchange C (Rehearsed Carrier)) (α × CommandFacade C)}
    (h : ∀ f, Preserves Rehearsed.Untiring (use f)) :
    Preserves Untiring (onCommands address use) := by
  intro n hn
  unfold onCommands
  split
  · exact h _ n.exchange hn
  · exact hn

theorem untiring_onEvents (address : Nat)
    {use : EventFacade C → StateM (Exchange C (Rehearsed Carrier)) (α × EventFacade C)}
    (h : ∀ f, Preserves Rehearsed.Untiring (use f)) :
    Preserves Untiring (onEvents address use) := by
  intro n hn
  unfold onEvents
  split
  · exact h _ n.exchange hn
  · exact hn

theorem untiring_withBroker {use : Reception C → Broker → Activity C (α × Broker)}
    (h : ∀ receive b, b.Untiring → Yields (fun outcome => outcome.2.Untiring) (use receive b)) :
    Preserves Untiring (withBroker use) := by
  rintro ⟨⟨s, ⟨mail | b, sendFaults, subscribeFaults, sent⟩⟩, facades⟩ hn
  · trivial
  · exact h (reception facades) b hn s

theorem untiring_withHeld {use : Reception C → HeldMail → Activity C (α × HeldMail)} :
    Preserves Untiring (withHeld use) := by
  rintro ⟨⟨s, ⟨mail | b, sendFaults, subscribeFaults, sent⟩⟩, facades⟩ hn
  · trivial
  · exact hn

/-- Publishing a command leaves the consumers at work. -/
theorem untiring_execute (f : CommandFacade C) (ctx : Context) (organisation : Option Uuid)
    {kind : C.Kind} (command : C.Value kind) :
    Preserves Rehearsed.Untiring (f.execute ctx organisation command) := by
  unfold CommandFacade.execute
  split
  · exact preserves_pure _
  · exact preserves_pure _
  · exact f.untiring_publish ctx command organisation

/-- Publishing an event leaves the consumers at work. -/
theorem untiring_dispatch (f : EventFacade C) (ctx : Context) {kind : C.Kind}
    (event : C.Value kind) : Preserves Rehearsed.Untiring (f.dispatch ctx event) := by
  unfold EventFacade.dispatch
  split
  · exact preserves_pure _
  · exact f.untiring_publish ctx event none

/-- Whatever is done with a network, its consumers go on. -/
theorem untiring_conduct (act : QueueAct C) : Preserves Untiring (conduct act) := by
  cases act with
  | enlist e =>
    cases e with
    | command address entry =>
      refine preserves_map (untiring_onCommands address fun f => ?_) _
      exact f.untiring_enroll entry.kind fun r =>
        r.register entry.kind entry.handler entry.authorizer
    | event address kind handler =>
      refine preserves_map (untiring_onEvents address fun f => ?_) _
      exact f.untiring_enroll kind fun r => r.register kind handler
  | execute address request =>
    refine preserves_map (untiring_onCommands address fun f => ?_) _
    exact preserves_bind (untiring_execute f _ _ _) fun _ => preserves_pure _
  | dispatch address ctx kind event =>
    refine preserves_map (untiring_onEvents address fun f => ?_) _
    exact preserves_bind (untiring_dispatch f ctx event) fun _ => preserves_pure _
  | send queue message =>
    exact preserves_map (untiring_direct (Rehearsed.preserves_send queue message)) _
  | subscribe queue consumer =>
    exact preserves_map (untiring_direct (Rehearsed.preserves_subscribe queue _)) _
  | planSend fault | planSubscribe fault => exact fun _ hn => hn
  | turn place =>
    refine preserves_map (untiring_withBroker fun receive b h => ?_) _
    exact yields_bind (h.turnAt receive place) fun _ hturned => yields_pure hturned
  | round =>
    refine preserves_map (untiring_withBroker fun receive b h => ?_) _
    exact yields_bind (h.round receive) fun _ hround => yields_pure hround
  | pass duration | delete queue receipt | purge queue =>
    refine preserves_map (untiring_withBroker fun receive b h => ?_) _
    exact yields_pure h
  | settle =>
    refine preserves_map (preserves_bind (untiring_withBroker fun receive b h => ?_) ?_) _
    · exact yields_bind (h.settle receive _ _ _) fun _ hsettled => yields_pure hsettled
    · exact fun _ => preserves_pure _
  | sleep duration =>
    refine preserves_map (untiring_withBroker fun receive b h => ?_) _
    exact yields_bind (h.sleep receive duration) fun _ hslept => yields_pure hslept
  | beginReceive queue wait =>
    refine preserves_map (untiring_withBroker fun receive b h => ?_) _
    exact yields_bind (h.beginReceive queue wait) fun _ hbegun => yields_pure hbegun
  | await =>
    refine preserves_map (preserves_bind (untiring_withBroker fun receive b h => ?_) ?_) _
    · exact h.await receive _
    · exact fun _ => preserves_pure _
  | close =>
    refine preserves_map (untiring_withBroker fun receive b h => ?_) _
    exact yields_bind (h.close receive) fun _ hclosed => yields_pure hclosed
  | handOver queue place ctx => exact preserves_map untiring_withHeld _

end Network

/-! ## Services -/

namespace Service

/-- If a service has a broker, its consumers are untiring. -/
def Untiring (s : Service C γ) : Prop :=
  s.network.Untiring

theorem untiring_start (setups : List Setup) (times : Option (Duration × Duration)) (medium : γ)
    (session : Session C) : (start setups times medium session).Untiring := by
  cases times with
  | none => trivial
  | some times => exact fun _ => nofun

variable [BroadcastMedium γ]

/-- Whatever is done with a service, its consumers go on. -/
theorem untiring_step (act : ServiceAct C γ) : Preserves Untiring (step act) := by
  intro s h
  cases act with
  | direct act => exact h
  | queue act => exact Network.untiring_conduct act s.network h
  | broadcast act => exact h

/-- Whatever is done one after the other, too. -/
theorem untiring_run (acts : List (ServiceAct C γ)) : Preserves Untiring (run acts) := by
  induction acts with
  | nil => exact preserves_pure _
  | cons act acts ih =>
    exact preserves_bind (untiring_step act) fun _ => preserves_bind ih fun _ => preserves_pure _

end Service
end Switchboard
