import Switchboard.Proofs.Network.Enlistment
import Switchboard.Proofs.Queue.Alone

/-!
# The course of things in a network

What may happen at façades that share a broker, in any order: handlers are taken in, messages are
sent, the consumers take their turns, time passes.

Main results:

- Definition {lit}`Network.perform`: lets something happen.
- Theorem {lit}`Broker.round_keeps`: a round leaves the consumers where they are.
- Theorem {lit}`Network.Orderly.perform`: every façade holds the handlers of its address.
-/

namespace Switchboard

variable {C : Catalogue}

/-! ## What may happen -/

/-- What may happen in a network. -/
inductive Deed (C : Catalogue) where
  /-- A handler is taken in. -/
  | enlist (e : Enlistment C)
  /-- A message is sent to a queue. -/
  | send (queue : String) (message : Message)
  /-- The consumers take a turn each. -/
  | round
  /-- Time passes. -/
  | pass (duration : Duration)

namespace Deed

/-- The handler that is taken in, if one is. -/
def enlistment? : Deed C → Option (Enlistment C)
  | enlist e => some e
  | send _ _ => none
  | round => none
  | pass _ => none

/-- The handlers that are taken in, in their order. -/
def enlistments (deeds : List (Deed C)) : List (Enlistment C) :=
  deeds.filterMap enlistment?

theorem enlistments_cons (d : Deed C) (deeds : List (Deed C)) :
    enlistments (d :: deeds) = d.enlistment?.toList ++ enlistments deeds := by
  cases d <;> rfl

end Deed

/-- How a façade is set up. -/
inductive Setup where
  | commands (application : String) (naming : QueueNaming)
  | events (application : String) (naming : QueueNaming)

/-- How a façade of the setup names its queues. -/
def Setup.naming : Setup → QueueNaming
  | commands _ naming => naming
  | events _ naming => naming

/-- The façade of a setup. -/
def AnyFacade.start (address : Nat) : Setup → AnyFacade C
  | .commands application naming =>
    .commands ((CommandFacade.start address application).withNaming naming)
  | .events application naming =>
    .events ((EventFacade.start address application).withNaming naming)

theorem AnyFacade.vacant_start (address : Nat) (setup : Setup) :
    (start address setup : AnyFacade C).Vacant address := by
  cases setup <;> exact ⟨rfl, fun _ => rfl, rfl, rfl⟩

theorem AnyFacade.queueName_start (address : Nat) (setup : Setup) (tag : String) :
    (start address setup : AnyFacade C).outline.queueName tag = setup.naming.queueName tag := by
  cases setup <;> rfl

namespace Network

/-- Façades without handlers over open queues without messages. -/
def start (setups : List Setup) (visibility waitTime : Duration) (s : Session C) :
    Network C Broker :=
  ⟨⟨s, .start visibility waitTime⟩, setups.mapIdx AnyFacade.start⟩

/-- A round of the broker; tells whether anything was done. -/
def round (n : Network C Broker) : Network C Broker × Bool :=
  let outcome := n.exchange.transport.round (reception n.facades) n.exchange.session
  ({ n with exchange := ⟨outcome.2, outcome.1.1⟩ }, outcome.1.2)

/-- The work of the broker until nothing is left to do, within so many rounds; tells whether that
was enough. -/
def work (rounds : Nat) (n : Network C Broker) : Network C Broker × Bool :=
  let outcome := n.exchange.transport.work (reception n.facades) rounds n.exchange.session
  ({ n with exchange := ⟨outcome.2, outcome.1.1⟩ }, outcome.1.2)

/-- Let something happen. -/
def perform (n : Network C Broker) : Deed C → Network C Broker
  | .enlist e => (enlist e n).2
  | .send queue message => (direct (Transport.send queue message) n).2
  | .round => n.round.1
  | .pass duration =>
    { n with exchange := { n.exchange with transport :=
      { n.exchange.transport with now := n.exchange.transport.now + duration } } }

/-- Let things happen one after the other. -/
def performAll (n : Network C Broker) (deeds : List (Deed C)) : Network C Broker :=
  deeds.foldl perform n

/-- If a handler is to be taken in, it is. -/
def Grants (n : Network C Broker) (d : Deed C) : Prop :=
  ∀ e, d.enlistment? = some e → (enlist e n).1 = some (.ok ())

/-- All handlers that are to be taken in are. -/
def GrantsAll : Network C Broker → List (Deed C) → Prop
  | _, [] => True
  | n, d :: deeds => n.Grants d ∧ (n.perform d).GrantsAll deeds

/-- Work goes on as long as rounds find something to do. -/
theorem work_succ (rounds : Nat) (n : Network C Broker) :
    n.work (rounds + 1) = if n.round.2 then n.round.1.work rounds else (n.round.1, true) := by
  unfold work round
  simp only [Broker.work_succ]
  split <;> rfl

/-- Open queues take what is sent to them. -/
theorem perform_send {n : Network C Broker} (hopen : n.exchange.transport.backlog.closed = false)
    (queue : String) (message : Message) :
    ∃ backlog, n.exchange.transport.backlog.send n.exchange.transport.now queue message =
        .ok backlog ∧
      n.perform (.send queue message) =
        { n with exchange := ⟨n.exchange.session, { n.exchange.transport with backlog }⟩ } := by
  obtain ⟨backlog, hsend, hsent⟩ := Broker.send_of_open hopen queue message
  refine ⟨backlog, hsend, ?_⟩
  simp only [perform, direct, Transport.send, Exchange.carry, hsent]

end Network

/-! ## Rounds -/

/-- Where a consumer is and whom it serves. -/
def Consumer.post (c : Consumer) : String × Subscriber :=
  (c.queue, c.subscriber)

/-- A look leaves open queues open. -/
theorem Backlog.closed_of_delivered {b b' : Backlog} {now : Instant} {deadline : Option Instant}
    {queue receipt : String} {delivery : Delivery}
    (h : b.poll now deadline queue receipt = .delivered delivery b') : b'.closed = b.closed := by
  obtain ⟨-, messages, -, rfl⟩ := poll_eq_delivered_iff.mp h
  rfl

/-- So does the look of a receiver. -/
theorem Receiver.closed_look (now : Instant) (backlog : Backlog) (receipt : String)
    (r : Receiver) : (r.look now backlog receipt).backlog.closed = backlog.closed := by
  unfold look
  split
  · rfl
  · cases hpoll : backlog.poll now r.deadline r.queue receipt with
    | delivered delivery left => exact Backlog.closed_of_delivered hpoll
    | closed => rfl
    | timedOut => rfl
    | blocked => rfl

/-- A turn leaves the consumer where it is, and open queues open. -/
theorem Consumer.turn_keeps (receive : Reception C) (now : Instant) (wait : Duration)
    (backlog : Backlog) (c : Consumer) (s : Session C) :
    (c.turn receive now wait backlog s).1.consumer.post = c.post ∧
      (c.turn receive now wait backlog s).1.backlog.closed = backlog.closed := by
  cases hrunning : c.running with
  | false =>
    rw [turn, hrunning]
    exact ⟨rfl, rfl⟩
  | true =>
    rw [turn_of_running receive hrunning]
    cases hpoll : backlog.poll now c.deadline c.queue (Uuid.random s.nextId).text with
    | closed => exact ⟨rfl, rfl⟩
    | blocked => exact ⟨rfl, rfl⟩
    | timedOut => exact ⟨rfl, rfl⟩
    | delivered delivery left =>
      have hleft : left.closed = backlog.closed := Backlog.closed_of_delivered hpoll
      simp only [handle_eq]
      split
      · exact ⟨rfl, hleft⟩
      · exact ⟨rfl, hleft⟩

namespace Broker

/-- Turns leave the consumers where they are, and open queues open. -/
theorem takeTurns_keeps (receive : Reception C) (now : Instant) (wait : Duration)
    (backlog : Backlog) (consumers : List Consumer) (s : Session C) :
    (takeTurns receive now wait backlog consumers s).1.2.1.map Consumer.post =
        consumers.map Consumer.post ∧
      (takeTurns receive now wait backlog consumers s).1.1.closed = backlog.closed := by
  induction consumers generalizing backlog s with
  | nil => exact ⟨rfl, rfl⟩
  | cons c rest ih =>
    simp only [takeTurns, bind_apply, pure_apply, List.map_cons]
    obtain ⟨hpost, hclosed⟩ :=
      c.turn_keeps receive now wait backlog { s with background := true }
    obtain ⟨hposts, hstays⟩ :=
      ih (Session.inBackground (c.turn receive now wait backlog) s).1.backlog
        (Session.inBackground (c.turn receive now wait backlog) s).2
    exact ⟨List.cons_eq_cons.mpr ⟨hpost, hposts⟩, hstays.trans hclosed⟩

/-- Looks leave open queues open. -/
theorem closed_takeLooks (now : Instant) (backlog : Backlog) (receivers : List Receiver)
    (s : Session C) : (takeLooks now backlog receivers s).1.1.closed = backlog.closed := by
  induction receivers generalizing backlog s with
  | nil => rfl
  | cons r rest ih =>
    simp only [takeLooks, bind_apply, pure_apply]
    exact (ih _ _).trans (r.closed_look now backlog (Session.draw s).1)

/-- A round leaves the consumers where they are, and open queues open. -/
theorem round_keeps (receive : Reception C) (b : Broker) (s : Session C) :
    (b.round receive s).1.1.consumers.map Consumer.post = b.consumers.map Consumer.post ∧
      (b.round receive s).1.1.backlog.closed = b.backlog.closed := by
  simp only [round, bind_apply, pure_apply]
  obtain ⟨hposts, hclosed⟩ := takeTurns_keeps receive b.now b.waitTime b.backlog b.consumers s
  exact ⟨hposts, (closed_takeLooks ..).trans hclosed⟩

end Broker

/-! ## Order -/

namespace Network

/-- An open network whose façades hold the handlers of their addresses, as far as these were taken
in. -/
structure Orderly (n : Network C Broker) (known : List (Enlistment C)) : Prop where
  opened : n.exchange.transport.backlog.closed = false
  holds : ∀ (address : Nat) (f : AnyFacade C), n.facades[address]? = some f →
    f.Holds address known

namespace Orderly

variable {n : Network C Broker} {known : List (Enlistment C)}

theorem start (setups : List Setup) (visibility waitTime : Duration) (s : Session C) :
    (start setups visibility waitTime s).Orderly [] where
  opened := rfl
  holds address f hf := by
    rw [Network.start, List.getElem?_mapIdx] at hf
    obtain ⟨setup, -, rfl⟩ := Option.map_eq_some_iff.mp hf
    exact .of_vacant (AnyFacade.vacant_start address setup)

/-- Every façade holds the handlers of its address, whatever happens. -/
theorem perform (h : n.Orderly known) {d : Deed C} (hgrants : n.Grants d) :
    (n.perform d).Orderly (known ++ d.enlistment?.toList) := by
  cases d with
  | enlist e =>
    obtain ⟨f, f', log, hf, hjoins, hn⟩ := enlist_of_ok h.opened (hgrants e rfl)
    rw [Network.perform, hn]
    refine ⟨?_, fun address g hg => ?_⟩
    · rw [Facade.backlog_staff]
      exact h.opened
    · by_cases haddress : e.address = address
      · subst haddress
        have hg' : g = f' := by
          have hlt : e.address < n.facades.length := (List.getElem?_eq_some_iff.mp hf).1
          rw [List.getElem?_set_self hlt, Option.some_inj] at hg
          exact hg.symm
        exact hg' ▸ (h.holds e.address f hf).joins hjoins
      · rw [List.getElem?_set_ne haddress] at hg
        exact (h.holds address g hg).elsewhere haddress
  | send queue message =>
    obtain ⟨backlog, hsend, hn⟩ := perform_send h.opened queue message
    obtain ⟨-, rfl⟩ := Backlog.send_eq_ok_iff.mp hsend
    rw [hn, Deed.enlistment?, Option.toList_none, List.append_nil]
    exact ⟨h.opened, h.holds⟩
  | round =>
    rw [Deed.enlistment?, Option.toList_none, List.append_nil]
    exact ⟨(Broker.round_keeps ..).2.trans h.opened, h.holds⟩
  | pass duration =>
    rw [Deed.enlistment?, Option.toList_none, List.append_nil]
    exact ⟨h.opened, h.holds⟩

end Orderly
end Network
end Switchboard
