import Switchboard.Proofs.Facade.Carriage
import Switchboard.Proofs.Facade.Installation
import Switchboard.Proofs.Queue.Record

/-!
# The course of things behind a queue

What may happen at a façade for commands and its consumer, in any order: commands are published, the
consumer takes a turn, time passes.

Main results:

- Definition {lit}`CommandFacade.queued`: handlers are taken in, things happen, and in the end the
  consumer works until nothing is left to do.
- Theorem {lit}`CommandFacade.execute_of_carriable`: the message of a command comes to its queue.
- Theorem {lit}`CommandFacade.calls_performAll`: no call is struck from the record.
-/

namespace Switchboard

variable {C : Catalogue}

/-! ## What may happen -/

/-- What may happen at a façade and its consumer. -/
inductive Beat (C : Catalogue) where
  /-- A command is published. -/
  | publish (request : Request C)
  /-- The consumer takes a turn. -/
  | turn
  /-- Time passes. -/
  | pass (duration : Duration)

namespace Beat

/-- The command that is published, if one is. -/
def request? : Beat C → Option (Request C)
  | publish request => some request
  | turn => none
  | pass _ => none

/-- The commands that are published, in their order. -/
def requests (beats : List (Beat C)) : List (Request C) :=
  beats.filterMap request?

@[simp]
theorem requests_nil : requests ([] : List (Beat C)) = [] :=
  rfl

@[simp]
theorem requests_publish (r : Request C) (beats : List (Beat C)) :
    requests (publish r :: beats) = r :: requests beats :=
  rfl

@[simp]
theorem requests_turn (beats : List (Beat C)) : requests (turn :: beats) = requests beats :=
  rfl

@[simp]
theorem requests_pass (duration : Duration) (beats : List (Beat C)) :
    requests (pass duration :: beats) = requests beats :=
  rfl

end Beat

namespace CommandFacade

/-- A round of the broker, its only façade being given; tells whether anything was done. -/
def round (f : CommandFacade C) (x : Exchange C Broker) : Exchange C Broker × Bool :=
  let outcome := x.transport.round (Network.reception [.commands f]) x.session
  (⟨outcome.2, outcome.1.1⟩, outcome.1.2)

/-- The work of the broker until nothing is left to do, within so many rounds; tells whether that
was enough. -/
def work (f : CommandFacade C) (rounds : Nat) (x : Exchange C Broker) : Exchange C Broker × Bool :=
  let outcome := x.transport.work (Network.reception [.commands f]) rounds x.session
  (⟨outcome.2, outcome.1.1⟩, outcome.1.2)

/-- Let something happen. -/
def perform (f : CommandFacade C) (x : Exchange C Broker) : Beat C → Exchange C Broker
  | .publish r => (f.execute r.context r.organisation r.command x).2
  | .turn => (f.round x).1
  | .pass duration =>
    { x with transport := { x.transport with now := x.transport.now + duration } }

/-- Handlers are taken in behind queues of their own broker, things happen, and in the end the
consumers work until nothing is left to do. -/
def queued (application : String) (naming : QueueNaming) (registrations : List (CommandEntry C))
    (visibility waitTime : Duration) (beats : List (Beat C)) (rounds : Nat) (s : Session C) :
    Exchange C Broker × Bool :=
  let fresh : CommandFacade C := (start 0 application).withNaming naming
  let (f, x) := fresh.registerAll registrations ⟨s, .start visibility waitTime⟩
  f.work rounds (beats.foldl f.perform x)

/-- Work goes on as long as rounds find something to do. -/
theorem work_succ (f : CommandFacade C) (rounds : Nat) (x : Exchange C Broker) :
    f.work (rounds + 1) x =
      if (f.round x).2 then f.work rounds (f.round x).1 else ((f.round x).1, true) := by
  unfold work round
  simp only [Broker.work_succ]
  split <;> rfl

/-- Publishing runs no handler. -/
theorem calls_execute (f : CommandFacade C) (ctx : Context) (organisation : Option Uuid)
    {kind : C.Kind} (command : C.Value kind) (x : Exchange C Broker) :
    (f.execute ctx organisation command x).2.session.calls = x.session.calls := by
  unfold execute
  rcases f.routes? kind with e | routed
  · rfl
  · cases routed with
    | false => rfl
    | true =>
      simp only [Facade.publish, bind_apply]
      generalize Facade.compose (Exchange.act Session.draw x).1 ctx command organisation = composed
      cases composed with
      | error refusal => rfl
      | ok m =>
        simp only [bind_apply, Transport.send, Exchange.carry]
        generalize Broker.send _ _ m = sent
        obtain ⟨_ | _, _⟩ := sent <;> rfl

/-- No call is struck from the record, whatever happens. -/
theorem calls_perform (f : CommandFacade C) (x : Exchange C Broker) (beat : Beat C) :
    x.session.calls <+: (f.perform x beat).session.calls := by
  cases beat with
  | publish r => exact (f.calls_execute r.context r.organisation r.command x).symm ▸ List.prefix_rfl
  | turn => exact Broker.grows_round (Network.keeps_reception f) _ _
  | pass duration => exact List.prefix_rfl

theorem calls_performAll (f : CommandFacade C) (x : Exchange C Broker) (beats : List (Beat C)) :
    x.session.calls <+: (beats.foldl f.perform x).session.calls := by
  induction beats generalizing x with
  | nil => exact List.prefix_rfl
  | cons beat beats ih => exact (f.calls_perform x beat).trans (ih _)

theorem calls_work (f : CommandFacade C) (rounds : Nat) (x : Exchange C Broker) :
    x.session.calls <+: (f.work rounds x).1.session.calls :=
  Broker.grows_work (Network.keeps_reception f) rounds x.transport x.session

/-- The message of a command that is accepted and can be carried comes to its queue. -/
theorem execute_of_carriable {f : CommandFacade C} {r : Request C}
    (hroute : f.routes.find? (C.tag r.kind) = some r.kind) (h : r.Carriable)
    {x : Exchange C Broker} (hopen : x.transport.backlog.closed = false) :
    ∃ m log backlog, m.Carries r ∧
      x.transport.backlog.send x.transport.now (f.queueName (C.tag r.kind)) m = .ok backlog ∧
      f.execute r.context r.organisation r.command x =
        (.ok (), ⟨{ x.session with nextId := x.session.nextId + 1, log },
          { x.transport with backlog }⟩) := by
  obtain ⟨m, hm, hcarries⟩ := r.exists_compose_carries h (Uuid.random x.session.nextId).text
  obtain ⟨backlog, hsend, hsent⟩ := Broker.send_of_open hopen (f.queueName (C.tag r.kind)) m
  obtain ⟨log, hpublish⟩ := f.publish_eq_post hm
  have hroutes : f.routes? r.kind = .ok true := by simp [Facade.routes?, hroute]
  refine ⟨m, log, backlog, hcarries, hsend, ?_⟩
  rw [execute, hroutes]
  refine hpublish.trans ?_
  simp only [Facade.post, Transport.send, Exchange.carry, hsent]
  rfl

end CommandFacade

end Switchboard
