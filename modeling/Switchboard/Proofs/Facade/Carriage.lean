import Switchboard.Proofs.Command.Sequence
import Switchboard.Proofs.Facade.Imprint

/-!
# What a message carries

A command becomes a message on the publisher's side, and the message becomes a command again where
it is received.  Nothing that matters is lost on the way, as long as the command can be read from
its own text and does not write over the attributes that the switchboard keeps for itself.

Main results:

- Theorem {lit}`Request.exists_compose_carries`: the message of a command carries it.
- Theorem {lit}`CommandFacade.receive_of_carries`: to receive a message is to execute, for the
  system, the command that it carries.
-/

namespace Switchboard

variable {C : Catalogue}

namespace Request

/-- A command can be carried if it can be read from its own text, and none of its attributes has a
name that the switchboard keeps for itself. -/
structure Carriable (r : Request C) : Prop where
  text : ∃ body, C.encode r.command = .ok body ∧ C.decode r.kind body = some r.command
  attributes : ∀ pair ∈ C.attributes r.command, pair.1 ≠ Message.typeInfoKey ∧
    pair.1 ≠ Message.correlationKey ∧ pair.1 ≠ Message.organisationKey

end Request

/-- A message carries a command: everything that its receiver needs can be read from it. -/
structure Message.Carries (m : Message) (r : Request C) : Prop where
  typeInfo : m.typeInfo = some (C.tag r.kind)
  correlation : m.attributeValue Message.correlationKey = r.context.correlationId
  organisation : m.organisation = r.organisation
  decode : m.decode r.kind = some r.command

namespace Message

/-- The context in which a message is received, turned into that of the system, names the chain of
work of the message or a fresh one. -/
theorem asSystem_receivingContext (m : Message) (freshId : String) :
    (m.receivingContext freshId).asSystem =
      .system ((m.attributeValue correlationKey).getD freshId) := by
  unfold receivingContext Context.received
  split
  · rename_i id hid
    rw [hid]
    rfl
  · rename_i hnone
    rw [hnone]
    rfl

end Message

/-- The message of a command carries it. -/
theorem Request.exists_compose_carries {r : Request C} (h : r.Carriable) (id : String) :
    ∃ m, Facade.compose id r.context r.command r.organisation = .ok m ∧ m.Carries r := by
  obtain ⟨body, hencode, hdecode⟩ := h.text
  obtain ⟨m, hm, hbody⟩ := Facade.body_compose id r.context r.organisation hencode
  have htag := C.written_eq_none fun pair hpair => (h.attributes pair hpair).1
  have hcorrelation := C.written_eq_none fun pair hpair => (h.attributes pair hpair).2.1
  have horganisation := C.written_eq_none fun pair hpair => (h.attributes pair hpair).2.2
  refine ⟨m, hm, ?_, ?_, ?_, ?_⟩
  · rw [Facade.typeInfo_compose hm, htag, Option.getD_none]
  · rw [Facade.correlation_compose hm, hcorrelation, Option.or_none]
  · rw [Facade.organisation_compose hm, horganisation, Option.bind_none, Option.or_none]
  · rw [Message.decode, hbody, hdecode]

/-- To receive a message is to execute, for the system, the command that it carries. -/
theorem CommandFacade.receive_of_carries {f : CommandFacade C} {m : Message} {r : Request C}
    (hroute : f.routes.find? (C.tag r.kind) = some r.kind) (h : m.Carries r) (ctx : Context) :
    f.receive ctx m = f.registry.execute ctx.asSystem r.organisation r.command := by
  simp [receive, Facade.route, h.typeInfo, hroute, h.decode, h.organisation]

end Switchboard
