import Switchboard.Network
import Switchboard.Proofs.Facade.Carriage
import Switchboard.Proofs.Facade.Enrolment
import Switchboard.Proofs.Queue.Alone

/-!
# Where a command comes from

The organisation that a command is meant for and the chain of work that it belongs to travel as
attributes of its message.  Where the publisher has none, no attribute is written, and what the
payload itself wrote under that name is taken for the publisher's.

Main results:

- Theorem {lit}`CommandFacade.shows_receive`: what the calls on the way of a message are shown.
- Theorem {lit}`CommandFacade.execute_provenance_iff`: when that is what the publisher gave.
-/

namespace Switchboard

variable {C : Catalogue} {τ : Type}

/-- What a call is shown of a command's way: the context, in which a handler finds its own name as
well, and the organisation. -/
structure Call.Shows (call : Call C) (ctx : Context) (organisation : Option Uuid) : Prop where
  check : ∀ shown id, call.input = .authorizer shown id → shown = ctx ∧ id = organisation
  handler : ∀ kind payload shown store, call.input = .handler kind payload (some shown) store →
    ∃ name, shown = ctx.withHandler name

namespace Call

variable {call : Call C} {callee : Nat} {ctx : Context} {organisation : Option Uuid}

/-- A check is shown what it is asked about. -/
theorem Checks.shows (h : call.Checks callee ctx organisation) : call.Shows ctx organisation where
  check shown id hinput := by
    rw [h.input] at hinput
    cases hinput
    exact ⟨rfl, rfl⟩
  handler kind payload shown store hinput := by
    rw [h.input] at hinput
    cases hinput

/-- A handler is shown its context, if any. -/
theorem Serves.shows {name : String} {kind : C.Kind} {payload : C.Value kind}
    (h : call.Serves callee (ctx.withHandler name) payload) (organisation : Option Uuid) :
    call.Shows ctx organisation where
  check shown id hinput := by
    obtain ⟨context, store, -, hserved⟩ := h.input
    rw [hserved] at hinput
    cases hinput
  handler _ _ shown _ hinput := by
    obtain ⟨context, store, hcontext, hserved⟩ := h.input
    rw [hserved] at hinput
    cases hinput
    exact ⟨name, hcontext shown rfl⟩

end Call

namespace CommandFacade

/-- A façade asks the check of an entry about a message that is routed and read. -/
def Asks (f : CommandFacade C) (m : Message) (entry : CommandEntry C) : Prop :=
  ∃ tag kind, m.typeInfo = some tag ∧ f.routes.find? tag = some kind ∧
    (m.decode kind).isSome = true ∧ f.registry.entries.find? (C.tag kind) = some entry

/-- What the calls on the way of a message are shown: the context of the system and the organisation
that the message names.  The first of them is the check of its entry, if it has one. -/
theorem shows_receive (f : CommandFacade C) (ctx : Context) (m : Message) (s : Session C) :
    ∃ new, (f.receive ctx m s).2.calls = s.calls ++ new ∧
      (∀ call ∈ new, call.Shows ctx.asSystem m.organisation) ∧
      ∀ entry, f.Asks m entry →
        ∃ check ∈ new, check.Checks entry.authorizer.callee ctx.asSystem m.organisation := by
  cases htag : m.typeInfo.bind f.routes.find? with
  | none =>
    rw [Option.bind_eq_none_iff] at htag
    obtain ⟨-, hcalls, -⟩ := Facade.route_of_unknown (fun tag h => htag tag h) ctx s
    refine ⟨[], by rw [List.append_nil]; exact hcalls, List.forall_mem_nil _, ?_⟩
    rintro entry ⟨tag, kind, htypeInfo, hroute, -⟩
    rw [htag tag htypeInfo] at hroute
    cases hroute
  | some kind =>
    obtain ⟨tag, htypeInfo, hroute⟩ := Option.bind_eq_some_iff.mp htag
    have hasks : ∀ entry, f.Asks m entry → (m.decode kind).isSome = true ∧
        f.registry.entries.find? (C.tag kind) = some entry := by
      rintro entry ⟨tag', kind', htypeInfo', hroute', hdecode, hentry⟩
      rw [htypeInfo, Option.some_inj] at htypeInfo'
      rw [← htypeInfo', hroute, Option.some_inj] at hroute'
      exact hroute' ▸ ⟨hdecode, hentry⟩
    rw [receive, Facade.route_of_find htypeInfo hroute, Facade.readAs]
    cases hdecode : m.decode kind with
    | none =>
      refine ⟨[], (List.append_nil _).symm, List.forall_mem_nil _, fun entry hentry => ?_⟩
      have hsome := (hasks entry hentry).1
      rw [hdecode] at hsome
      cases hsome
    | some command =>
      rcases f.registry.calls_execute ctx.asSystem m.organisation command s with
        ⟨hnone, hcalls⟩ | ⟨entry, check, new, hentry, hchecks, hcalls, hserves⟩
      · refine ⟨[], by rw [List.append_nil]; exact hcalls, List.forall_mem_nil _, ?_⟩
        intro entry hasked
        have hsome := (hasks entry hasked).2
        rw [hnone] at hsome
        cases hsome
      · refine ⟨check :: new, hcalls, ?_, fun entry' hasked => ⟨check, .head _, ?_⟩⟩
        · exact List.forall_mem_cons.mpr
            ⟨hchecks.shows, fun call hcall => (hserves call hcall).shows _⟩
        · have hsame := (hasks entry' hasked).2
          rw [hentry, Option.some_inj] at hsame
          exact hsame ▸ hchecks

/-- The publisher's own values reach the receiver, to whom a fresh correlation id is given, if the
payload writes none in the place of one that is missing. -/
structure KeepsProvenance (ctx : Context) (organisation : Option Uuid) {kind : C.Kind}
    (command : C.Value kind) (freshId : String) : Prop where
  correlation : ctx.correlationId = none →
    ∀ id, C.written command Message.correlationKey = some id → id = freshId
  organisation : organisation = none →
    (C.written command Message.organisationKey).bind Uuid.parse = none

/-- When a correlation id and an organisation are those that the publisher gave. -/
theorem keepsProvenance_iff {ctx : Context} {organisation : Option Uuid} {kind : C.Kind}
    {command : C.Value kind} {freshId : String} :
    KeepsProvenance ctx organisation command freshId ↔
      (ctx.correlationId.or (C.written command Message.correlationKey)).getD freshId =
          ctx.correlationId.getD freshId ∧
        organisation.or ((C.written command Message.organisationKey).bind Uuid.parse) =
          organisation := by
  constructor
  · rintro ⟨hcorrelation, horganisation⟩
    constructor
    · cases hctx : ctx.correlationId with
      | some id => rfl
      | none =>
        cases hwritten : C.written command Message.correlationKey with
        | none => rfl
        | some id => exact hcorrelation hctx id hwritten
    · cases organisation with
      | some id => rfl
      | none => exact horganisation rfl
  · rintro ⟨hcorrelation, horganisation⟩
    refine ⟨fun hctx id hwritten => ?_, ?_⟩
    · rw [hctx, hwritten] at hcorrelation
      exact hcorrelation
    · rintro rfl
      exact horganisation

/-- A command is published under a message from which its receiver is shown the publisher's own
organisation and correlation id, or those that the payload wrote in their place.  Whichever façade
receives it, all calls on its way are shown the context of the system and these; and they are shown
what the publisher gave, with a fresh correlation id if it gave none, exactly if the payload writes
nothing in the place of what is missing. -/
theorem execute_provenance_iff [Transport C τ] {f : CommandFacade C} {kind : C.Kind}
    (hroute : f.routes? kind = .ok true) {command : C.Value kind} {body : String}
    (hbody : C.encode command = .ok body) (ctx : Context) (organisation : Option Uuid)
    (x : Exchange C τ) :
    ∃ m log, f.execute ctx organisation command x = f.post kind m log x ∧ m.body = body ∧
      m.typeInfo = some ((C.written command Message.typeInfoKey).getD (C.tag kind)) ∧
      ∀ (facades : List (AnyFacade C)) (g : CommandFacade C) (address : Nat) (c : Consumer)
        (delivery : Delivery) (backlog : Backlog) (s : Session C),
        facades[address]? = some (.commands g) → c.subscriber = .facade address →
        delivery.message = m →
        let freshId := (Session.draw s).1
        let own := Context.system (ctx.correlationId.getD freshId)
        let seen := Context.system
          ((ctx.correlationId.or (C.written command Message.correlationKey)).getD freshId)
        let received :=
          organisation.or ((C.written command Message.organisationKey).bind Uuid.parse)
        ∃ new, (c.handle (Network.reception facades) delivery backlog s).2.calls =
            s.calls ++ new ∧
          (∀ call ∈ new, call.Shows seen received) ∧
          (KeepsProvenance ctx organisation command freshId →
            ∀ call ∈ new, call.Shows own organisation) ∧
          ∀ entry, g.Asks m entry →
            (∃ check ∈ new, check.Checks entry.authorizer.callee seen received) ∧
            ((∃ check ∈ new, check.Checks entry.authorizer.callee own organisation) ↔
              KeepsProvenance ctx organisation command freshId) := by
  obtain ⟨m, hm, hmbody⟩ :=
    Facade.body_compose (Uuid.random x.session.nextId).text ctx organisation hbody
  obtain ⟨log, hpublish⟩ := f.publish_eq_post hm
  refine ⟨m, log, by rw [execute, hroute]; exact hpublish, hmbody, Facade.typeInfo_compose hm, ?_⟩
  intro facades g address c delivery backlog s hfacade hsubscriber hmessage freshId own seen
    received
  have hseen : (m.receivingContext freshId).asSystem = seen := by
    rw [Message.asSystem_receivingContext, Facade.correlation_compose hm]
  have hreceived : m.organisation = received := Facade.organisation_compose hm
  obtain ⟨new, hcalls, hshows, hasks⟩ := g.shows_receive (m.receivingContext freshId) m
    { s with nextId := s.nextId + 1 }
  rw [hseen, hreceived] at hshows hasks
  have hhandle : (c.handle (Network.reception facades) delivery backlog s).2.calls =
      s.calls ++ new := by
    rw [Consumer.calls_handle, hmessage, hsubscriber]
    simp only [Network.reception, hfacade]
    exact hcalls
  have hsame : KeepsProvenance ctx organisation command freshId ↔
      seen = own ∧ received = organisation := by
    rw [keepsProvenance_iff]
    simp [seen, own, received, Context.system, Context.fresh, Context.asSystem,
      Context.withCorrelation]
  refine ⟨new, hhandle, hshows, fun hkeeps => ?_, fun entry hentry => ⟨hasks entry hentry, ?_⟩⟩
  · obtain ⟨hctx, horganisation⟩ := hsame.mp hkeeps
    rwa [hctx, horganisation] at hshows
  · rw [hsame]
    constructor
    · rintro ⟨check, hcheck, hchecks⟩
      obtain ⟨hctx, horganisation⟩ := (hshows check hcheck).check _ _ hchecks.input
      exact ⟨hctx.symm, horganisation.symm⟩
    · rintro ⟨hctx, horganisation⟩
      have hasked := hasks entry hentry
      rwa [hctx, horganisation] at hasked

end CommandFacade

/-! ## A note with attributes of its own -/

namespace Sample

/-- Takes notes from everybody who passes a check. -/
def notes : CommandEntry (catalogue fun _ => "") :=
  ⟨.note, ⟨1, "notes", .plain fun _ _ => .ok ()⟩, ⟨2, some "check", fun _ _ _ => .ok ()⟩⟩

/-- A façade that takes notes. -/
def notary : CommandFacade (catalogue fun _ => "") :=
  (CommandFacade.start 0 "app").takeIn .note ⟨Dictionary.empty.insert "notes.AddNote" notes⟩

/-- A note that names an organisation and a chain of work. -/
def forgery : Note :=
  ⟨"t", 0, [], none, [("organisation-id", (Uuid.random 5).text), ("correlation-id", "forged")]⟩

theorem decode_forgery :
    ((catalogue fun _ => "").decode Kind.note forgery.toJson.compact).isSome = true := by
  decide +kernel

/-- The message of the note is read and checked as a note. -/
theorem notary_asks {m : Message} (hbody : m.body = forgery.toJson.compact)
    (htag : m.typeInfo = some "notes.AddNote") : notary.Asks m notes := by
  refine ⟨"notes.AddNote", Kind.note, htag, by decide, ?_, rfl⟩
  rw [Message.decode, hbody, decode_forgery]

end Sample

/-- Where the publisher gives an organisation and a correlation id, the note does not change
them. -/
theorem CommandFacade.execute_provenance_of_given :
    let C := Sample.catalogue fun _ => ""
    let note : C.Value Sample.Kind.note := Sample.forgery
    let x : Exchange C HeldMail := ⟨.start ⟨[], []⟩ 0, .empty⟩
    let ctx : Context := .fresh "chain"
    Sample.notary.routes? Sample.Kind.note = .ok true ∧
      C.encode note = .ok Sample.forgery.toJson.compact ∧
      ∃ m log, Sample.notary.execute ctx (some (Uuid.random 6)) note x =
          Sample.notary.post Sample.Kind.note m log x ∧
        ∀ (c : Consumer) (delivery : Delivery) (backlog : Backlog) (s : Session C),
          c.subscriber = .facade 0 → delivery.message = m →
          ∃ check ∈ (c.handle (Network.reception [.commands Sample.notary]) delivery backlog
            s).2.calls, check.Checks 2 (.system "chain") (some (Uuid.random 6)) := by
  intro C note x ctx
  have hroute : Sample.notary.routes? Sample.Kind.note = .ok true := by decide
  have hbody : C.encode note = .ok Sample.forgery.toJson.compact := rfl
  have hwritten : C.written note Message.typeInfoKey = none := by decide
  refine ⟨hroute, hbody, ?_⟩
  obtain ⟨m, log, hexecute, hmbody, htag, hreceived⟩ :=
    execute_provenance_iff hroute hbody ctx (some (Uuid.random 6)) x
  rw [hwritten] at htag
  refine ⟨m, log, hexecute, fun c delivery backlog s hsubscriber hmessage => ?_⟩
  obtain ⟨new, hcalls, -, -, hasks⟩ := hreceived [.commands Sample.notary] Sample.notary 0 c
    delivery backlog s rfl hsubscriber hmessage
  obtain ⟨check, hcheck, hchecks⟩ :=
    (hasks Sample.notes (Sample.notary_asks hmbody htag)).2.mpr ⟨nofun, nofun⟩
  exact ⟨check, hcalls ▸ List.mem_append_right _ hcheck, hchecks⟩

/-- Where the publisher gives neither, the check is asked about the organisation and shown the
correlation id that the note names. -/
theorem CommandFacade.note_forges_provenance :
    let C := Sample.catalogue fun _ => ""
    let note : C.Value Sample.Kind.note := Sample.forgery
    let x : Exchange C HeldMail := ⟨.start ⟨[], []⟩ 0, .empty⟩
    ∃ m log, Sample.notary.execute .blank none note x =
        Sample.notary.post Sample.Kind.note m log x ∧
      ∀ (c : Consumer) (delivery : Delivery) (backlog : Backlog) (firstId : Nat),
        c.subscriber = .facade 0 → delivery.message = m →
        let calls := (c.handle (Network.reception [.commands Sample.notary]) delivery backlog
          (.start ⟨[], []⟩ firstId)).2.calls
        (∃ check ∈ calls, check.Checks 2 (.system "forged") (some (Uuid.random 5))) ∧
          ∀ freshId, ¬ ∃ check ∈ calls, check.Checks 2 (.system freshId) none := by
  intro C note x
  have hbody : C.encode note = .ok Sample.forgery.toJson.compact := rfl
  have htag : C.written note Message.typeInfoKey = none := by decide
  have hcorrelation : C.written note Message.correlationKey = some "forged" := by decide
  have horganisation : C.written note Message.organisationKey = some (Uuid.random 5).text := by
    decide
  obtain ⟨m, hm, hmbody⟩ :=
    Facade.body_compose (Uuid.random x.session.nextId).text .blank none hbody
  obtain ⟨log, hpublish⟩ := Sample.notary.publish_eq_post hm
  refine ⟨m, log, hpublish, fun c delivery backlog firstId hsubscriber hmessage => ?_⟩
  have hmtag := Facade.typeInfo_compose hm
  have hseen := Facade.correlation_compose hm
  have hreceived := Facade.organisation_compose hm
  rw [htag] at hmtag
  rw [hcorrelation] at hseen
  rw [horganisation, Option.bind_some, Uuid.parse_text] at hreceived
  obtain ⟨new, hcalls, hshows, hasks⟩ := Sample.notary.shows_receive
    (m.receivingContext (Uuid.random firstId).text) m
    { Session.start (C := C) ⟨[], []⟩ firstId with nextId := firstId + 1 }
  rw [Message.asSystem_receivingContext, hseen, hreceived] at hshows hasks
  have hnew : (c.handle (Network.reception [.commands Sample.notary]) delivery backlog
      (.start ⟨[], []⟩ firstId)).2.calls = new := by
    rw [Consumer.calls_handle, hmessage, hsubscriber]
    exact hcalls
  simp only [hnew]
  refine ⟨hasks Sample.notes (Sample.notary_asks hmbody hmtag), ?_⟩
  rintro freshId ⟨check, hcheck, hchecks⟩
  have hnone := ((hshows check hcheck).check _ _ hchecks.input).2
  cases hnone

end Switchboard
