import Switchboard.Facade.Commands
import Switchboard.Proofs.Uuid
import Switchboard.Sample.Catalogue

/-!
# What a message bears

Three sides write the attributes of a message, one after the other: the switchboard writes the tag,
the payload its own attributes, and the publisher a correlation id and an organisation as far as
there are any.  Whoever writes an attribute last is the one whom the receiver reads.  So a payload
may write over its own tag, and the message is then read as something else, or as nothing.

Main results:

- Theorem {lit}`Facade.attributeValue_compose`: who wrote an attribute of a published message.
- Theorem {lit}`Facade.publish_eq_post`: to publish is to send that message.
- Theorem {lit}`Facade.bears_tag_iff`: when the receiver reads the payload under its own tag.
-/

namespace Switchboard

variable {C : Catalogue} {ρ τ : Type}

/-- Of a list of pairs that is entered into a dictionary, the last value of a key is found. -/
theorem Dictionary.find?_insertAll_or {α : Type} (d : Dictionary α) (pairs : List (String × α))
    (key : String) :
    (d.insertAll pairs).find? key = ((ofList pairs).find? key).or (d.find? key) := by
  induction pairs generalizing d with
  | nil => rfl
  | cons head rest ih =>
    have hrest : (d.insertAll (head :: rest)).find? key =
        ((ofList rest).find? key).or ((d.insert head.1 head.2).find? key) := ih _
    have hlist : (ofList (head :: rest)).find? key =
        ((ofList rest).find? key).or ((empty.insert head.1 head.2).find? key) := ih _
    rw [hrest, hlist, find?_insert, find?_insert, Option.or_assoc]
    split <;> rfl

/-- The value that a payload itself writes under a name; of several the last counts. -/
def Catalogue.written (C : Catalogue) {kind : C.Kind} (payload : C.Value kind) (key : String) :
    Option String :=
  (Dictionary.ofList (C.attributes payload)).find? key

/-- What no attribute of a payload has as its name, the payload does not write. -/
theorem Catalogue.written_eq_none {kind : C.Kind} {payload : C.Value kind} {key : String}
    (h : ∀ pair ∈ C.attributes payload, pair.1 ≠ key) : C.written payload key = none :=
  Dictionary.find?_insertAll_of_ne .empty fun pair hpair => (h pair hpair).symm

/-! ## Attributes -/

namespace Message

theorem attributeValue_withAttribute? (m : Message) (key other : String) (value : Option String) :
    (m.withAttribute? key value).attributeValue other =
      if other = key then value.or (m.attributeValue key) else m.attributeValue other := by
  cases value with
  | none =>
    split
    · subst_vars
      rfl
    · rfl
  | some value => exact Dictionary.find?_insert m.attributes key other value

theorem body_withAttribute? (m : Message) (key : String) (value : Option String) :
    (m.withAttribute? key value).body = m.body := by
  cases value <;> rfl

/-- A payload that can be written has a message, whose body is the payload's text. -/
theorem body_encode (id : String) {kind : C.Kind} {payload : C.Value kind} {body : String}
    (h : C.encode payload = .ok body) :
    ∃ m, encode id payload = .ok m ∧ m.body = body := by
  rw [encode, h]
  exact ⟨_, rfl, rfl⟩

/-- What a payload does not write itself, its message does not have, except for the tag. -/
theorem attributeValue_encode {id : String} {kind : C.Kind} {payload : C.Value kind} {m : Message}
    (h : encode id payload = .ok m) (key : String) :
    m.attributeValue key =
      (C.written payload key).or (if key = typeInfoKey then some (C.tag kind) else none) := by
  unfold encode at h
  cases hbody : C.encode payload with
  | error refusal =>
    rw [hbody] at h
    cases h
  | ok body =>
    rw [hbody] at h
    cases h
    rw [attributeValue, Dictionary.find?_insertAll_or, withAttribute, Dictionary.find?_insert]
    rfl

end Message

namespace Facade

variable {id : String} {ctx : Context} {kind : C.Kind} {payload : C.Value kind}
  {organisation : Option Uuid} {m : Message}

/-- What a façade sends is the payload's own message under further attributes. -/
theorem compose_eq_ok_iff : compose id ctx payload organisation = .ok m ↔
    ∃ own, Message.encode id payload = .ok own ∧
      m = (own.withAttribute? Message.correlationKey ctx.correlationId).withAttribute?
        Message.organisationKey (organisation.map Uuid.text) := by
  unfold compose
  cases Message.encode id payload <;> simp [Except.map, eq_comm]

/-- Over what the payload writes stand the publisher's correlation id and the organisation. -/
theorem attributeValue_compose (h : compose id ctx payload organisation = .ok m) (key : String) :
    m.attributeValue key =
      if key = Message.organisationKey then
        (organisation.map Uuid.text).or (C.written payload key)
      else if key = Message.correlationKey then ctx.correlationId.or (C.written payload key)
      else
        (C.written payload key).or
          (if key = Message.typeInfoKey then some (C.tag kind) else none) := by
  obtain ⟨own, hown, rfl⟩ := compose_eq_ok_iff.mp h
  simp only [Message.attributeValue_withAttribute?, Message.attributeValue_encode hown]
  split
  · subst_vars
    rw [if_neg (by decide), if_neg (by decide), Option.or_none]
  · split
    · subst_vars
      rw [if_neg (by decide), Option.or_none]
    · rfl

/-- The tag that a published message bears: the payload's own, unless it writes another. -/
theorem typeInfo_compose (h : compose id ctx payload organisation = .ok m) :
    m.typeInfo = some ((C.written payload Message.typeInfoKey).getD (C.tag kind)) := by
  rw [Message.typeInfo, attributeValue_compose h, if_neg (by decide), if_neg (by decide),
    if_pos rfl]
  cases C.written payload Message.typeInfoKey <;> rfl

/-- The chain of work that a published message names. -/
theorem correlation_compose (h : compose id ctx payload organisation = .ok m) :
    m.attributeValue Message.correlationKey =
      ctx.correlationId.or (C.written payload Message.correlationKey) := by
  rw [attributeValue_compose h, if_neg (by decide), if_pos rfl]

/-- The organisation that is read from a published message. -/
theorem organisation_compose (h : compose id ctx payload organisation = .ok m) :
    m.organisation =
      organisation.or ((C.written payload Message.organisationKey).bind Uuid.parse) := by
  rw [Message.organisation, attributeValue_compose h, if_pos rfl]
  cases organisation with
  | none => rfl
  | some organisation => simp [Uuid.parse_text]

/-- A payload that can be written is published with its text as the body. -/
theorem body_compose (id : String) (ctx : Context) (organisation : Option Uuid) {body : String}
    (h : C.encode payload = .ok body) :
    ∃ m, compose id ctx payload organisation = .ok m ∧ m.body = body := by
  obtain ⟨own, hown, hbody⟩ := Message.body_encode id h
  refine ⟨_, compose_eq_ok_iff.mpr ⟨own, hown, rfl⟩, ?_⟩
  rw [Message.body_withAttribute?, Message.body_withAttribute?, hbody]

/-! ## Sending and reading -/

/-- Send a message to the queue of a payload type, an identifier having been drawn for it and the
log telling of it. -/
def post [Transport C τ] (f : Facade C ρ) (kind : C.Kind) (message : Message)
    (log : List LogEntry) (x : Exchange C τ) : Except DispatchError Unit × Exchange C τ :=
  let sent := Transport.send (f.queueName (C.tag kind)) message
    ⟨{ x.session with nextId := x.session.nextId + 1, log }, x.transport⟩
  (sent.1.mapError .transport, sent.2)

/-- To publish is to send the composed message. -/
theorem publish_eq_post [Transport C τ] (f : Facade C ρ) {x : Exchange C τ}
    (h : compose (Uuid.random x.session.nextId).text ctx payload organisation = .ok m) :
    ∃ log, f.publish ctx payload organisation x = f.post kind m log x := by
  refine ⟨x.session.log ++ [⟨x.session.background, .debug, "publishing message",
    [("queue", .text (f.queueName (C.tag kind))), ("type_name", .text (C.tag kind)),
      ("message_id", .text m.id)]⟩], ?_⟩
  simp only [publish, bind_apply, Exchange.act, Session.draw, h, Session.report, post]
  generalize Transport.send (C := C) (τ := τ) (f.queueName (C.tag kind)) m _ = sent
  obtain ⟨_ | _, _⟩ := sent <;> rfl

variable {run : ρ → Context → Message → (kind : C.Kind) → C.Value kind →
  Activity C (Except DispatchError Unit)}

/-- Read a message as a payload type, and run it for the system. -/
def readAs (f : Facade C ρ)
    (run : ρ → Context → Message → (kind : C.Kind) → C.Value kind →
      Activity C (Except DispatchError Unit))
    (kind : C.Kind) (ctx : Context) (message : Message) : Activity C (Except DispatchError Unit) :=
  match message.decode kind with
  | none => return .error (.serialization .unreadable)
  | some payload => run f.registry ctx.asSystem message kind payload

/-- A message is read as the payload type that its tag is routed to. -/
theorem route_of_find {f : Facade C ρ} {tag : String} (htag : m.typeInfo = some tag)
    (hroute : f.routes.find? tag = some kind) (ctx : Context) :
    f.route run ctx m = f.readAs run kind ctx m := by
  rw [route, htag]
  simp only [hroute]
  rfl

/-- A message whose tag is not routed counts as handled, and nobody is called. -/
theorem route_of_unknown {f : Facade C ρ} (h : ∀ tag, m.typeInfo = some tag →
    f.routes.find? tag = none) (ctx : Context) (s : Session C) :
    (f.route run ctx m s).1 = .ok () ∧ (f.route run ctx m s).2.calls = s.calls ∧
      (f.route run ctx m s).2.store = s.store := by
  unfold route
  cases htag : m.typeInfo with
  | none => exact ⟨rfl, rfl, rfl⟩
  | some tag =>
    simp only [h tag htag]
    exact ⟨rfl, rfl, rfl⟩

end Facade

/-! ## Tags -/

/-- A payload keeps its tag if it does not write another one over it. -/
def Catalogue.KeepsTag (C : Catalogue) {kind : C.Kind} (payload : C.Value kind) : Prop :=
  ∀ tag, C.written payload Message.typeInfoKey = some tag → tag = C.tag kind

/-- What a payload writes over its tag leaves the tag as it was exactly if the payload keeps it. -/
theorem Catalogue.keepsTag_iff {kind : C.Kind} {payload : C.Value kind} :
    C.KeepsTag payload ↔
      (C.written payload Message.typeInfoKey).getD (C.tag kind) = C.tag kind := by
  unfold KeepsTag
  cases C.written payload Message.typeInfoKey <;> simp

/-- The message of a payload bears the payload's tag exactly if the payload keeps it, and so does
the message that a façade sends, whatever the transport.  Every façade that routes the tag then
reads the message as the type that it is routed to.  A payload that does not keep its tag is read as
the type of the tag that it writes, or passed over if that one is not routed. -/
theorem Facade.bears_tag_iff {kind : C.Kind} {payload : C.Value kind} {body : String}
    (hbody : C.encode payload = .ok body) :
    (∀ id, ∃ m, Message.encode id payload = .ok m ∧
      (m.typeInfo = some (C.tag kind) ↔ C.KeepsTag payload)) ∧
    ∀ {ρ τ : Type} [Transport C τ] (f : Facade C ρ) (ctx : Context) (organisation : Option Uuid)
      (x : Exchange C τ),
      ∃ m log, f.publish ctx payload organisation x = f.post kind m log x ∧
        (m.typeInfo = some (C.tag kind) ↔ C.KeepsTag payload) ∧
        ∀ {ρ' : Type} (g : Facade C ρ')
          (run : ρ' → Context → Message → (kind : C.Kind) → C.Value kind →
            Activity C (Except DispatchError Unit)) (received : Context),
          (C.KeepsTag payload → ∀ routed, g.routes.find? (C.tag kind) = some routed →
            g.route run received m = g.readAs run routed received m) ∧
          (¬ C.KeepsTag payload → ∃ other, other ≠ C.tag kind ∧
            C.written payload Message.typeInfoKey = some other ∧
            (∀ routed, g.routes.find? other = some routed →
              g.route run received m = g.readAs run routed received m) ∧
            (g.routes.find? other = none → ∀ s, (g.route run received m s).1 = .ok () ∧
              (g.route run received m s).2.calls = s.calls)) := by
  refine ⟨fun id => ?_, fun {ρ τ} _ f ctx organisation x => ?_⟩
  · obtain ⟨m, hm, -⟩ := Message.body_encode id hbody
    refine ⟨m, hm, ?_⟩
    rw [Message.typeInfo, Message.attributeValue_encode hm, if_pos rfl, C.keepsTag_iff]
    cases C.written payload Message.typeInfoKey <;> simp
  · obtain ⟨m, hm, -⟩ := body_compose (Uuid.random x.session.nextId).text ctx organisation hbody
    obtain ⟨log, hsent⟩ := f.publish_eq_post hm
    have htag := typeInfo_compose hm
    refine ⟨m, log, hsent, by rw [htag, Option.some_inj, C.keepsTag_iff], fun g run received => ?_⟩
    refine ⟨fun hkeeps routed hroute => ?_, fun hloses => ?_⟩
    · rw [C.keepsTag_iff.mp hkeeps] at htag
      exact route_of_find htag hroute received
    · cases hwritten : C.written payload Message.typeInfoKey with
      | none => exact absurd (fun tag htag => by simp [hwritten] at htag) hloses
      | some other =>
        rw [hwritten, Option.getD_some] at htag
        refine ⟨other, fun hsame => hloses fun tag h => ?_, rfl, fun routed hroute => ?_,
          fun hnone s => ?_⟩
        · rw [hwritten, Option.some_inj] at h
          exact h ▸ hsame
        · exact route_of_find htag hroute received
        · have hunknown : ∀ tag, m.typeInfo = some tag → g.routes.find? tag = none := by
            intro tag h
            rw [htag, Option.some_inj] at h
            exact h ▸ hnone
          have hpassed : (g.route run received m s).1 = .ok () ∧
              (g.route run received m s).2.calls = s.calls ∧ _ :=
            route_of_unknown hunknown received s
          exact ⟨hpassed.1, hpassed.2.1⟩

/-- A note that writes another tag first and its own tag last keeps it. -/
theorem Facade.bears_tag_of_restored :
    let C := Sample.catalogue fun _ => ""
    let note : C.Value Sample.Kind.note :=
      ⟨"t", 0, [], none, [("TypeInfo", "Ping"), ("TypeInfo", "notes.AddNote")]⟩
    C.encode note = .ok note.toJson.compact ∧ C.KeepsTag note ∧
      ∀ id, ∃ m, Message.encode id note = .ok m ∧ m.typeInfo = some "notes.AddNote" := by
  intro C note
  have hbody : C.encode note = .ok note.toJson.compact := rfl
  have hwritten : C.written note Message.typeInfoKey = some "notes.AddNote" := by decide
  have hkeeps : C.KeepsTag note := C.keepsTag_iff.mpr (by rw [hwritten]; rfl)
  refine ⟨hbody, hkeeps, fun id => ?_⟩
  obtain ⟨m, hm, htag⟩ := (bears_tag_iff hbody).1 id
  exact ⟨m, hm, htag.mpr hkeeps⟩

/-- A note that writes the tag of a ping is passed over by a façade that routes notes, and is read
as a ping by one that routes pings too. -/
theorem Facade.note_loses_tag :
    let C := Sample.catalogue fun _ => ""
    let note : C.Value Sample.Kind.note := ⟨"t", 0, [], none, [("TypeInfo", "Ping")]⟩
    let notes : CommandFacade C := (CommandFacade.start 0 "app").addRoute Sample.Kind.note
    let s : Session C := .start ⟨[], []⟩ 0
    ∃ m, compose "1" .blank note none = .ok m ∧
      m.typeInfo = some "Ping" ∧ "Ping" ≠ C.tag Sample.Kind.note ∧
      notes.routes.find? (C.tag Sample.Kind.note) = some Sample.Kind.note ∧
      (notes.receive .blank m s).1 = .ok () ∧ (notes.receive .blank m s).2.calls = [] ∧
      ∀ run, (notes.addRoute Sample.Kind.ping).route run .blank m =
        (notes.addRoute Sample.Kind.ping).readAs run Sample.Kind.ping .blank m := by
  intro C note notes s
  have hbody : C.encode note = .ok note.toJson.compact := rfl
  have hwritten : C.written note Message.typeInfoKey = some "Ping" := by decide
  obtain ⟨m, hm, -⟩ := body_compose "1" .blank none hbody
  have htag := typeInfo_compose hm
  rw [hwritten, Option.getD_some] at htag
  have hunknown : ∀ tag, m.typeInfo = some tag → notes.routes.find? tag = none := by
    intro tag h
    rw [htag, Option.some_inj] at h
    rw [← h]
    decide
  obtain ⟨hok, hcalls, -⟩ := route_of_unknown hunknown .blank s
  exact ⟨m, hm, htag, by decide, by decide, hok, hcalls,
    fun run => route_of_find htag (by decide) .blank⟩

end Switchboard
