import Switchboard.Proofs.Event.Dispatch
import Switchboard.Proofs.Facade.Imprint
import Switchboard.Proofs.Network.Enlistment

/-!
# What a façade makes of a message

A façade gives a message to the handlers that it holds for the message's tag.  If it holds none, the
message counts as handled although nobody is called.

Main results:

- Theorem {lit}`AnyFacade.Holds.receive_of_stranger`: a message with a tag that nobody here takes.
- Theorem {lit}`AnyFacade.Holds.receive_of_mem`: a message with a tag that somebody here takes.
-/

namespace Switchboard

variable {C : Catalogue}

/-! ## What handlers are given -/

namespace Enlistment

/-- The number of the handler. -/
def callee : Enlistment C → Nat
  | command _ entry => entry.handler.callee
  | event _ _ handler => handler.callee

/-- A handler that succeeds whatever it is given, behind a check that lets the system through. -/
def NeverFails : Enlistment C → Prop
  | command _ entry =>
    (∀ n ctx organisation, ctx.isSystem = true →
      (entry.authorizer.decide n ctx organisation).succeeded = true) ∧ entry.handler.NeverFails
  | event _ _ handler => handler.NeverFails

/-- A handler takes the messages that bear the tag of its payload type. -/
def Takes (e : Enlistment C) (m : Message) : Prop :=
  m.typeInfo = some e.tag

instance (e : Enlistment C) (m : Message) : Decidable (e.Takes m) :=
  inferInstanceAs (Decidable (_ = _))

/-- What a handler is given of a message that it takes. -/
def given? (e : Enlistment C) (m : Message) : Option (Nat × Σ kind : C.Kind, C.Value kind) :=
  if e.Takes m then (m.decode e.kind).map fun payload => (e.callee, ⟨e.kind, payload⟩) else none

theorem given?_of_takes {e : Enlistment C} {m : Message} (h : e.Takes m) {kind : C.Kind}
    (hkind : e.kind = kind) {payload : C.Value kind} (hdecode : m.decode kind = some payload) :
    e.given? m = some (e.callee, ⟨kind, payload⟩) := by
  subst hkind
  rw [given?, if_pos h, hdecode]
  rfl

end Enlistment

/-- Calls of handlers in their order give the payload to one after the other. -/
theorem filterMap_served?_of_serves {ctx : Context} {kind : C.Kind} {event : C.Value kind}
    {handlers : List (EventHandler (C.Value kind))} {calls : List (Call C)}
    (h : List.Forall₂ (fun handler call =>
      call.Serves handler.callee (ctx.withHandler handler.name) event) handlers calls) :
    calls.filterMap Call.served? = handlers.map fun handler => (handler.callee, ⟨kind, event⟩) := by
  induction h with
  | nil => rfl
  | cons hserves _ ih =>
    rw [List.filterMap_cons_some hserves.served?_eq, ih]
    rfl

/-! ## Messages that are routed -/

/-- A message that cannot be read as the payload type that its tag is routed to fails. -/
theorem Facade.route_of_unreadable {ρ : Type} {f : Facade C ρ}
    {run : ρ → Context → Message → (kind : C.Kind) → C.Value kind →
      Activity C (Except DispatchError Unit)}
    {m : Message} {tag : String} {kind : C.Kind} (htag : m.typeInfo = some tag)
    (hroute : f.routes.find? tag = some kind) (hdecode : m.decode kind = none) (ctx : Context)
    (s : Session C) : f.route run ctx m s = (.error (.serialization .unreadable), s) := by
  rw [route_of_find htag hroute, readAs, hdecode]
  rfl

/-- A command that is received and can be read is checked.  If its handler never fails, behind a
check that lets the system through, it is handled, and the handler is given the command. -/
theorem CommandFacade.receive_of_find {f : CommandFacade C} {entry : CommandEntry C}
    (hentry : f.registry.entries.find? (C.tag entry.kind) = some entry)
    (hroute : f.routes.find? (C.tag entry.kind) = some entry.kind) {m : Message}
    (htag : m.typeInfo = some (C.tag entry.kind)) {command : C.Value entry.kind}
    (hdecode : m.decode entry.kind = some command) (ctx : Context) (s : Session C) :
    ∃ first new, (f.receive ctx m s).2.calls = s.calls ++ first :: new ∧
      ((Enlistment.command f.address entry).NeverFails → (f.receive ctx m s).1 = .ok () ∧
        (first :: new).filterMap Call.served? =
          [(entry.handler.callee, ⟨entry.kind, command⟩)]) := by
  have hreceive : f.receive ctx m s =
      f.registry.execute ctx.asSystem m.organisation command s := by
    rw [receive, Facade.route_of_find htag hroute, Facade.readAs, hdecode]
  rw [hreceive]
  by_cases hnever : (Enlistment.command f.address entry).NeverFails
  · obtain ⟨hok, check, call, hcalls, hchecks, hserves⟩ :=
      CommandRegistry.execute_of_neverFails hentry
        (fun n => hnever.1 n ctx.asSystem m.organisation rfl) hnever.2 command s
    refine ⟨check, [call], hcalls, fun _ => ⟨hok, ?_⟩⟩
    rw [List.filterMap_cons_none hchecks.served?_eq, List.filterMap_cons_some hserves.served?_eq,
      List.filterMap_nil]
  · rcases f.registry.calls_execute ctx.asSystem m.organisation command s with
      ⟨hnone, -⟩ | ⟨-, check, new, -, -, hcalls, -⟩
    · rw [hnone] at hentry
      cases hentry
    · exact ⟨check, new, hcalls, fun h => absurd h hnever⟩

/-- An event that is received and can be read is dispatched for the system. -/
theorem EventFacade.receive_eq_dispatch {f : EventFacade C} {kind : C.Kind}
    (hroute : f.routes.find? (C.tag kind) = some kind) {m : Message}
    (htag : m.typeInfo = some (C.tag kind)) {event : C.Value kind}
    (hdecode : m.decode kind = some event) (ctx : Context) (s : Session C) :
    f.receive ctx m s = f.registry.dispatch ctx.asSystem event s := by
  rw [receive, Facade.route_of_find htag hroute, Facade.readAs, hdecode]

/-- Then it is given to its handlers.  If none of them ever fails, it is handled. -/
theorem EventFacade.receive_of_find {f : EventFacade C} {slot : EventSlot C}
    (hslot : f.registry.slots.find? (C.tag slot.kind) = some slot)
    (hroute : f.routes.find? (C.tag slot.kind) = some slot.kind) {m : Message}
    (htag : m.typeInfo = some (C.tag slot.kind)) {event : C.Value slot.kind}
    (hdecode : m.decode slot.kind = some event) (ctx : Context) (s : Session C) :
    ∃ new, (f.receive ctx m s).2.calls = s.calls ++ new ∧
      new.filterMap Call.served? =
        slot.handlers.map (fun handler => (handler.callee, ⟨slot.kind, event⟩)) ∧
      ((∀ handler ∈ slot.handlers, handler.NeverFails) → (f.receive ctx m s).1 = .ok ()) := by
  obtain ⟨new, hcalls, hserves, -⟩ :=
    EventRegistry.calls_runFrom ctx.asSystem event 0 slot.handlers s
  rw [receive_eq_dispatch hroute htag hdecode, EventRegistry.dispatch_of_find hslot]
  exact ⟨new, hcalls, filterMap_served?_of_serves hserves,
    fun hnever => if_pos (EventRegistry.runFrom_of_neverFails _ _ _ hnever s)⟩

namespace AnyFacade

/-! ## The handlers of a tag -/

theorem mem_roster_commands {f : CommandFacade C} {tag : String} {e : Enlistment C} :
    e ∈ (commands f).roster tag ↔
      ∃ entry, f.registry.entries.find? tag = some entry ∧ e = .command f.address entry := by
  simp [roster, eq_comm]

theorem mem_roster_events {f : EventFacade C} {tag : String} {e : Enlistment C} :
    e ∈ (events f).roster tag ↔ ∃ slot, f.registry.slots.find? tag = some slot ∧
      ∃ handler ∈ slot.handlers, e = .event f.address slot.kind handler := by
  simp only [roster]
  cases f.registry.slots.find? tag with
  | none => simp
  | some slot => simp [eq_comm]

/-- All handlers of a tag take the same payload type. -/
theorem kind_of_mem_roster {f : AnyFacade C} {tag : String} {e e' : Enlistment C}
    (h : e ∈ f.roster tag) (h' : e' ∈ f.roster tag) : e.kind = e'.kind := by
  cases f with
  | commands f =>
    obtain ⟨entry, hentry, rfl⟩ := mem_roster_commands.mp h
    obtain ⟨entry', hentry', rfl⟩ := mem_roster_commands.mp h'
    rw [hentry, Option.some_inj] at hentry'
    rw [hentry']
  | events f =>
    obtain ⟨slot, hslot, handler, -, rfl⟩ := mem_roster_events.mp h
    obtain ⟨slot', hslot', handler', -, rfl⟩ := mem_roster_events.mp h'
    rw [hslot, Option.some_inj] at hslot'
    subst hslot'
    rfl

/-! ## Receiving -/

namespace Holds

variable {f : AnyFacade C} {address : Nat} {known : List (Enlistment C)} {e : Enlistment C}
  {m : Message}

theorem mem_roster (h : f.Holds address known) {tag : String} :
    e ∈ f.roster tag ↔ e ∈ known ∧ e.address = address ∧ e.tag = tag := by
  rw [h.roster, List.mem_filter, decide_eq_true_iff]

/-- The tag of a handler is routed to the payload type that the handler takes. -/
theorem find?_routes (h : f.Holds address known) (hmem : e ∈ known)
    (haddress : e.address = address) : f.outline.routes.find? e.tag = some e.kind := by
  have hroster : e ∈ f.roster e.tag := h.mem_roster.mpr ⟨hmem, haddress, rfl⟩
  obtain ⟨first, rest, hfirst⟩ := List.exists_cons_of_ne_nil (List.ne_nil_of_mem hroster)
  have hkind : first.kind = e.kind :=
    kind_of_mem_roster (by rw [hfirst]; exact List.mem_cons_self) hroster
  rw [h.routes, hfirst, List.head?_cons, Option.map_some, hkind]

/-- Other tags are not routed. -/
theorem find?_routes_eq_none (h : f.Holds address known) {tag : String}
    (hnone : ∀ e ∈ known, e.address = address → e.tag ≠ tag) :
    f.outline.routes.find? tag = none := by
  have hempty : f.roster tag = [] := by
    refine List.eq_nil_iff_forall_not_mem.mpr fun e hmem => ?_
    obtain ⟨hknown, haddress, htag⟩ := h.mem_roster.mp hmem
    exact hnone e hknown haddress htag
  rw [h.routes, hempty]
  rfl

/-- A message that nobody here takes counts as handled, and nobody is called. -/
theorem receive_of_stranger (h : f.Holds address known)
    (hnone : ∀ e ∈ known, e.address = address → ¬ e.Takes m) (ctx : Context) (s : Session C) :
    (f.receive ctx m s).1 = .ok () ∧ (f.receive ctx m s).2.calls = s.calls := by
  have hroute : ∀ tag, m.typeInfo = some tag → f.outline.routes.find? tag = none := by
    intro tag htag
    refine h.find?_routes_eq_none fun e hmem haddress hsame => hnone e hmem haddress ?_
    rw [Enlistment.Takes, htag, hsame]
  cases f with
  | commands f =>
    obtain ⟨hok, hcalls, -⟩ := Facade.route_of_unknown (f := f) hroute ctx s
    exact ⟨hok, hcalls⟩
  | events f =>
    obtain ⟨hok, hcalls, -⟩ := Facade.route_of_unknown (f := f) hroute ctx s
    exact ⟨hok, hcalls⟩

/-- A message that somebody here takes fails if it cannot be read. -/
theorem receive_of_unreadable (h : f.Holds address known) (hmem : e ∈ known)
    (haddress : e.address = address) (htakes : e.Takes m) (hdecode : m.decode e.kind = none)
    (ctx : Context) (s : Session C) :
    f.receive ctx m s = (.error (.serialization .unreadable), s) := by
  have hroute := h.find?_routes hmem haddress
  cases f with
  | commands f =>
    change f.receive ctx m s = _
    rw [CommandFacade.receive, Facade.route_of_unreadable (f := f) htakes hroute hdecode]
  | events f =>
    change f.receive ctx m s = _
    rw [EventFacade.receive, Facade.route_of_unreadable (f := f) htakes hroute hdecode]

/-- A message that somebody here takes and that can be read is given to user code.  If none of its
handlers ever fails, it is handled, and they are given its payload in their order. -/
theorem receive_of_mem (h : f.Holds address known) (hmem : e ∈ known)
    (haddress : e.address = address) (htakes : e.Takes m) {payload : C.Value e.kind}
    (hdecode : m.decode e.kind = some payload) (ctx : Context) (s : Session C) :
    ∃ new, new ≠ [] ∧ (f.receive ctx m s).2.calls = s.calls ++ new ∧
      ((∀ e' ∈ f.roster e.tag, e'.NeverFails) → (f.receive ctx m s).1 = .ok () ∧
        new.filterMap Call.served? =
          (f.roster e.tag).map fun e' => (e'.callee, ⟨e.kind, payload⟩)) := by
  have hroute := h.find?_routes hmem haddress
  have hroster : e ∈ f.roster e.tag := h.mem_roster.mpr ⟨hmem, haddress, rfl⟩
  cases f with
  | commands f =>
    obtain ⟨entry, hentry, rfl⟩ := mem_roster_commands.mp hroster
    obtain ⟨first, new, hcalls, hhandled⟩ :=
      CommandFacade.receive_of_find hentry hroute htakes hdecode ctx s
    refine ⟨first :: new, List.cons_ne_nil _ _, hcalls, fun hnever => ?_⟩
    obtain ⟨hok, hserved⟩ := hhandled (hnever _ hroster)
    refine ⟨hok, hserved.trans ?_⟩
    rw [AnyFacade.roster, hentry]
    rfl
  | events f =>
    obtain ⟨slot, hslot, handler, hhandler, rfl⟩ := mem_roster_events.mp hroster
    obtain ⟨new, hcalls, hserved, hok⟩ :=
      EventFacade.receive_of_find hslot hroute htakes hdecode ctx s
    have hall : (events f).roster (Enlistment.event f.address slot.kind handler).tag =
        slot.handlers.map (.event f.address slot.kind) := by
      rw [AnyFacade.roster, hslot]
    refine ⟨new, ?_, hcalls, fun hnever => ⟨hok fun other hother => ?_, ?_⟩⟩
    · rintro rfl
      have hnone := List.map_eq_nil_iff.mp hserved.symm
      exact absurd hhandler (hnone ▸ List.not_mem_nil)
    · rw [hall] at hnever
      exact hnever _ (List.mem_map_of_mem hother)
    · rw [hserved, hall, List.map_map]
      rfl

end Holds
end AnyFacade
end Switchboard
