import Switchboard.Handler

/-!
# Events

Any number of handlers per event, run in the order of their registration on the caller's thread.  A
failure stops none of the others; all failures of a dispatch are answered together.

Main results:

- Definition {lit}`EventRegistry.register`: appends a handler.
- Definition {lit}`EventRegistry.dispatch`: runs all handlers and collects the failures.
- Theorem {lit}`EventRegistry.register_eq_ok_iff`: what a registry that takes a handler in becomes.
- Theorem {lit}`EventRegistry.handlerCount_of_register`: a registration adds one handler.
-/

namespace Switchboard

variable {C : Catalogue}

/-- The handlers of one event type, in the order of their registration. -/
structure EventSlot (C : Catalogue) where
  /-- The payload type that the handlers take. -/
  kind : C.Kind
  handlers : List (EventHandler (C.Value kind))

/-- The handlers of events, by tag. -/
structure EventRegistry (C : Catalogue) where
  slots : Dictionary (EventSlot C)

namespace EventRegistry

/-- The registry without handlers. -/
def empty : EventRegistry C :=
  ⟨∅⟩

/-- Append a handler for an event, unless its tag belongs to another payload type. -/
def register (r : EventRegistry C) (kind : C.Kind) (handler : EventHandler (C.Value kind)) :
    Except DispatchError (EventRegistry C) :=
  match r.slots.find? (C.tag kind) with
  | none => .ok ⟨r.slots.insert (C.tag kind) ⟨kind, [handler]⟩⟩
  | some slot =>
    if h : kind = slot.kind then
      .ok ⟨r.slots.insert (C.tag kind) ⟨slot.kind, slot.handlers ++ [h ▸ handler]⟩⟩
    else
      .error (.registration (.eventType (C.tag kind)))

/-- What a registry is after it took a handler in: the handler stands behind the earlier ones of its
tag, all of which take the same payload type. -/
theorem register_eq_ok_iff {r r' : EventRegistry C} {kind : C.Kind}
    {handler : EventHandler (C.Value kind)} :
    r.register kind handler = .ok r' ↔
      ∃ before, (r.slots.find? (C.tag kind) = none ∧ before = [] ∨
          r.slots.find? (C.tag kind) = some ⟨kind, before⟩) ∧
        r' = ⟨r.slots.insert (C.tag kind) ⟨kind, before ++ [handler]⟩⟩ := by
  unfold register
  cases r.slots.find? (C.tag kind) with
  | none => simp [eq_comm]
  | some slot =>
    obtain ⟨other, handlers⟩ := slot
    by_cases hkind : kind = other
    · subst hkind
      simp [eq_comm]
    · simp [hkind, Ne.symm hkind]

/-- Run handlers from a place in the order of registration on, and collect their failures. -/
def runFrom {kind : C.Kind} (ctx : Context) (event : C.Value kind) :
    Nat → List (EventHandler (C.Value kind)) → Activity C (List HandlerFailure)
  | _, [] => return []
  | index, handler :: rest => do
    let outcome ← handler.call (ctx.withHandler handler.name) event
    match contain (C.tag kind) outcome with
    | .ok () => runFrom ctx event (index + 1) rest
    | .error e =>
      Session.report .error "event handler failed"
        [("handler", .text handler.name), ("event_type", .text (C.tag kind)),
          ("index", .number index), ("error", .text e.message)]
      return ⟨index, e⟩ :: (← runFrom ctx event (index + 1) rest)

/-- Run every handler of an event, and answer all failures together. -/
def dispatch (r : EventRegistry C) (ctx : Context) {kind : C.Kind} (event : C.Value kind) :
    Activity C (Except DispatchError Unit) :=
  match r.slots.find? (C.tag kind) with
  | none => return .error (.lookup (.noEventHandler (C.tag kind)))
  | some slot =>
    if h : kind = slot.kind then do
      match ← runFrom ctx (h ▸ event) 0 slot.handlers with
      | [] => return .ok ()
      | failures => return .error (.aggregate ⟨C.tag kind, failures⟩)
    else
      return .error (.registration (.eventType (C.tag kind)))

/-- Whether a tag has a handler. -/
def isRegistered (r : EventRegistry C) (tag : String) : Bool :=
  r.slots.contains tag

/-- The names of the handlers of a tag, in the order of their registration. -/
def handlerNames (r : EventRegistry C) (tag : String) : List String :=
  match r.slots.find? tag with
  | none => []
  | some slot => slot.handlers.map EventHandler.name

/-- How many handlers a tag has. -/
def handlerCount (r : EventRegistry C) (tag : String) : Nat :=
  (r.handlerNames tag).length

/-- The tags that have handlers, in increasing order. -/
def eventTypes (r : EventRegistry C) : List String :=
  r.slots.keys

/-- A registration adds one handler under its tag. -/
theorem handlerCount_of_register {r r' : EventRegistry C} {kind : C.Kind}
    {handler : EventHandler (C.Value kind)} (h : r.register kind handler = .ok r') :
    r'.handlerCount (C.tag kind) = r.handlerCount (C.tag kind) + 1 := by
  obtain ⟨before, ⟨hnone, rfl⟩ | hsome, rfl⟩ := register_eq_ok_iff.mp h
  · simp [handlerCount, handlerNames, hnone]
  · simp [handlerCount, handlerNames, hsome]

end EventRegistry
end Switchboard
