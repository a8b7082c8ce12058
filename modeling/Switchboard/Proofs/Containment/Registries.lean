import Mathlib.Logic.Basic
import Switchboard.Command.Registry
import Switchboard.Event.Registry
import Switchboard.Proofs.Containment.Code
import Switchboard.Query.Registry

/-!
# Registries of tamed user code

A registry whose user code was tamed runs commands, events and queries exactly as before: what it
does is the same activity.  It takes user code in as before, too, if that is tamed in the same way.

User code is tamed with the tag under which it is kept.  That is the tag of every payload it is ever
called with, so its panics are reported under no other.

Main results:

- Definition {lit}`Dictionary.mapWithKey`: changes all values by their keys.
- Theorems {lit}`CommandRegistry.execute_tamed`, {lit}`EventRegistry.dispatch_tamed` and
  {lit}`QueryRegistry.execute_tamed`: tamed registries do the same.
- Theorems {lit}`CommandRegistry.register_tamed`, {lit}`EventRegistry.register_tamed` and
  {lit}`QueryRegistry.register_tamed`: and take in the same.
-/

namespace Switchboard

variable {C : Catalogue} {α β : Type}

/-! ## Changing all values of a dictionary -/

namespace Dictionary

/-- Change all values of a dictionary by their keys. -/
def mapWithKey (f : String → α → β) (d : Dictionary α) : Dictionary β :=
  ⟨d.entries.map fun entry => (entry.1, f entry.1 entry.2), by
    rw [List.pairwise_map]
    exact d.sorted⟩

/-- A look-up after all values were changed. -/
@[simp]
theorem find?_mapWithKey (f : String → α → β) (d : Dictionary α) (key : String) :
    (d.mapWithKey f).find? key = (d.find? key).map (f key) := by
  obtain ⟨entries, sorted⟩ := d
  simp only [mapWithKey, find?]
  clear sorted
  induction entries with
  | nil => rfl
  | cons head rest ih =>
    simp only [List.map_cons, search]
    split
    · rename_i hkey
      rw [hkey]
      rfl
    · exact ih

@[simp]
theorem contains_mapWithKey (f : String → α → β) (d : Dictionary α) (key : String) :
    (d.mapWithKey f).contains key = d.contains key := by
  simp [contains]

@[simp]
theorem keys_mapWithKey (f : String → α → β) (d : Dictionary α) :
    (d.mapWithKey f).keys = d.keys := by
  simp [keys, mapWithKey]

/-- A value that is written is changed like all others. -/
theorem mapWithKey_insert (f : String → α → β) (d : Dictionary α) (key : String) (value : α) :
    (d.insert key value).mapWithKey f = (d.mapWithKey f).insert key (f key value) := by
  refine ext_find? fun other => ?_
  rw [find?_mapWithKey, find?_insert, find?_insert, find?_mapWithKey]
  split
  · rename_i hkey
    rw [hkey]
    rfl
  · rfl

end Dictionary

/-! ## Commands -/

/-- An entry of a tag whose handler and check were tamed. -/
def CommandEntry.tamed (which : Choice) (tag : String) (entry : CommandEntry C) :
    CommandEntry C :=
  ⟨entry.kind, entry.handler.tamed which tag, entry.authorizer.tamed which tag⟩

/-- Neither the handler nor the check of an entry ever panics. -/
def CommandEntry.Calm (entry : CommandEntry C) : Prop :=
  entry.handler.behaviour.Calm ∧ entry.authorizer.Calm

theorem CommandEntry.calm_tamed (tag : String) (entry : CommandEntry C) :
    (entry.tamed Choice.all tag).Calm :=
  ⟨Behaviour.calm_tamed .., entry.authorizer.calm_tamed tag⟩

namespace CommandRegistry

/-- A registry whose handlers and checks were tamed. -/
def tamed (which : Choice) (r : CommandRegistry C) : CommandRegistry C :=
  ⟨r.entries.mapWithKey (CommandEntry.tamed which)⟩

/-- A tamed registry takes in what it took in before, tamed. -/
theorem register_tamed (which : Choice) (r : CommandRegistry C) (kind : C.Kind)
    (handler : Handler C.Store (C.Value kind) Unit) (authorizer : Authorizer) :
    (r.tamed which).register kind (handler.tamed which (C.tag kind))
        (authorizer.tamed which (C.tag kind)) =
      (r.register kind handler authorizer).map (tamed which) := by
  simp only [register, tamed, Dictionary.contains_mapWithKey]
  split
  · rfl
  · simp only [Except.map, tamed, Dictionary.mapWithKey_insert]
    rfl

/-- What becomes of a handler's outcome once panics are contained. -/
def conclude (entry : CommandEntry C) :
    Except HandlerError Unit → Activity C (Except DispatchError Unit)
  | .ok () => return .ok ()
  | .error e => do
    Session.report .error "command handler failed"
      [("handler", .text entry.handler.name), ("command_type", .text (C.tag entry.kind)),
        ("error", .text e.message)]
    return .error (.handler e)

/-- The handler's outcome is contained before anything else is done with it. -/
theorem runEntry_eq_bind (entry : CommandEntry C) (ctx : Context)
    (command : C.Value entry.kind) :
    runEntry entry ctx command =
      (contain (C.tag entry.kind) <$> entry.handler.call (.handler entry.kind command)
        (ctx.withHandler entry.handler.name) command) >>= conclude entry :=
  rfl

/-- A tamed entry runs its handler as before. -/
theorem runEntry_tamed (which : Choice) (entry : CommandEntry C) (ctx : Context)
    (command : C.Value entry.kind) :
    runEntry (entry.tamed which (C.tag entry.kind)) ctx command = runEntry entry ctx command := by
  rw [runEntry_eq_bind entry]
  exact congrArg (· >>= conclude entry) (entry.handler.contain_call_tamed which (C.tag entry.kind)
    (.handler entry.kind command) (ctx.withHandler entry.handler.name) command)

/-- A tamed registry executes commands as before. -/
theorem execute_tamed (which : Choice) (r : CommandRegistry C) (ctx : Context)
    (organisation : Option Uuid) {kind : C.Kind} (command : C.Value kind) :
    (r.tamed which).execute ctx organisation command = r.execute ctx organisation command := by
  simp only [execute, tamed, Dictionary.find?_mapWithKey]
  cases r.entries.find? (C.tag kind) with
  | none => rfl
  | some entry =>
    simp only [Option.map_some, CommandEntry.tamed, Authorizer.authorize_tamed]
    refine bind_congr fun checked => ?_
    split
    · rfl
    · split
      · rename_i hkind
        subst hkind
        exact runEntry_tamed which entry ctx command
      · rfl

end CommandRegistry

/-! ## Events -/

/-- The handlers of a tag, tamed. -/
def EventSlot.tamed (which : Choice) (tag : String) (slot : EventSlot C) : EventSlot C :=
  ⟨slot.kind, slot.handlers.map (EventHandler.tamed which tag)⟩

namespace EventRegistry

/-- A registry whose handlers were tamed. -/
def tamed (which : Choice) (r : EventRegistry C) : EventRegistry C :=
  ⟨r.slots.mapWithKey (EventSlot.tamed which)⟩

/-- A tamed registry takes in what it took in before, tamed. -/
theorem register_tamed (which : Choice) (r : EventRegistry C) (kind : C.Kind)
    (handler : EventHandler (C.Value kind)) :
    (r.tamed which).register kind (handler.tamed which (C.tag kind)) =
      (r.register kind handler).map (tamed which) := by
  simp only [register, tamed, Dictionary.find?_mapWithKey]
  cases r.slots.find? (C.tag kind) with
  | none =>
    simp only [Option.map_none, Except.map, tamed, Dictionary.mapWithKey_insert]
    rfl
  | some slot =>
    obtain ⟨other, handlers⟩ := slot
    simp only [Option.map_some, EventSlot.tamed]
    split
    · rename_i hkind
      subst hkind
      simp only [Except.map, tamed, Dictionary.mapWithKey_insert, EventSlot.tamed, List.map_append]
      rfl
    · rfl

/-- What becomes of a handler's outcome once panics are contained: a failure is noted, and the other
handlers run in either case. -/
def conclude (kind : C.Kind) (handlerName : String) (index : Nat)
    (others : Activity C (List HandlerFailure)) :
    Except HandlerError Unit → Activity C (List HandlerFailure)
  | .ok () => others
  | .error e => do
    Session.report .error "event handler failed"
      [("handler", .text handlerName), ("event_type", .text (C.tag kind)),
        ("index", .number index), ("error", .text e.message)]
    return ⟨index, e⟩ :: (← others)

/-- Each handler's outcome is contained before anything else is done with it. -/
theorem runFrom_cons {kind : C.Kind} (ctx : Context) (event : C.Value kind) (index : Nat)
    (handler : EventHandler (C.Value kind)) (rest : List (EventHandler (C.Value kind))) :
    runFrom ctx event index (handler :: rest) =
      (contain (C.tag kind) <$> handler.call (ctx.withHandler handler.name) event) >>=
        conclude kind handler.name index (runFrom ctx event (index + 1) rest) :=
  rfl

/-- Tamed handlers run as before, and fail with the same failures. -/
theorem runFrom_tamed (which : Choice) {kind : C.Kind} (ctx : Context) (event : C.Value kind)
    (index : Nat) (handlers : List (EventHandler (C.Value kind))) :
    runFrom ctx event index (handlers.map (EventHandler.tamed which (C.tag kind))) =
      runFrom ctx event index handlers := by
  induction handlers generalizing index with
  | nil => rfl
  | cons handler rest ih =>
    rw [List.map_cons, runFrom_cons, runFrom_cons, ih]
    exact congrArg (· >>= conclude kind handler.name index (runFrom ctx event (index + 1) rest))
      (handler.contain_call_tamed which (C.tag kind) (ctx.withHandler handler.name) event)

/-- A tamed registry runs the handlers of an event as before. -/
theorem dispatch_tamed (which : Choice) (r : EventRegistry C) (ctx : Context) {kind : C.Kind}
    (event : C.Value kind) : (r.tamed which).dispatch ctx event = r.dispatch ctx event := by
  simp only [dispatch, tamed, Dictionary.find?_mapWithKey]
  cases r.slots.find? (C.tag kind) with
  | none => rfl
  | some slot =>
    obtain ⟨other, handlers⟩ := slot
    simp only [Option.map_some, EventSlot.tamed]
    split
    · rename_i hkind
      subst hkind
      simp only [runFrom_tamed]
    · rfl

/-- Taming leaves the names of handlers alone. -/
theorem handlerNames_tamed (which : Choice) (r : EventRegistry C) (tag : String) :
    (r.tamed which).handlerNames tag = r.handlerNames tag := by
  simp only [handlerNames, tamed, Dictionary.find?_mapWithKey]
  cases r.slots.find? tag with
  | none => rfl
  | some slot =>
    simp only [Option.map_some, EventSlot.tamed, List.map_map]
    rfl

end EventRegistry

/-! ## Queries -/

/-- An entry of a tag whose query and filter were tamed. -/
def QueryEntry.tamed (which : Choice) (tag : String) {answer : C.Answer}
    (entry : QueryEntry C answer) : QueryEntry C answer :=
  ⟨entry.kind, entry.query.tamed which tag, entry.filter.tamed which tag⟩

/-- Neither the query nor the filter of an entry ever panics. -/
def QueryEntry.Calm {answer : C.Answer} (entry : QueryEntry C answer) : Prop :=
  entry.query.behaviour.Calm ∧ entry.filter.Calm

theorem QueryEntry.calm_tamed (tag : String) {answer : C.Answer} (entry : QueryEntry C answer) :
    (entry.tamed Choice.all tag).Calm :=
  ⟨Behaviour.calm_tamed .., entry.filter.calm_tamed tag⟩

namespace QueryShelf

/-- The queries under a tag, tamed. -/
def tamed (which : Choice) (tag : String) (shelf : QueryShelf C) : QueryShelf C :=
  ⟨fun answer => (shelf.find? answer).map (QueryEntry.tamed which tag)⟩

/-- A query that is put on a shelf is tamed like all others. -/
theorem insert_tamed (which : Choice) (tag : String) (shelf : QueryShelf C) (answer : C.Answer)
    (entry : QueryEntry C answer) :
    (shelf.insert answer entry).tamed which tag =
      (shelf.tamed which tag).insert answer (entry.tamed which tag) := by
  simp only [tamed, insert, QueryShelf.mk.injEq]
  funext other
  split
  · rename_i hanswer
    subst hanswer
    rfl
  · rfl

end QueryShelf

namespace QueryRegistry

/-- A registry whose queries and filters were tamed. -/
def tamed (which : Choice) (r : QueryRegistry C) : QueryRegistry C :=
  ⟨r.shelves.mapWithKey (QueryShelf.tamed which)⟩

theorem shelf_tamed (which : Choice) (r : QueryRegistry C) (tag : String) :
    (r.tamed which).shelf tag = (r.shelf tag).tamed which tag := by
  simp only [shelf, tamed, Dictionary.find?_mapWithKey]
  cases r.shelves.find? tag <;> rfl

/-- A tamed registry takes in what it took in before, tamed. -/
theorem register_tamed (which : Choice) (r : QueryRegistry C) (kind : C.Kind) (answer : C.Answer)
    (query : Handler C.Store (C.Value kind) (Option (Result (C.Item answer))))
    (filter : ResultFilter (C.Item answer)) :
    (r.tamed which).register kind answer (query.tamed which (C.tag kind))
        (filter.tamed which (C.tag kind)) =
      (r.register kind answer query filter).map (tamed which) := by
  simp only [register, shelf_tamed, QueryShelf.tamed, Option.isSome_map]
  split
  · rfl
  · simp only [Except.map, tamed, Dictionary.mapWithKey_insert, QueryShelf.insert_tamed]
    rfl

/-- What becomes of a query's outcome once panics are contained: what it found is filtered. -/
def conclude {answer : C.Answer} (entry : QueryEntry C answer)
    (filtered : Result (C.Item answer) →
      Activity C (Except DispatchError (Result (C.Item answer)))) :
    Except HandlerError (Option (Result (C.Item answer))) →
      Activity C (Except DispatchError (Option (Result (C.Item answer))))
  | .error e => do
    Session.report .error "query failed"
      [("handler", .text entry.query.name), ("criteria_type", .text (C.tag entry.kind)),
        ("error", .text e.message)]
    return .error (.handler e)
  | .ok none => return .ok none
  | .ok (some found) => do return (← filtered found).map some

/-- The outcomes of the query and of the filter are each contained before anything else is done
with them. -/
theorem runEntry_eq_bind {answer : C.Answer} (entry : QueryEntry C answer) (ctx : Context)
    (criteria : C.Value entry.kind) :
    runEntry entry ctx criteria =
      (contain (C.tag entry.kind) <$> entry.query.call (.query entry.kind criteria)
        (ctx.withHandler entry.query.name) criteria) >>=
      conclude entry fun found => containCheck (C.tag entry.kind) <$>
        entry.filter.call (ctx.withHandler entry.query.name) found :=
  rfl

/-- A tamed entry runs its query, and filters what it finds, as before. -/
theorem runEntry_tamed (which : Choice) {answer : C.Answer} (entry : QueryEntry C answer)
    (ctx : Context) (criteria : C.Value entry.kind) :
    runEntry (entry.tamed which (C.tag entry.kind)) ctx criteria = runEntry entry ctx criteria := by
  have hfilter := funext fun found => entry.filter.containCheck_call_tamed (C := C) which
    (C.tag entry.kind) (ctx.withHandler entry.query.name) found
  rw [runEntry_eq_bind entry]
  exact congrArg₂ (fun result filtered => result >>= conclude entry filtered)
    (entry.query.contain_call_tamed which (C.tag entry.kind) (.query entry.kind criteria)
      (ctx.withHandler entry.query.name) criteria) hfilter

/-- A tamed registry executes queries as before. -/
theorem execute_tamed (which : Choice) (r : QueryRegistry C) (ctx : Context) {kind : C.Kind}
    (criteria : C.Value kind) (answer : C.Answer) :
    (r.tamed which).execute ctx criteria answer = r.execute ctx criteria answer := by
  simp only [execute, tamed, Dictionary.find?_mapWithKey]
  cases r.shelves.find? (C.tag kind) with
  | none => rfl
  | some shelf =>
    simp only [Option.map_some, QueryShelf.tamed]
    cases shelf.find? answer with
    | none => rfl
    | some entry =>
      simp only [Option.map_some, QueryEntry.tamed]
      split
      · rename_i hkind
        subst hkind
        exact runEntry_tamed which entry ctx criteria
      · rfl

/-- A tamed registry writes the same over an output. -/
theorem executeInto_tamed (which : Choice) (r : QueryRegistry C) (ctx : Context) {kind : C.Kind}
    (criteria : C.Value kind) (answer : C.Answer) (output : Option (Result (C.Item answer))) :
    (r.tamed which).executeInto ctx criteria answer output =
      r.executeInto ctx criteria answer output := by
  simp only [executeInto, execute_tamed]

end QueryRegistry
end Switchboard
