import Mathlib.Data.List.Forall2
import Switchboard.Event.Registry
import Switchboard.Proofs.Session

/-!
# The calls of an event

An event is given to each of its handlers once, in the order in which they were registered, whatever
the others make of it.

Main results:

- Theorem {lit}`EventRegistry.calls_runFrom`: the calls on the way of an event.
- Theorem {lit}`EventRegistry.dispatch_of_find`: what becomes of an event that has handlers.
- Theorem {lit}`EventRegistry.follows_dispatch`: an event goes on alike in two contexts that the
  registered handlers cannot tell apart.
-/

namespace Switchboard

variable {C : Catalogue}

/-- An event handler that succeeds whatever it is given. -/
def EventHandler.NeverFails {π : Type} (h : EventHandler π) : Prop :=
  match h.behaviour with
  | .plain run => ∀ n event, (run n event).succeeded = true
  | .withContext run => ∀ n ctx event, (run n ctx event).succeeded = true

theorem EventHandler.NeverFails.toHandler {π : Type} {h : EventHandler π} (hnever : h.NeverFails) :
    (h.toHandler : Handler C.Store π Unit).NeverFails := by
  obtain ⟨callee, name, behaviour⟩ := h
  cases behaviour with
  | plain run => exact hnever
  | withContext run => exact hnever

/-- An event handler cannot tell two contexts apart. -/
def EventHandler.Confuses {π : Type} (h : EventHandler π) (c c' : Context) : Prop :=
  match h.behaviour with
  | .plain _ => True
  | .withContext run => ∀ n event, run n c event = run n c' event

theorem EventHandler.Confuses.toHandler {π : Type} {h : EventHandler π} {c c' : Context}
    (hconfuses : h.Confuses c c') : (h.toHandler : Handler C.Store π Unit).Confuses c c' := by
  obtain ⟨callee, name, behaviour⟩ := h
  cases behaviour with
  | plain run => trivial
  | withContext run => exact hconfuses

theorem EventHandler.confuses_self {π : Type} (h : EventHandler π) (c : Context) :
    h.Confuses c c := by
  unfold Confuses
  split <;> simp

namespace EventRegistry

variable {kind : C.Kind}

/-- Every handler is called once, in the order of registration, and there is no failure if all of
these calls succeed. -/
theorem calls_runFrom (ctx : Context) (event : C.Value kind) (index : Nat)
    (handlers : List (EventHandler (C.Value kind))) (s : Session C) :
    ∃ new, (runFrom ctx event index handlers s).2.calls = s.calls ++ new ∧
      List.Forall₂ (fun handler call =>
        call.Serves handler.callee (ctx.withHandler handler.name) event) handlers new ∧
      ((runFrom ctx event index handlers s).1 = [] ↔ ∀ call ∈ new, call.succeeded = true) := by
  induction handlers generalizing index s with
  | nil => exact ⟨[], (List.append_nil _).symm, .nil, by simp [runFrom, pure_apply]⟩
  | cons handler rest ih =>
    obtain ⟨call, hcall, hsucceeded, hcallee, hinput⟩ := handler.toHandler.calls_call
      (.handler kind event) (ctx.withHandler handler.name) event s
    -- A failure is only reported before the others are called.
    have hrest : ∀ t : Session C, t.calls = s.calls ++ [call] → ∃ new,
        (runFrom ctx event (index + 1) rest t).2.calls = s.calls ++ call :: new ∧
          List.Forall₂ (fun handler call =>
            call.Serves handler.callee (ctx.withHandler handler.name) event)
              (handler :: rest) (call :: new) ∧
          ((runFrom ctx event (index + 1) rest t).1 = [] ↔
            ∀ call ∈ new, call.succeeded = true) := by
      intro t ht
      obtain ⟨new, hnew, hserves, hall⟩ := ih (index + 1) t
      exact ⟨new, by rw [hnew, ht]; simp, .cons ⟨hcallee, hinput⟩ hserves, hall⟩
    simp only [runFrom, bind_apply]
    cases houtcome : contain (C.tag kind)
        (handler.call (ctx.withHandler handler.name) event s).1 with
    | ok _ =>
      obtain ⟨new, hnew, hserves, hall⟩ := hrest _ hcall
      have htrue : call.succeeded = true :=
        hsucceeded.trans (succeeded_of_contain houtcome)
      refine ⟨call :: new, hnew, hserves, ?_⟩
      rw [List.forall_mem_cons, and_iff_right htrue]
      exact hall
    | error e =>
      obtain ⟨new, hnew, hserves, -⟩ := hrest (Session.report .error "event handler failed"
        [("handler", .text handler.name), ("event_type", .text (C.tag kind)),
          ("index", .number index), ("error", .text e.message)]
        (handler.call (ctx.withHandler handler.name) event s).2).2 hcall
      have hfalse : call.succeeded = false := by
        rw [hsucceeded]
        exact Bool.eq_false_iff.mpr fun h => by
          rw [EventHandler.call, contain_of_succeeded h] at houtcome
          cases houtcome
      exact ⟨call :: new, hnew, hserves, by simp [hfalse, bind_apply, map_apply]⟩

/-- Handlers that never fail leave no failures. -/
theorem runFrom_of_neverFails (ctx : Context) (event : C.Value kind) (index : Nat)
    {handlers : List (EventHandler (C.Value kind))}
    (hnever : ∀ handler ∈ handlers, handler.NeverFails) (s : Session C) :
    (runFrom ctx event index handlers s).1 = [] := by
  induction handlers generalizing index s with
  | nil => rfl
  | cons handler rest ih =>
    obtain ⟨hfirst, hrest⟩ := List.forall_mem_cons.mp hnever
    have hsucceeded : (handler.call (ctx.withHandler handler.name) event s).1.succeeded = true :=
      Handler.succeeded_call hfirst.toHandler _ _ _ _
    simp only [runFrom, bind_apply, contain_of_succeeded hsucceeded]
    exact ih (index + 1) hrest _

/-- An event whose tag has handlers for its payload type is given to all of them, and is handled if
none of them fails. -/
theorem dispatch_of_find {r : EventRegistry C} {slot : EventSlot C}
    (hslot : r.slots.find? (C.tag slot.kind) = some slot) (ctx : Context)
    (event : C.Value slot.kind) (s : Session C) :
    r.dispatch ctx event s =
      let run := runFrom ctx event 0 slot.handlers s
      (if run.1 = [] then .ok () else .error (.aggregate ⟨C.tag slot.kind, run.1⟩), run.2) := by
  simp only [dispatch, hslot, bind_apply, dif_pos]
  cases (runFrom ctx event 0 slot.handlers s).1 <;> rfl

/-! ## Contexts that cannot be told apart -/

variable {mask : Context → Context} {c c' : Context}

/-- Handlers that cannot tell two contexts apart go on alike in both. -/
theorem follows_runFrom (hmask : ∀ name, mask (c.withHandler name) = mask (c'.withHandler name))
    (event : C.Value kind) (index : Nat) {handlers : List (EventHandler (C.Value kind))}
    (hconfuses : ∀ handler ∈ handlers,
      handler.Confuses (c.withHandler handler.name) (c'.withHandler handler.name)) :
    Session.Follows mask (runFrom c event index handlers) (runFrom c' event index handlers) := by
  induction handlers generalizing index with
  | nil => exact Session.follows_pure _
  | cons handler rest ih =>
    obtain ⟨hfirst, hrest⟩ := List.forall_mem_cons.mp hconfuses
    refine Session.follows_bind
      (Handler.follows_call hfirst.toHandler (fun store => ?_) event) fun outcome => ?_
    · simp [CallInput.masked, hmask]
    · split
      · exact ih (index + 1) hrest
      · exact Session.follows_bind Session.follows_report fun _ =>
          Session.follows_bind (ih (index + 1) hrest) fun _ => Session.follows_pure _

/-- An event goes on alike in two contexts that the registered handlers cannot tell apart. -/
theorem follows_dispatch {r : EventRegistry C}
    (hmask : ∀ name, mask (c.withHandler name) = mask (c'.withHandler name))
    (hconfuses : ∀ tag slot, r.slots.find? tag = some slot → ∀ handler ∈ slot.handlers,
      handler.Confuses (c.withHandler handler.name) (c'.withHandler handler.name))
    (event : C.Value kind) :
    Session.Follows mask (r.dispatch c event) (r.dispatch c' event) := by
  unfold dispatch
  split
  · exact Session.follows_pure _
  · rename_i slot hslot
    split
    · refine Session.follows_bind (follows_runFrom hmask _ 0 (hconfuses _ _ hslot))
        fun failures => ?_
      split <;> exact Session.follows_pure _
    · exact Session.follows_pure _

end EventRegistry
end Switchboard
