import Switchboard.Broadcast.Node
import Switchboard.Proofs.Containment.Code

/-!
# Watchers of tamed user code

A watcher whose handler was tamed examines the same events, in the same calls, and goes on as
before.  A failure of its handler is reported and never retried, and a panic counts as a failure, so
neither ends it.

Main results:

- Theorem {lit}`Watcher.examine_tamed`: an event is examined as before.
- Theorem {lit}`Watcher.turn_tamed`: so a turn is as before.
- Theorems {lit}`Node.register_tamed`, {lit}`Node.turnAt_tamed` and
  {lit}`Cluster.settleNodes_tamed`: so is what is done with nodes.
- Theorem {lit}`Watcher.running_turn`: a turn ends a watcher only if the listing fails.
-/

namespace Switchboard

variable {C : Catalogue} {γ : Type} {which : Choice}

/-! ## Watchers -/

namespace Watcher

/-- A watcher whose handler was tamed. -/
def tamed (which : Choice) (w : Watcher C) : Watcher C :=
  { w with handler := w.handler.tamed which w.tag }

/-- A watcher that is started for a tamed handler was tamed. -/
theorem start_tamed (kind : C.Kind) (handler : EventHandler (C.Value kind)) (correlation : String)
    (snapshot : List BroadcastEvent) :
    start kind (handler.tamed which (C.tag kind)) correlation snapshot =
      (start kind handler correlation snapshot).tamed which :=
  rfl

/-- What a watcher does with the outcome of its handler once panics are contained. -/
def conclude (w : Watcher C) : Except HandlerError Unit → Activity C Unit
  | .ok () => return ()
  | .error e =>
    Session.report .error "broadcast handler failed"
      [("handler", .text w.handler.name), ("event_type", .text w.tag), ("error", .text e.message)]

/-- A watcher contains the panics of its handler before it does anything else. -/
theorem examine_of_decode (w : Watcher C) {event : BroadcastEvent} {payload : C.Value w.kind}
    (h : C.decode w.kind event.payload = some payload) :
    w.examine event = (contain w.tag <$> w.handler.call w.context payload) >>= w.conclude := by
  unfold examine
  rw [h]
  rfl

/-- An event is examined as before. -/
theorem examine_tamed (w : Watcher C) (event : BroadcastEvent) :
    (w.tamed which).examine event = w.examine event := by
  cases hdecode : C.decode w.kind event.payload with
  | none =>
    have hdecode' : C.decode (w.tamed which).kind event.payload = none := hdecode
    unfold examine
    rw [hdecode, hdecode']
    rfl
  | some payload =>
    rw [w.examine_of_decode hdecode, (w.tamed which).examine_of_decode hdecode]
    exact congrArg (· >>= w.conclude)
      (w.handler.contain_call_tamed which w.tag w.context payload)

/-- What is new is examined as before. -/
theorem examineNew_tamed (w : Watcher C) (events : List BroadcastEvent) :
    (w.tamed which).examineNew events = w.examineNew events := by
  induction events with
  | nil => rfl
  | cons event rest ih =>
    have hseen : (w.tamed which).seen = w.seen := rfl
    simp only [examineNew, hseen, examine_tamed, ih]

/-- The answer of a listing is taken in as before. -/
theorem observe_tamed (w : Watcher C) (answer : Except TransportError Listing) :
    (w.tamed which).observe answer = tamed which <$> w.observe answer := by
  cases answer with
  | ok listing =>
    simp only [observe, examineNew_tamed, map_bind, map_pure]
    rfl
  | error e => cases e <;> rfl

variable [BroadcastMedium γ]

/-- A turn of a tamed watcher is as before. -/
theorem turn_tamed (wait : Duration) (medium : γ) (w : Watcher C) :
    (w.tamed which).turn wait medium = Prod.map (tamed which) id <$> w.turn wait medium := by
  cases hrunning : w.running with
  | false =>
    have hrunning' : (w.tamed which).running = false := hrunning
    simp only [turn, hrunning, hrunning']
    rfl
  | true =>
    have hrunning' : (w.tamed which).running = true := hrunning
    have hlist : BroadcastMedium.list (w.tamed which).tag (w.tamed which).lastIndex wait medium =
      BroadcastMedium.list w.tag w.lastIndex wait medium := rfl
    simp only [turn, hrunning, hrunning', Bool.not_true, Bool.false_eq_true, if_false, hlist]
    cases BroadcastMedium.list w.tag w.lastIndex wait medium with
    | mk answer left =>
      cases answer with
      | none => rfl
      | some answer =>
        simp only [observe_tamed, bind_map_left, map_bind, map_pure]
        rfl

/-- A turn ends a watcher only if the listing of the channel fails, whatever its handler does. -/
theorem running_turn (wait : Duration) (medium : γ) (w : Watcher C) (s : Session C)
    (hrunning : w.running = true) :
    (w.turn wait medium s).1.1.running = false ↔
      ∃ e, (BroadcastMedium.list w.tag w.lastIndex wait medium).1 = some (.error e) := by
  simp only [turn, hrunning, Bool.not_true, Bool.false_eq_true, if_false]
  cases BroadcastMedium.list w.tag w.lastIndex wait medium with
  | mk answer left =>
    cases answer with
    | none => simp [pure_apply, hrunning]
    | some answer =>
      cases answer with
      | ok listing =>
        have hgoes : (w.observe (.ok listing) s).1.running = true := hrunning
        simp only [bind_apply, pure_apply, hgoes, Option.some_inj, reduceCtorEq, exists_false]
      | error e =>
        have hends : (w.observe (.error e) s).1.running = false := by cases e <;> rfl
        simp only [bind_apply, pure_apply, hends, true_iff]
        exact ⟨e, rfl⟩

/-- Watchers work through answers as before. -/
theorem work_tamed (wait : Duration) (turns : Nat) (medium : γ) (w : Watcher C) :
    work wait turns medium (w.tamed which) =
      Prod.map (tamed which) id <$> work wait turns medium w := by
  induction turns generalizing medium w with
  | zero => rfl
  | succ turns ih =>
    simp only [work, turn_tamed, bind_map_left, map_bind]
    refine bind_congr fun outcome => ?_
    obtain ⟨w', left, answered⟩ := outcome
    cases answered with
    | true => exact ih left w'
    | false => rfl

end Watcher

/-! ## Nodes -/

namespace Node

/-- A node whose handlers were tamed. -/
def tamed (which : Choice) (n : Node C) : Node C :=
  { n with watchers := n.watchers.map (Watcher.tamed which) }

variable [BroadcastMedium γ]

/-- A watcher is started for a tamed handler as before. -/
theorem register_tamed (n : Node C) (kind : C.Kind) (handler : EventHandler (C.Value kind))
    (medium : γ) :
    (n.tamed which).register kind (handler.tamed which (C.tag kind)) medium =
      Prod.map id (Prod.map (tamed which) id) <$> n.register kind handler medium := by
  unfold register
  cases BroadcastMedium.list (C.tag kind) 0 0 medium with
  | mk answer left =>
    cases answer with
    | none => rfl
    | some answer =>
      cases answer with
      | error e => rfl
      | ok listing =>
        simp only [map_bind, map_pure, Watcher.start_tamed, tamed, Prod.map_apply, List.map_append]
        rfl

/-- Give a turn to the watcher at a place, if there is one. -/
def turnAt (place : Nat) (medium : γ) (n : Node C) : Activity C (Node C × γ) :=
  match n.watchers[place]? with
  | none => return (n, medium)
  | some w => do
    let (w, medium, _) ← Session.inBackground (w.turn n.waitTime medium)
    return ({ n with watchers := n.watchers.set place w }, medium)

/-- A single turn is as before. -/
theorem turnAt_tamed (place : Nat) (medium : γ) (n : Node C) :
    (n.tamed which).turnAt place medium =
      Prod.map (tamed which) id <$> n.turnAt place medium := by
  simp only [turnAt, tamed, List.getElem?_map]
  cases n.watchers[place]? with
  | none => rfl
  | some w =>
    have hturn : Session.inBackground ((w.tamed which).turn n.waitTime medium) =
        Prod.map (Watcher.tamed which) id <$> Session.inBackground (w.turn n.waitTime medium) :=
      congrArg Session.inBackground (w.turn_tamed n.waitTime medium)
    simp only [Option.map_some, hturn, bind_map_left, map_bind, map_pure]
    refine bind_congr fun outcome => ?_
    simp only [Prod.map_fst, Prod.map_snd, Prod.map_apply, List.map_set, tamed]
    rfl

end Node

/-! ## Clusters -/

namespace Cluster

variable [BroadcastMedium γ]

/-- Watchers work one after the other as before. -/
theorem workAll_tamed (which : Choice) (wait : Duration) (turns : Nat) (medium : γ)
    (watchers : List (Watcher C)) :
    workAll wait turns medium (watchers.map (Watcher.tamed which)) =
      Prod.map id (List.map (Watcher.tamed which)) <$> workAll wait turns medium watchers := by
  induction watchers generalizing medium with
  | nil => rfl
  | cons w rest ih =>
    have hwork : Session.inBackground ((w.tamed which).work wait turns medium) =
        Prod.map (Watcher.tamed which) id <$> Session.inBackground (w.work wait turns medium) :=
      congrArg Session.inBackground (w.work_tamed wait turns medium)
    simp only [List.map_cons, workAll, hwork, bind_map_left, map_bind, map_pure]
    refine bind_congr fun worked => ?_
    simp only [Prod.map_fst, Prod.map_snd, id, ih, bind_map_left]
    rfl

/-- The watchers of all nodes work as before. -/
theorem settleNodes_tamed (turns : Nat) (medium : γ) (nodes : List (Node C)) :
    settleNodes turns medium (nodes.map (Node.tamed which)) =
      Prod.map id (List.map (Node.tamed which)) <$> settleNodes turns medium nodes := by
  induction nodes generalizing medium with
  | nil => rfl
  | cons n rest ih =>
    simp only [List.map_cons, settleNodes, map_bind, map_pure]
    have hwork := workAll_tamed which n.waitTime turns medium n.watchers
    have hsame : (n.tamed which).watchers = n.watchers.map (Watcher.tamed which) := rfl
    have hwait : (n.tamed which).waitTime = n.waitTime := rfl
    simp only [hsame, hwait, hwork, bind_map_left, ih]
    rfl

end Cluster
end Switchboard
