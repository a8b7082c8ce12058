import Switchboard.Broadcast.Watcher

/-!
# Nodes of a broadcast

A node fires its events into a channel that it shares with others, and has a watcher for each of
its handlers.  Handlers see the node's own events too, through their watchers.

Main definitions:

- Definition {lit}`BroadcastMedium`: what a node needs of a channel.
- Definition {lit}`Node.register`: starts a watcher after a snapshot of the history.
- Definition {lit}`Node.dispatch`: fires an event.
- Definition {lit}`Cluster`: nodes that share a channel and a session.
-/

namespace Switchboard

variable {C : Catalogue} {γ : Type}

/-- The operations of a channel that nodes use. -/
class BroadcastMedium (γ : Type) where
  /-- Fire an event of a name; a channel that gives ids itself does not use the fresh one. -/
  fire : (freshId name payload : String) → γ → Except TransportError String × γ
  /-- Begin to list the events of a name.  Without an answer it is too early for one. -/
  list : (name : String) → (waitIndex : Nat) → (wait : Duration) → γ →
    Option (Except TransportError Listing) × γ
  /-- Refuse all further use. -/
  close : γ → γ

/-- A node: how long its listings wait, and its watchers. -/
structure Node (C : Catalogue) where
  waitTime : Duration
  watchers : List (Watcher C)

namespace Node

/-- How long a listing waits if nothing is asked for. -/
def defaultWaitTime : Duration :=
  .ofSeconds 5

/-- A node without handlers. -/
def start (waitTime : Duration) : Node C :=
  ⟨waitTime, []⟩

/-- Start a watcher for a handler; what the channel's history holds now is passed over. -/
def register [BroadcastMedium γ] (n : Node C) (kind : C.Kind)
    (handler : EventHandler (C.Value kind)) (medium : γ) :
    Activity C (Except DispatchError Unit × Node C × γ) := do
  match BroadcastMedium.list (C.tag kind) 0 0 medium with
  | (some (.ok listing), medium) =>
    let watcher := Watcher.start kind handler (← Session.draw) listing.events
    Session.report .info "watching broadcast events" [("event_type", .text (C.tag kind))]
    return (.ok (), { n with watchers := n.watchers ++ [watcher] }, medium)
  | (some (.error e), medium) => return (.error (.transport e), n, medium)
  | (none, medium) => return (.error (.transport .closed), n, medium)

/-- Fire an event. -/
def dispatch [BroadcastMedium γ] {kind : C.Kind} (event : C.Value kind) (medium : γ) :
    Activity C (Except DispatchError Unit × γ) := do
  match C.encode event with
  | .error refusal => return (.error (.serialization (.refused refusal)), medium)
  | .ok payload =>
    match BroadcastMedium.fire (← Session.draw) (C.tag kind) payload medium with
    | (.error e, medium) => return (.error (.transport e), medium)
    | (.ok id, medium) =>
      Session.report .debug "broadcast event fired"
        [("event_type", .text (C.tag kind)), ("event_id", .text id)]
      return (.ok (), medium)

/-- How many watchers a tag has here. -/
def handlerCount (n : Node C) (tag : String) : Nat :=
  n.watchers.countP fun w => w.tag == tag

end Node

namespace Watcher

/-- One turn of a watcher: it lists the channel and does what the answer asks for.  Tells whether
there was an answer. -/
def turn [BroadcastMedium γ] (wait : Duration) (medium : γ) (w : Watcher C) :
    Activity C (Watcher C × γ × Bool) := do
  if !w.running then return (w, medium, false)
  match BroadcastMedium.list w.tag w.lastIndex wait medium with
  | (none, medium) => return (w, medium, false)
  | (some answer, medium) => return (← w.observe answer, medium, true)

/-- Let a watcher work through so many answers, as long as there are any. -/
def work [BroadcastMedium γ] (wait : Duration) :
    Nat → γ → Watcher C → Activity C (Watcher C × γ)
  | 0, medium, w => return (w, medium)
  | turns + 1, medium, w => do
    let (w, medium, answered) ← w.turn wait medium
    if answered then work wait turns medium w else return (w, medium)

end Watcher

/-- Nodes that share a channel and a session. -/
structure Cluster (C : Catalogue) (γ : Type) where
  session : Session C
  medium : γ
  nodes : List (Node C)

namespace Cluster

variable [BroadcastMedium γ] {α : Type}

/-- Let watchers work one after the other, each through so many answers. -/
def workAll (wait : Duration) (turns : Nat) :
    γ → List (Watcher C) → Activity C (γ × List (Watcher C))
  | medium, [] => return (medium, [])
  | medium, w :: rest => do
    let (w, medium) ← Session.inBackground (w.work wait turns medium)
    let (medium, rest) ← workAll wait turns medium rest
    return (medium, w :: rest)

/-- Let the watchers of all nodes work, each through so many answers. -/
def settleNodes (turns : Nat) : γ → List (Node C) → Activity C (γ × List (Node C))
  | medium, [] => return (medium, [])
  | medium, n :: rest => do
    let (medium, watchers) ← workAll n.waitTime turns medium n.watchers
    let (medium, rest) ← settleNodes turns medium rest
    return (medium, { n with watchers } :: rest)

/-- Let the watchers of a cluster work, each through so many answers. -/
def settle (turns : Nat) (cluster : Cluster C γ) : Cluster C γ :=
  let ((medium, nodes), session) := settleNodes turns cluster.medium cluster.nodes cluster.session
  ⟨session, medium, nodes⟩

/-- Use a node together with the channel, if there is one of that place. -/
def onNode (place : Nat) (use : Node C → γ → Activity C (α × Node C × γ)) :
    StateM (Cluster C γ) (Option α) := fun cluster =>
  match cluster.nodes[place]? with
  | none => (none, cluster)
  | some n =>
    let ((value, n, medium), session) := use n cluster.medium cluster.session
    (some value, ⟨session, medium, cluster.nodes.set place n⟩)

/-- Use the channel alone. -/
def carry (f : γ → α × γ) : StateM (Cluster C γ) α := fun cluster =>
  let (value, medium) := f cluster.medium
  (value, { cluster with medium })

/-- Do something in the session alone. -/
def act (activity : Activity C α) : StateM (Cluster C γ) α := fun cluster =>
  let (value, session) := activity cluster.session
  (value, { cluster with session })

end Cluster

/-! ## Scripted channels -/

/-- What was asked of a scripted channel. -/
inductive MediumCall where
  | fire (name payload : String)
  | list (name : String) (waitIndex : Nat) (wait : Duration)
  | close

/-- A channel whose answers are laid down beforehand.  Fires beyond the script succeed and listings
beyond it find the channel closed. -/
structure ScriptedMedium where
  fires : List (Except TransportError String)
  listings : List (Except TransportError Listing)
  calls : List MediumCall

instance : BroadcastMedium ScriptedMedium where
  fire freshId name payload m :=
    let calls := m.calls ++ [.fire name payload]
    match m.fires with
    | [] => (.ok freshId, { m with calls })
    | answer :: rest => (answer, { m with fires := rest, calls })
  list name waitIndex wait m :=
    let calls := m.calls ++ [.list name waitIndex wait]
    match m.listings with
    | [] => (some (.error .closed), { m with calls })
    | answer :: rest => (some answer, { m with listings := rest, calls })
  close m := { m with calls := m.calls ++ [.close] }

end Switchboard
