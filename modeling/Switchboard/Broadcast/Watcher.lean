import Switchboard.Broadcast.Channel
import Switchboard.Handler

/-!
# Watchers

One watcher for each handler of a broadcast event.  It lists the channel again and again, each time
waiting for the index to move past the last one, and hands every event to its handler that the
listing before did not contain.  What was in the history when the handler was registered is passed
over.  A failure is reported and never retried.

Main results:

- Definition {lit}`Watcher.observe`: what a watcher does with the answer of a listing.
- Definition {lit}`Watcher.nextIndex`: the index that the next listing waits for.
- Theorem {lit}`Watcher.nextIndex_of_le`: an index that does not fall is waited for.
-/

namespace Switchboard

variable {C : Catalogue}

/-- A watcher of the events of one payload type. -/
structure Watcher (C : Catalogue) where
  kind : C.Kind
  handler : EventHandler (C.Value kind)
  /-- The context in which events are handled. -/
  context : Context
  /-- The ids of the events in the listing before. -/
  seen : List String
  /-- The index that the next listing waits for. -/
  lastIndex : Nat
  /-- Whether the watcher is still at work. -/
  running : Bool

namespace Watcher

/-- A watcher that passes over the events of a snapshot. -/
def start (kind : C.Kind) (handler : EventHandler (C.Value kind)) (correlation : String)
    (snapshot : List BroadcastEvent) : Watcher C :=
  ⟨kind, handler, (Context.system correlation).withHandler handler.name,
    snapshot.map BroadcastEvent.id, 0, true⟩

/-- The tag of the events that are watched. -/
def tag (w : Watcher C) : String :=
  C.tag w.kind

/-- The index to wait for after a listing: indexes only move forward, so one that fell means to
start over. -/
def nextIndex (last index : Nat) : Nat :=
  if last ≤ index then index
  else if index = 0 then 1
  else 0

/-- An index that does not fall is waited for. -/
theorem nextIndex_of_le {last index : Nat} (h : last ≤ index) : nextIndex last index = index := by
  simp [nextIndex, h]

/-- Hand an event to the handler, if its text can be read. -/
def examine (w : Watcher C) (event : BroadcastEvent) : Activity C Unit :=
  match C.decode w.kind event.payload with
  | none =>
    Session.report .error "undecodable broadcast event"
      [("event_type", .text w.tag), ("event_id", .text event.id)]
  | some payload => do
    match contain w.tag (← w.handler.call w.context payload) with
    | .ok () => return ()
    | .error e =>
      Session.report .error "broadcast handler failed"
        [("handler", .text w.handler.name), ("event_type", .text w.tag),
          ("error", .text e.message)]

/-- Examine the events that the listing before did not contain. -/
def examineNew (w : Watcher C) : List BroadcastEvent → Activity C Unit
  | [] => return ()
  | event :: rest => do
    if !w.seen.contains event.id then w.examine event
    examineNew w rest

/-- End a watcher. -/
def stop (w : Watcher C) : Activity C (Watcher C) := do
  Session.report .info "broadcast watcher stopped" [("event_type", .text w.tag)]
  return { w with running := false }

/-- Do what the answer of a listing asks for: examine what is new, or end. -/
def observe (w : Watcher C) : Except TransportError Listing → Activity C (Watcher C)
  | .ok listing => do
    w.examineNew listing.events
    return { w with
      seen := listing.events.map BroadcastEvent.id
      lastIndex := nextIndex w.lastIndex listing.index }
  | .error .closed => w.stop
  | .error e => do
    Session.report .error "listing broadcast events failed"
      [("event_type", .text w.tag), ("error", .text e.message)]
    w.stop

end Watcher
end Switchboard
