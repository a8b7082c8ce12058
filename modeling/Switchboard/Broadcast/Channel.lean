import Switchboard.Clock
import Switchboard.Error

/-!
# Broadcast channels

A short history of events that everybody can list.  Each event that is fired moves an index, and a
listing may wait until the index has moved past one that was seen before.  The history is bounded;
the oldest events make room.

Main results:

- Definition {lit}`Channel.fire`: adds an event and moves the index.
- Definition {lit}`Channel.list`: the events of a name, or that it is too early.
- Theorem {lit}`Channel.index_fire`: each event moves the index by one.
-/

namespace Switchboard

/-- An event in the history of a channel. -/
structure BroadcastEvent where
  id : String
  /-- The tag of the payload type. -/
  name : String
  /-- The text of the payload. -/
  payload : String
deriving DecidableEq

/-- What a listing gives: the events, the oldest first, and the index. -/
structure Listing where
  events : List BroadcastEvent
  index : Nat
deriving DecidableEq

/-- A channel with a bounded history. -/
structure Channel where
  /-- How many events are kept. -/
  capacity : Nat
  /-- The events that are kept, the oldest first. -/
  events : List BroadcastEvent
  /-- One more than the number of events so far.  A channel has 64 bits for it, and 2^64 increments
  are out of reach, so the index never wraps around and is a natural number here. -/
  index : Nat
  closed : Bool
deriving DecidableEq

namespace Channel

/-- An open channel that keeps so many events, but at least one. -/
def start (capacity : Nat) : Channel :=
  ⟨max capacity 1, [], 1, false⟩

/-- How many events are kept if nothing is asked for. -/
def defaultCapacity : Nat :=
  256

/-- The latest events, as many as are kept. -/
def keepLatest (capacity : Nat) (events : List BroadcastEvent) : List BroadcastEvent :=
  events.drop (events.length - capacity)

/-- Add an event to the history and move the index. -/
def fire (c : Channel) (event : BroadcastEvent) : Except TransportError Channel :=
  if c.closed then .error .closed
  else .ok { c with
    events := keepLatest c.capacity (c.events ++ [event])
    index := c.index + 1 }

/-- The events of a name, with the index. -/
def listing (c : Channel) (name : String) : Listing :=
  ⟨c.events.filter fun event => event.name = name, c.index⟩

/-- List the events of a name.  With an index to wait for, it is too early until the index has
moved past it or the deadline has come. -/
def list (c : Channel) (name : String) (waitIndex : Nat) (deadline : Option Instant)
    (now : Instant) : Option (Except TransportError Listing) :=
  if c.closed then some (.error .closed)
  else if waitIndex = 0 ∨ waitIndex < c.index ∨ Instant.reached deadline now = true then
    some (.ok (c.listing name))
  else none

/-- Refuse all further use. -/
def close (c : Channel) : Channel :=
  { c with closed := true }

/-- Each event that is fired moves the index by one. -/
theorem index_fire {c c' : Channel} {event : BroadcastEvent} (h : c.fire event = .ok c') :
    c'.index = c.index + 1 := by
  unfold fire at h
  split at h
  · cases h
  · cases h
    rfl

end Channel
end Switchboard
