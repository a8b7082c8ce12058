import Switchboard.Broadcast.Node
import Switchboard.Json.Decode
import Switchboard.Report

/-!
# Reports of broadcasts

The JSON values of listings and of the calls of a scripted channel.  Events are shown under labels
that the reporter gives them.

Main definition:

- Definition {lit}`Listing.toJson`: a listing.
-/

namespace Switchboard

/-- The JSON value of an event. -/
def BroadcastEvent.toJson (label : String → String) (event : BroadcastEvent) : Json :=
  .record [("id", .str (label event.id)), ("name", .str event.name),
    ("payload", .str event.payload)]

/-- The JSON value of a listing. -/
def Listing.toJson (label : String → String) (listing : Listing) : Json :=
  .record [("events", .array (listing.events.map (BroadcastEvent.toJson label))),
    ("index", .nat listing.index)]

/-- The event that a JSON value describes, whose missing texts are empty. -/
def BroadcastEvent.ofJson (value : Json) : BroadcastEvent :=
  ⟨value.textAt "id", value.textAt "name", value.textAt "payload"⟩

/-- The listing that a JSON value describes, whose missing index is zero. -/
def Listing.ofJson (value : Json) : Listing :=
  ⟨(value.get "events").elements.map BroadcastEvent.ofJson,
    ((value.get "index").natBelow? UInt64.size).getD 0⟩

/-- The JSON value of a call of a scripted channel. -/
def MediumCall.toJson : MediumCall → Json
  | fire name payload => .record [("fire", .str name), ("payload", .str payload)]
  | list name waitIndex wait =>
    .record [("list", .str name), ("wait_index", .nat waitIndex), ("wait_ms", wait.toJson)]
  | close => .str "close"

end Switchboard
