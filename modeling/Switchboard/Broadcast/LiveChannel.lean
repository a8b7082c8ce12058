import Switchboard.Broadcast.Node

/-!
# Channels in time

A channel with a clock, with those who wait for a listing of it, and with the record of all that
was fired.  Whoever waits looks again after everything that happens, and keeps the first answer.

Main results:

- Definition {lit}`LiveChannel.beginList`: begins to wait for a listing.
- Definition {lit}`LiveChannel.await`: lets time pass until the latest wait has ended.
- Theorem {lit}`Listener.look_of_reply`: who has an answer keeps it.
-/

namespace Switchboard

/-- Somebody who waits for a listing. -/
structure Listener where
  name : String
  waitIndex : Nat
  /-- When the wait ends by itself. -/
  deadline : Option Instant
  /-- The answer, once there is one. -/
  reply : Option (Except TransportError Listing)

/-- One look of a listener at a channel, which is the last one if it gets an answer. -/
def Listener.look (channel : Channel) (now : Instant) (l : Listener) : Listener :=
  match l.reply with
  | some _ => l
  | none => { l with reply := channel.list l.name l.waitIndex l.deadline now }

/-- Who has an answer keeps it. -/
theorem Listener.look_of_reply {l : Listener} (h : l.reply.isSome) (channel : Channel)
    (now : Instant) : l.look channel now = l := by
  unfold look
  split
  · rfl
  · rename_i hnone
    simp [hnone] at h

/-- A channel with a clock. -/
structure LiveChannel where
  channel : Channel
  now : Instant
  /-- Those who wait for a listing, in the order in which they began. -/
  listeners : List Listener
  /-- The ids of all events that were fired, the first first. -/
  fired : List String

namespace LiveChannel

/-- A channel at the start of its clock. -/
def start (channel : Channel) : LiveChannel :=
  ⟨channel, 0, [], []⟩

/-- The label of an event: its number among all that were fired. -/
def label (c : LiveChannel) (id : String) : String :=
  match c.fired.findIdx? fun fired => fired = id with
  | some place => "e" ++ Nat.repr (place + 1)
  | none => id

/-- Let all listeners look. -/
def look (c : LiveChannel) : LiveChannel :=
  { c with listeners := c.listeners.map (Listener.look c.channel c.now) }

/-- Let time pass until an instant.  As nothing else happens, it is enough to look then. -/
def passUntil (t : Instant) (c : LiveChannel) : LiveChannel :=
  look { c with now := max c.now t }

/-- Let time pass. -/
def pass (duration : Duration) (c : LiveChannel) : LiveChannel :=
  c.passUntil (c.now + duration)

/-- Begin to wait for a listing, with a first look. -/
def beginList (name : String) (waitIndex : Nat) (wait : Duration) (c : LiveChannel) :
    LiveChannel :=
  let listener : Listener := ⟨name, waitIndex, Instant.after? c.now wait, none⟩
  { c with listeners := c.listeners ++ [listener.look c.channel c.now] }

/-- The latest answer, with the channel after its listener was dismissed. -/
def dismiss (c : LiveChannel) : Option (Except TransportError Listing) × LiveChannel :=
  match c.listeners.getLast?.bind Listener.reply with
  | some answer => (some answer, { c with listeners := c.listeners.dropLast })
  | none => (none, c)

/-- Let time pass until the latest listener has its answer, and dismiss it.  Without an answer its
wait never ends. -/
def await (c : LiveChannel) : Option (Except TransportError Listing) × LiveChannel :=
  match c.listeners.getLast? with
  | some ⟨_, _, some deadline, none⟩ => (c.passUntil deadline).dismiss
  | _ => c.dismiss

/-- Wait for a listing. -/
def list (name : String) (waitIndex : Nat) (wait : Duration) (c : LiveChannel) :
    Option (Except TransportError Listing) × LiveChannel :=
  (c.beginList name waitIndex wait).await

end LiveChannel

instance : BroadcastMedium LiveChannel where
  fire freshId name payload c :=
    match c.channel.fire ⟨freshId, name, payload⟩ with
    | .ok channel =>
      (.ok freshId, LiveChannel.look { c with channel, fired := c.fired ++ [freshId] })
    | .error e => (.error e, c)
  list name waitIndex wait c :=
    (c.channel.list name waitIndex (Instant.after? c.now wait) c.now, c)
  close c := LiveChannel.look { c with channel := c.channel.close }

end Switchboard
