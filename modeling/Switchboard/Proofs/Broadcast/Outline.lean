import Mathlib.Data.List.Forall2
import Switchboard.Proofs.Broadcast.Vigil

/-!
# What decides which events are examined

Which events a watcher examines depends on their ids and names, on the order of things, and on
nothing else.  Payloads that cannot be read, handlers that fail or panic, and whatever else handlers
do leave no trace in it: two histories that differ only in such things go the same way.

The argument is a simulation.  The outline of a vigil forgets payloads, handlers and calls, and
equal outlines stay equal step by step.

Main results:

- Definition {lit}`Vigil.outline`: what a watcher goes by.
- Theorem {lit}`Vigil.outline_act`: equal outlines stay equal in a step of a watcher.
- Theorem {lit}`WatchedChannel.Alike.run`: histories that are alike go the same way.
-/

namespace Switchboard

variable {C : Catalogue}

/-! ## Channels -/

/-- What of an event decides who examines it. -/
def BroadcastEvent.header (event : BroadcastEvent) : String × String :=
  (event.id, event.name)

namespace Channel

/-- Two channels that differ in payloads at most. -/
structure Alike (c c' : Channel) : Prop where
  capacity : c.capacity = c'.capacity
  headers : c.events.map BroadcastEvent.header = c'.events.map BroadcastEvent.header
  index : c.index = c'.index
  closed : c.closed = c'.closed

theorem Alike.refl (c : Channel) : c.Alike c :=
  ⟨rfl, rfl, rfl, rfl⟩

/-- The ids of the events of a name are found in the headers. -/
theorem ids_named (name : String) (events : List BroadcastEvent) :
    (named name events).map BroadcastEvent.id =
      ((events.map BroadcastEvent.header).filter fun header => header.2 = name).map Prod.fst := by
  rw [named, List.filter_map, List.map_map]
  rfl

theorem header_keepLatest (capacity : Nat) (events : List BroadcastEvent) :
    (keepLatest capacity events).map BroadcastEvent.header =
      (events.map BroadcastEvent.header).drop (events.length - capacity) := by
  rw [keepLatest, List.map_drop]

variable {c c' : Channel}

/-- Channels that are alike show the same ids. -/
theorem Alike.listing (h : c.Alike c') (name : String) :
    (c.listing name).events.map BroadcastEvent.id =
      (c'.listing name).events.map BroadcastEvent.id := by
  have hids := ids_named name c.events
  rw [h.headers, ← ids_named name c'.events] at hids
  exact hids

/-- Channels that are alike answer a listing at the same time, and in the same way. -/
theorem Alike.list (h : c.Alike c') (name : String) (waitIndex : Nat) (deadline : Option Instant)
    (now : Instant) :
    c.list name waitIndex deadline now = none ∧ c'.list name waitIndex deadline now = none ∨
      c.list name waitIndex deadline now = some (.error .closed) ∧
        c'.list name waitIndex deadline now = some (.error .closed) ∨
      c.list name waitIndex deadline now = some (.ok (c.listing name)) ∧
        c'.list name waitIndex deadline now = some (.ok (c'.listing name)) := by
  simp only [Channel.list, h.closed, h.index]
  split
  · exact .inr (.inl ⟨rfl, rfl⟩)
  · split
    · exact .inr (.inr ⟨rfl, rfl⟩)
    · exact .inl ⟨rfl, rfl⟩

/-- Channels that are alike take in an event, or both refuse it. -/
theorem Alike.fire (h : c.Alike c') {event event' : BroadcastEvent}
    (hheader : event.header = event'.header) :
    (∃ e e', c.fire event = .error e ∧ c'.fire event' = .error e') ∨
      ∃ d d', c.fire event = .ok d ∧ c'.fire event' = .ok d' ∧ d.Alike d' := by
  simp only [Channel.fire, h.closed, h.capacity]
  split
  · exact .inl ⟨_, _, rfl, rfl⟩
  · have hevents : (c.events ++ [event]).map BroadcastEvent.header =
        (c'.events ++ [event']).map BroadcastEvent.header := by
      rw [List.map_append, List.map_append, h.headers, List.map_singleton, List.map_singleton,
        hheader]
    have hlength : (c.events ++ [event]).length = (c'.events ++ [event']).length := by
      simpa using congrArg List.length hevents
    refine .inr ⟨_, _, rfl, rfl, rfl, ?_, congrArg (· + 1) h.index, rfl⟩
    rw [header_keepLatest, header_keepLatest, hevents, hlength]

end Channel

/-! ## Watchers -/

/-- What a watcher goes by, and the ids of the events it examined. -/
@[ext]
structure Outline where
  tag : String
  seen : List String
  lastIndex : Nat
  running : Bool
  /-- The ids in the listing in hand, its index, and the ids of what is left of it. -/
  inHand : Option (List String × Nat × List String)
  examined : List String

/-- The ids in a listing, its index, and the ids of what is left of it. -/
def Listing.outline (inHand : Listing × List BroadcastEvent) : List String × Nat × List String :=
  (inHand.1.events.map BroadcastEvent.id, inHand.1.index, inHand.2.map BroadcastEvent.id)

namespace Vigil

/-- The vigil without payloads, handlers and calls. -/
def outline (v : Vigil C) : Outline where
  tag := v.watcher.tag
  seen := v.watcher.seen
  lastIndex := v.watcher.lastIndex
  running := v.watcher.running
  inHand := v.inHand.map Listing.outline
  examined := v.events.map BroadcastEvent.id

variable {v w : Vigil C} {c c' : Channel}

theorem outline_list (hc : c.Alike c') (h : v.outline = w.outline) (count count' : Nat)
    (deadline : Option Instant) (now : Instant) (s t : Session C) :
    (v.act c count (.list deadline now) s).1.outline =
      (w.act c' count' (.list deadline now) t).1.outline := by
  obtain ⟨htag, hseen, hlast, hrunning, hhand, hexamined⟩ := Outline.ext_iff.mp h
  simp only [outline] at htag hseen hlast hrunning hhand hexamined
  have hfree : v.inHand.isNone = w.inHand.isNone := by
    simpa using congrArg Option.isNone hhand
  simp only [act, htag, hlast, hrunning, hfree]
  split
  · rcases hc.list w.watcher.tag w.watcher.lastIndex deadline now with
      ⟨hv, hw⟩ | ⟨hv, hw⟩ | ⟨hv, hw⟩ <;> rw [hv, hw]
    · exact h
    · exact Outline.ext htag hseen hlast rfl hhand hexamined
    · refine Outline.ext htag hseen hlast hrunning ?_ hexamined
      simp only [outline, take, pure_apply, Option.map_some, Listing.outline, hc.listing]
      exact congrArg (fun index => some (_, index, _)) hc.index
  · exact h

theorem outline_examine (h : v.outline = w.outline) (count count' : Nat) (s t : Session C) :
    (v.act c count .examine s).1.outline = (w.act c' count' .examine t).1.outline := by
  obtain ⟨htag, hseen, hlast, hrunning, hhand, hexamined⟩ := Outline.ext_iff.mp h
  simp only [outline] at htag hseen hlast hrunning hhand hexamined
  cases hv : v.inHand with
  | none =>
    have hw : w.inHand = none := by
      rw [hv] at hhand
      exact Option.map_eq_none_iff.mp hhand.symm
    rw [act_examine_of_none _ _ hv, act_examine_of_none _ _ hw]
    exact h
  | some inHand =>
    obtain ⟨listing, rest⟩ := inHand
    rw [hv] at hhand
    obtain ⟨⟨listing', rest'⟩, hw, hsame⟩ := Option.map_eq_some_iff.mp hhand.symm
    obtain ⟨hids, hindex, hrest⟩ :
        listing'.events.map BroadcastEvent.id = listing.events.map BroadcastEvent.id ∧
          listing'.index = listing.index ∧
          rest'.map BroadcastEvent.id = rest.map BroadcastEvent.id := by
      simpa [Listing.outline] using hsame
    cases rest with
    | nil =>
      obtain rfl : rest' = [] := List.map_eq_nil_iff.mp hrest
      rw [act_examine_of_nil _ _ hv, act_examine_of_nil _ _ hw]
      refine Outline.ext htag hids.symm ?_ hrunning rfl hexamined
      change Watcher.nextIndex v.watcher.lastIndex listing.index =
        Watcher.nextIndex w.watcher.lastIndex listing'.index
      rw [hlast, hindex]
    | cons event rest =>
      obtain ⟨event', rest', rfl, hid, hrest⟩ := List.map_eq_cons_iff.mp hrest
      have hleft : some (Listing.outline (listing, rest)) =
          some (Listing.outline (listing', rest')) := by
        rw [Listing.outline, Listing.outline, hids, hindex, hrest]
      cases hv' : v.watcher.seen.contains event.id with
      | true =>
        have hw' : w.watcher.seen.contains event'.id = true := by rw [← hseen, hid, hv']
        rw [act_examine_of_seen _ _ hv hv', act_examine_of_seen _ _ hw hw']
        exact Outline.ext htag hseen hlast hrunning hleft hexamined
      | false =>
        have hw' : w.watcher.seen.contains event'.id = false := by rw [← hseen, hid, hv']
        obtain ⟨calls, -, -, hact⟩ := act_examine_of_new c count hv hv' s
        obtain ⟨calls', -, -, hact'⟩ := act_examine_of_new c' count' hw hw' t
        rw [hact, hact']
        refine Outline.ext htag hseen hlast hrunning hleft ?_
        simpa [outline, events, hid] using hexamined

/-- Equal outlines stay equal in a step of a watcher. -/
theorem outline_act (hc : c.Alike c') (h : v.outline = w.outline) (count count' : Nat)
    (next : VigilAct) (s t : Session C) :
    (v.act c count next s).1.outline = (w.act c' count' next t).1.outline := by
  cases next with
  | list deadline now => exact outline_list hc h count count' deadline now s t
  | examine => exact outline_examine h count count' s t

end Vigil

/-! ## Histories -/

/-- Two things that may differ in payloads and handlers, but in nothing else that counts. -/
inductive WatchAct.Alike : WatchAct C → WatchAct C → Prop
  | fire {event event' : BroadcastEvent} (hheader : event.header = event'.header) :
      Alike (.fire event) (.fire event')
  | watch {kind kind' : C.Kind} (htag : C.tag kind = C.tag kind')
      (handler : EventHandler (C.Value kind)) (handler' : EventHandler (C.Value kind'))
      (now now' : Instant) : Alike (.watch kind handler now) (.watch kind' handler' now')
  | move (place : Nat) (next : VigilAct) : Alike (.move place next) (.move place next)
  | close : Alike .close .close

namespace WatchedChannel

/-- Two watched channels that differ in payloads, handlers and calls at most. -/
structure Alike (d e : WatchedChannel C) : Prop where
  channel : d.channel.Alike e.channel
  outlines : d.vigils.map Vigil.outline = e.vigils.map Vigil.outline

variable {d e : WatchedChannel C}

theorem Alike.step (h : d.Alike e) {act act' : WatchAct C} (hact : act.Alike act') :
    (d.step act).Alike (e.step act') := by
  cases hact with
  | fire hheader =>
    rcases h.channel.fire hheader with ⟨_, _, hd, he⟩ | ⟨_, _, hd, he, halike⟩
    · simp only [WatchedChannel.step, hd, he]
      exact h
    · simp only [WatchedChannel.step, hd, he]
      exact ⟨halike, h.outlines⟩
  | @watch kind kind' htag handler handler' now now' =>
    refine ⟨h.channel, ?_⟩
    simp only [WatchedChannel.step, (d.enter_eq kind handler now).2,
      (e.enter_eq kind' handler' now').2, List.map_append, h.outlines, h.channel.closed]
    congr 1
    split
    · rfl
    · have hids := h.channel.listing (C.tag kind)
      simp only [List.map_cons, List.map_nil, Vigil.outline, Vigil.start, Watcher.start,
        Watcher.tag, ← htag, hids]
      rfl
  | move place next =>
    have hplace : (d.vigils[place]?).map Vigil.outline = (e.vigils[place]?).map Vigil.outline := by
      rw [← List.getElem?_map, ← List.getElem?_map, h.outlines]
    cases hd : d.vigils[place]? with
    | none =>
      rw [hd] at hplace
      have he : e.vigils[place]? = none := Option.map_eq_none_iff.mp hplace.symm
      simp only [WatchedChannel.step, hd, he]
      exact h
    | some v =>
      rw [hd] at hplace
      obtain ⟨w, he, hsame⟩ := Option.map_eq_some_iff.mp hplace.symm
      simp only [WatchedChannel.step, hd, he]
      refine ⟨h.channel, ?_⟩
      rw [List.map_set, List.map_set, h.outlines]
      exact congrArg (List.set _ place) (Vigil.outline_act h.channel hsame.symm _ _ next _ _)
  | close => exact ⟨⟨h.channel.capacity, h.channel.headers, h.channel.index, rfl⟩, h.outlines⟩

/-- Histories that are alike go the same way. -/
theorem Alike.run (h : d.Alike e) {acts acts' : List (WatchAct C)}
    (hacts : List.Forall₂ WatchAct.Alike acts acts') : (d.run acts).Alike (e.run acts') := by
  induction hacts generalizing d e with
  | nil => exact h
  | cons hact _ ih => exact ih (h.step hact)

end WatchedChannel
end Switchboard
