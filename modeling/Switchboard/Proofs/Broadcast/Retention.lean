import Mathlib.Data.List.Infix
import Mathlib.Data.List.Nodup
import Switchboard.Broadcast.Channel

/-!
# What a channel retains

A channel holds the latest of the events that were fired into it.  So of two listings the later one
shows, besides events that the earlier one showed too, what was fired between the two and is still
held.  Somebody who lists again and again and passes over what the listing before contained gathers
the events that were fired since the start, in their order, and misses one only if enough others
were fired after it before the next listing.

The place of an event among all that were fired carries every argument.  Names only select from
what is shown, but room is made by events of all names.

Main results:

- Theorem {lit}`Channel.Holds.fire`: firing keeps what a channel holds in step with what was fired.
- Theorem {lit}`Channel.unseen_held`: what a later listing shows that an earlier one did not.
- Theorem {lit}`Channel.gathered_sublist`: gathered events come in the order of firing.
- Theorem {lit}`Channel.mem_gathered_of_mem_held`: whatever a listing still shows is gathered.
- Theorem {lit}`Channel.le_of_not_mem_gathered`: what is missed was driven out by later events.
-/

namespace Switchboard
namespace Channel

/-! ## What a channel holds -/

/-- Making room early does not change what is kept in the end. -/
theorem keepLatest_append (capacity : Nat) (events more : List BroadcastEvent) :
    keepLatest capacity (keepLatest capacity events ++ more) =
      keepLatest capacity (events ++ more) := by
  have hcut : events.length - capacity ≤ events.length := Nat.sub_le _ _
  simp only [keepLatest]
  rw [← List.drop_append_of_le_length hcut, List.drop_drop, List.length_drop, List.length_append]
  congr 1
  omega

/-- A channel of a capacity into which these events were fired, the first first. -/
structure Holds (size : Nat) (fired : List BroadcastEvent) (c : Channel) : Prop where
  capacity : c.capacity = size
  events : c.events = keepLatest size fired
  index : c.index = fired.length + 1

variable {capacity : Nat} {fired : List BroadcastEvent} {c : Channel}

theorem holds_start (capacity : Nat) : (start capacity).Holds (max capacity 1) [] :=
  ⟨rfl, List.drop_nil.symm, rfl⟩

theorem closed_of_fire {c' : Channel} {event : BroadcastEvent} (h : c.fire event = .ok c') :
    c.closed = false := by
  unfold fire at h
  split at h
  · cases h
  · rename_i hopen
    exact Bool.eq_false_iff.mpr hopen

/-- Firing keeps what a channel holds in step with what was fired. -/
theorem Holds.fire {c' : Channel} {event : BroadcastEvent} (h : c.Holds capacity fired)
    (hfire : c.fire event = .ok c') : c'.Holds capacity (fired ++ [event]) := by
  have hindex := index_fire hfire
  unfold Channel.fire at hfire
  split at hfire
  · cases hfire
  · cases hfire
    refine ⟨h.capacity, ?_, by rw [hindex, h.index, List.length_append, List.length_singleton]⟩
    rw [h.capacity, h.events, keepLatest_append]

theorem Holds.close (h : c.Holds capacity fired) : c.close.Holds capacity fired :=
  ⟨h.capacity, h.events, h.index⟩

/-! ## Two listings -/

/-- The events of a name. -/
def named (name : String) (events : List BroadcastEvent) : List BroadcastEvent :=
  events.filter fun event => event.name = name

/-- The events whose ids are not among those that were seen. -/
def unseen (seen : List String) (events : List BroadcastEvent) : List BroadcastEvent :=
  events.filter fun event => !seen.contains event.id

/-- What a channel held after so many fires. -/
def held (capacity : Nat) (fired : List BroadcastEvent) (count : Nat) : List BroadcastEvent :=
  keepLatest capacity (fired.take count)

/-- What was fired between two moments and was still held at the later one. -/
def added (capacity : Nat) (fired : List BroadcastEvent) (first last : Nat) :
    List BroadcastEvent :=
  (fired.take last).drop (max first (last - capacity))

variable {first last place : Nat} {name : String} {event : BroadcastEvent}

theorem mem_named {events : List BroadcastEvent} :
    event ∈ named name events ↔ event ∈ events ∧ event.name = name := by
  simp [named]

theorem named_append (events more : List BroadcastEvent) :
    named name (events ++ more) = named name events ++ named name more :=
  List.filter_append _ _

theorem unseen_append (seen : List String) (events more : List BroadcastEvent) :
    unseen seen (events ++ more) = unseen seen events ++ unseen seen more :=
  List.filter_append _ _

theorem unseen_cons_of_seen {seen : List String} {events : List BroadcastEvent}
    (h : seen.contains event.id = true) : unseen seen (event :: events) = unseen seen events :=
  List.filter_cons_of_neg (by simp only [h, Bool.not_true, Bool.false_eq_true, not_false_iff])

theorem unseen_cons_of_new {seen : List String} {events : List BroadcastEvent}
    (h : seen.contains event.id = false) :
    unseen seen (event :: events) = event :: unseen seen events :=
  List.filter_cons_of_pos (by simp only [h, Bool.not_false])

theorem held_eq_drop (hlast : last ≤ fired.length) :
    held capacity fired last = (fired.take last).drop (last - capacity) := by
  rw [held, keepLatest, List.length_take_of_le hlast]

/-- What is held after all fires so far. -/
theorem Holds.held (h : c.Holds capacity fired) :
    c.events = Channel.held capacity fired fired.length := by
  rw [h.events, Channel.held, List.take_length]

/-- Later fires do not change what was held. -/
theorem held_append (hlast : last ≤ fired.length) (more : List BroadcastEvent) :
    held capacity (fired ++ more) last = held capacity fired last := by
  rw [held, held, List.take_append_of_le_length hlast]

theorem added_append (hlast : last ≤ fired.length) (more : List BroadcastEvent) :
    added capacity (fired ++ more) first last = added capacity fired first last := by
  rw [added, added, List.take_append_of_le_length hlast]

/-- What was fired by a moment and is still held at a later one. -/
theorem held_eq_append (hle : first ≤ last) (hlast : last ≤ fired.length) :
    held capacity fired last =
      (fired.take first).drop (last - capacity) ++ added capacity fired first last := by
  have hsplit : fired.take last = fired.take first ++ (fired.take last).drop first := by
    conv => lhs; rw [← List.take_append_drop first (fired.take last)]
    rw [List.take_take, Nat.min_eq_left hle]
  rw [held_eq_drop hlast]
  conv => lhs; rw [hsplit]
  rw [List.drop_append, List.length_take_of_le (hle.trans hlast), List.drop_drop, added]
  congr 2
  omega

/-- What is added was fired after the first moment. -/
theorem added_sublist : (added capacity fired first last).Sublist ((fired.take last).drop first) :=
  List.drop_sublist_drop_left _ (Nat.le_max_left _ _)

theorem added_subset_drop : added capacity fired first last ⊆ fired.drop first := by
  intro event hevent
  have hbefore := added_sublist.subset hevent
  rw [List.drop_take] at hbefore
  exact List.mem_of_mem_take hbefore

/-- What was fired between two moments is added if there was room for everything after it. -/
theorem mem_added (hplace : fired[place]? = some event) (hfirst : first ≤ place)
    (hlast : place < last) (hroom : last ≤ place + capacity) :
    event ∈ added capacity fired first last := by
  have hcut : max first (last - capacity) ≤ place := by omega
  refine List.mem_iff_getElem?.mpr ⟨place - max first (last - capacity), ?_⟩
  rw [added, List.getElem?_drop, Nat.add_sub_cancel' hcut, List.getElem?_take_of_lt hlast, hplace]

/-- What was fired by a moment and what was fired after it have different ids. -/
theorem ne_of_mem_take_of_mem_drop {old : BroadcastEvent}
    (hnodup : (fired.map BroadcastEvent.id).Nodup) (hold : old ∈ fired.take place)
    (hnew : event ∈ fired.drop place) : event.id ≠ old.id := by
  rw [← List.take_append_drop place fired, List.map_append] at hnodup
  intro hsame
  exact (List.nodup_append.mp hnodup).2.2 _ (List.mem_map_of_mem hold) _
    (List.mem_map_of_mem hnew) hsame.symm

/-- What a later listing shows that an earlier one did not. -/
theorem unseen_held (hnodup : (fired.map BroadcastEvent.id).Nodup) (hle : first ≤ last)
    (hlast : last ≤ fired.length) :
    unseen ((named name (held capacity fired first)).map BroadcastEvent.id)
        (named name (held capacity fired last)) =
      named name (added capacity fired first last) := by
  have hold : unseen ((named name (held capacity fired first)).map BroadcastEvent.id)
      (named name ((fired.take first).drop (last - capacity))) = [] := by
    refine List.filter_eq_nil_iff.mpr fun event hevent => ?_
    obtain ⟨hmem, hname⟩ := mem_named.mp hevent
    have hheld : event ∈ held capacity fired first := by
      rw [held_eq_drop (hle.trans hlast)]
      exact (List.drop_sublist_drop_left _ (Nat.sub_le_sub_right hle capacity)).subset hmem
    simpa using ⟨event, mem_named.mpr ⟨hheld, hname⟩, rfl⟩
  have hnew : unseen ((named name (held capacity fired first)).map BroadcastEvent.id)
      (named name (added capacity fired first last)) =
      named name (added capacity fired first last) := by
    refine List.filter_eq_self.mpr fun event hevent => ?_
    have hafter := added_subset_drop (mem_named.mp hevent).1
    simp only [Bool.not_eq_true', List.contains_eq_mem, decide_eq_false_iff_not]
    intro hseen
    obtain ⟨other, hother, hid⟩ := List.mem_map.mp hseen
    have hbefore := List.drop_subset _ _ (mem_named.mp hother).1
    exact ne_of_mem_take_of_mem_drop hnodup hbefore hafter hid.symm
  rw [held_eq_append hle hlast, named_append, unseen_append, hold, hnew, List.nil_append]

/-! ## One listing after another -/

/-- Moments, counted in fires, each not before the one before it and none after a last one. -/
def Successive (stop : Nat) : Nat → List Nat → Prop
  | since, [] => since ≤ stop
  | since, count :: counts => since ≤ count ∧ Successive stop count counts

/-- What is gathered by listings at these moments, each of which passes over what the one before it
showed. -/
def gathered (capacity : Nat) (fired : List BroadcastEvent) (name : String) :
    Nat → List Nat → List BroadcastEvent
  | _, [] => []
  | since, count :: counts =>
    named name (added capacity fired since count) ++ gathered capacity fired name count counts

variable {stop stop' since count : Nat} {counts : List Nat}

namespace Successive

theorem mono (h : Successive stop since counts) (hle : stop ≤ stop') :
    Successive stop' since counts := by
  induction counts generalizing since with
  | nil => exact Nat.le_trans h hle
  | cons count counts ih => exact ⟨h.1, ih h.2⟩

theorem le (h : Successive stop since counts) : since ≤ stop := by
  induction counts generalizing since with
  | nil => exact h
  | cons count counts ih => exact h.1.trans (ih h.2)

theorem bounds (h : Successive stop since counts) : ∀ n ∈ counts, since ≤ n ∧ n ≤ stop := by
  induction counts generalizing since with
  | nil => exact List.forall_mem_nil _
  | cons count counts ih =>
    intro n hn
    rcases List.mem_cons.mp hn with rfl | hn
    · exact ⟨h.1, h.2.le⟩
    · exact ⟨h.1.trans (ih h.2 n hn).1, (ih h.2 n hn).2⟩

/-- The latest moment is not after the last one. -/
theorem getLastD_le (h : Successive stop since counts) : counts.getLastD since ≤ stop := by
  induction counts generalizing since with
  | nil => exact h
  | cons count counts ih =>
    rw [List.getLastD_cons]
    exact ih h.2

/-- The last moment may be added. -/
theorem concat (h : Successive stop since counts) : Successive stop since (counts ++ [stop]) := by
  induction counts generalizing since with
  | nil => exact ⟨h, Nat.le_refl stop⟩
  | cons count counts ih => exact ⟨h.1, ih h.2⟩

end Successive

/-- One more listing adds what was fired since the latest one and is still held. -/
theorem gathered_concat :
    gathered capacity fired name since (counts ++ [last]) =
      gathered capacity fired name since counts ++
        named name (added capacity fired (counts.getLastD since) last) := by
  induction counts generalizing since with
  | nil => exact List.append_nil _
  | cons count counts ih =>
    rw [List.cons_append, gathered, gathered, ih, List.append_assoc, List.getLastD_cons]

/-- Later fires do not change what was gathered. -/
theorem gathered_append (h : Successive fired.length since counts) (more : List BroadcastEvent) :
    gathered capacity (fired ++ more) name since counts =
      gathered capacity fired name since counts := by
  induction counts generalizing since with
  | nil => rfl
  | cons count counts ih => rw [gathered, gathered, added_append h.2.le, ih h.2]

/-- Gathered events come in the order of firing, and no more often than they were fired. -/
theorem gathered_sublist (h : Successive fired.length since counts) :
    (gathered capacity fired name since counts).Sublist (named name (fired.drop since)) := by
  induction counts generalizing since with
  | nil => exact List.nil_sublist _
  | cons count counts ih =>
    have hsplit : fired.drop since = (fired.take count).drop since ++ fired.drop count := by
      conv => lhs; rw [← List.take_append_drop count fired]
      rw [List.drop_append_of_le_length]
      rw [List.length_take_of_le h.2.le]
      exact h.1
    rw [gathered, hsplit, named_append]
    exact (added_sublist.filter _).append (ih h.2)

/-- An event is gathered if some listing found room for everything that was fired after it. -/
theorem mem_gathered (h : Successive fired.length since counts)
    (hplace : fired[place]? = some event) (hname : event.name = name) (hsince : since ≤ place)
    (hcount : count ∈ counts) (hlast : place < count) (hroom : count ≤ place + capacity) :
    event ∈ gathered capacity fired name since counts := by
  induction counts generalizing since with
  | nil => cases hcount
  | cons next counts ih =>
    rw [gathered, List.mem_append]
    by_cases hnext : place < next
    · -- The first listing after the event leaves it even more room.
      have hle : next ≤ count := by
        rcases List.mem_cons.mp hcount with rfl | hmem
        · exact Nat.le_refl count
        · exact (h.2.bounds count hmem).1
      exact .inl (mem_named.mpr
        ⟨mem_added hplace hsince hnext (hle.trans hroom), hname⟩)
    · have hmem : count ∈ counts := by
        rcases List.mem_cons.mp hcount with rfl | hmem
        · exact absurd hlast hnext
        · exact hmem
      exact .inr (ih h.2 (Nat.le_of_not_lt hnext) hmem)

/-- What was fired since the start is gathered if some listing still showed it. -/
theorem mem_gathered_of_mem_held (h : Successive fired.length since counts)
    (hnodup : (fired.map BroadcastEvent.id).Nodup) (hname : event.name = name)
    (hsince : event ∈ fired.drop since) (hcount : count ∈ counts)
    (hheld : event ∈ held capacity fired count) :
    event ∈ gathered capacity fired name since counts := by
  obtain ⟨i, hi⟩ := List.mem_iff_getElem?.mp hsince
  rw [List.getElem?_drop] at hi
  obtain ⟨hin, -⟩ := List.getElem?_eq_some_iff.mp hi
  rw [held_eq_drop (h.bounds count hcount).2] at hheld
  obtain ⟨j, hj⟩ := List.mem_iff_getElem?.mp hheld
  rw [List.getElem?_drop] at hj
  obtain ⟨hlt, -⟩ := List.getElem?_eq_some_iff.mp hj
  rw [List.length_take] at hlt
  rw [List.getElem?_take_of_lt (by omega)] at hj
  -- It was fired only once, so the place since the start is the place in the listing.
  have hsame : since + i = count - capacity + j :=
    (List.getElem?_inj hin (hnodup.of_map _)).mp (hi.trans hj.symm)
  exact mem_gathered h hi hname (by omega) hcount (by omega) (by omega)

/-- What was fired since the start and is missed by the next listing was driven out by the events
that were fired after it. -/
theorem le_of_not_mem_gathered (h : Successive fired.length since counts)
    (hplace : fired[place]? = some event) (hname : event.name = name) (hsince : since ≤ place)
    (hcount : count ∈ counts) (hlast : place < count)
    (hmissed : event ∉ gathered capacity fired name since counts) :
    capacity ≤ count - (place + 1) := by
  by_contra hroom
  exact hmissed (mem_gathered h hplace hname hsince hcount hlast (by omega))

end Channel
end Switchboard
