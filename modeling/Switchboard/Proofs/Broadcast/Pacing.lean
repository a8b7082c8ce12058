import Switchboard.Proofs.Broadcast.Delivery

/-!
# The pace of watchers

A listing waits for the index to move past the one that is asked with, and one that is asked with
zero does not wait at all.  So the pace of a watcher is told by the indexes it asks with: it lists
without a pause where there are two zeros in a row.

A channel may answer with any indexes, also with lower ones than before and with zero.  The index
that a watcher asks with next depends on nothing but the answer and the index it asked with before.
After a zero it asks with one, but only if it had not asked with zero itself.  Whoever asks with
zero and is answered with zero asks with zero again, for as long as the answer stays the same.

Main results:

- Definition {lit}`Watcher.waits`: the indexes that a watcher asks with, one after the other.
- Theorem {lit}`Watcher.nextIndex_eq_zero_iff`: which answers make a watcher ask with zero.
- Theorem {lit}`Watcher.spins_waits_iff`: when there are two zeros in a row.
- Theorem {lit}`Watcher.work_showing`: a watcher asks with these indexes and no others.
- Theorem {lit}`Cluster.watching_spins_iff`: the same for all that a channel is asked.
- Theorem {lit}`Cluster.idle_channel_spins`: a channel whose index is zero is asked without a
  pause.
-/

namespace Switchboard

variable {C : Catalogue}

/-! ## The indexes -/

namespace Watcher

/-- A watcher asks with zero after a zero that it asked for with zero, and after an index that fell
to another one than zero. -/
theorem nextIndex_eq_zero_iff {last index : Nat} :
    nextIndex last index = 0 ↔ index = 0 ∧ last = 0 ∨ 0 < index ∧ index < last := by
  unfold nextIndex
  split
  · omega
  · split <;> omega

/-- A watcher asks with one after a zero, unless it asked for the zero with zero. -/
theorem nextIndex_zero_eq_one_iff {last : Nat} : nextIndex last 0 = 1 ↔ last ≠ 0 := by
  unfold nextIndex
  split
  · omega
  · simp only [if_true, true_iff]
    omega

/-- The indexes that a watcher asks with when these are the answers: first its own, and one more
after each answer. -/
def waits (last : Nat) (listings : List Listing) : List Nat :=
  listings.scanl (fun last listing => nextIndex last listing.index) last

theorem waits_cons (last : Nat) (listing : Listing) (rest : List Listing) :
    waits last (listing :: rest) = last :: waits (nextIndex last listing.index) rest :=
  List.scanl_cons

theorem length_waits (last : Nat) (listings : List Listing) :
    (waits last listings).length = listings.length + 1 :=
  List.length_scanl

/-- Each answer decides the index that is asked with after it. -/
theorem getElem?_waits_succ {last n asked : Nat} {listings : List Listing} {listing : Listing}
    (hasked : (waits last listings)[n]? = some asked) (hlisting : listings[n]? = some listing) :
    (waits last listings)[n + 1]? = some (nextIndex asked listing.index) := by
  rw [waits] at hasked ⊢
  rw [List.getElem?_succ_scanl, hasked, hlisting]
  rfl

/-- Whatever is asked with after the first index comes after an answer. -/
theorem exists_of_getElem?_waits_succ {last n next : Nat} {listings : List Listing}
    (hnext : (waits last listings)[n + 1]? = some next) :
    ∃ asked listing, (waits last listings)[n]? = some asked ∧ listings[n]? = some listing ∧
      next = nextIndex asked listing.index := by
  rw [waits, List.getElem?_succ_scanl] at hnext
  obtain ⟨asked, hasked, hmap⟩ := Option.bind_eq_some_iff.mp hnext
  obtain ⟨listing, hlisting, heq⟩ := Option.map_eq_some_iff.mp hmap
  exact ⟨asked, listing, hasked, hlisting, heq.symm⟩

/-- Somewhere zero is asked with twice in a row, so that neither listing waits. -/
def Spins (waits : List Nat) : Prop :=
  ∃ n, waits[n]? = some 0 ∧ waits[n + 1]? = some 0

/-- A watcher asks with zero twice in a row exactly where zero is answered to zero. -/
theorem spins_waits_iff {last : Nat} {listings : List Listing} :
    Spins (waits last listings) ↔
      ∃ (n : Nat) (listing : Listing), (waits last listings)[n]? = some 0 ∧
        listings[n]? = some listing ∧ listing.index = 0 := by
  constructor
  · rintro ⟨n, hasked, hnext⟩
    obtain ⟨asked, listing, hasked', hlisting, hzero⟩ := exists_of_getElem?_waits_succ hnext
    obtain rfl : asked = 0 := by
      rw [hasked] at hasked'
      exact (Option.some_inj.mp hasked').symm
    have hcases := nextIndex_eq_zero_iff.mp hzero.symm
    exact ⟨n, listing, hasked, hlisting, by omega⟩
  · rintro ⟨n, listing, hasked, hlisting, hindex⟩
    have hnext := getElem?_waits_succ hasked hlisting
    rw [hindex] at hnext
    exact ⟨n, hasked, hnext⟩

/-- After a zero a watcher asks with one, unless it asked for the zero with zero. -/
theorem getElem?_waits_eq_one_iff {last n : Nat} {listings : List Listing} {listing : Listing}
    (hlisting : listings[n]? = some listing) (hindex : listing.index = 0) :
    (waits last listings)[n + 1]? = some 1 ↔ (waits last listings)[n]? ≠ some 0 := by
  have hlength : n < (waits last listings).length := by
    have hn := (List.getElem?_eq_some_iff.mp hlisting).1
    rw [length_waits]
    omega
  have hasked : (waits last listings)[n]? = some (waits last listings)[n] :=
    List.getElem?_eq_getElem hlength
  rw [getElem?_waits_succ hasked hlisting, hasked, hindex, Option.some_inj,
    nextIndex_zero_eq_one_iff, ne_eq, ne_eq, Option.some_inj]

end Watcher

/-! ## Watchers on a channel of given answers -/

/-- A channel that answers with these listings, one after the other, and is closed after them. -/
def ScriptedMedium.showing (listings : List Listing) : ScriptedMedium :=
  ⟨[], listings.map .ok, []⟩

namespace Watcher

variable {w : Watcher C} (wait : Duration) (fires : List (Except TransportError String))
  (calls : List MediumCall) (s : Session C)

/-- A watcher that has ended does not list any more. -/
theorem work_of_ended (hended : w.running = false) (turns : Nat) (medium : ScriptedMedium) :
    (work wait turns medium w s).1.2 = medium := by
  cases turns with
  | zero => rfl
  | succ turns =>
    rw [work, bind_apply, turn, hended]
    rfl

/-- A watcher that finds the channel closed has asked once more, and ends. -/
theorem work_closed (hrunning : w.running = true) (turns : Nat) :
    (work wait (turns + 1) (ScriptedMedium.mk fires [] calls) w s).1.2 =
      ⟨fires, [], calls ++ [.list w.tag w.lastIndex wait]⟩ := by
  rw [work, bind_apply, turn, hrunning]
  exact work_of_ended wait _ rfl turns _

/-- A watcher that is given a listing has asked for it, is done with it, and goes on. -/
theorem work_listed (hrunning : w.running = true) (turns : Nat) (listing : Listing)
    (rest : List (Except TransportError Listing)) :
    work wait (turns + 1) (ScriptedMedium.mk fires (.ok listing :: rest) calls) w s =
      work wait turns (ScriptedMedium.mk fires rest (calls ++ [.list w.tag w.lastIndex wait]))
        (w.finish listing) (w.examineNew listing.events s).2 := by
  rw [work, bind_apply, turn, hrunning]
  rfl

/-- A watcher asks with its indexes, one for each listing and one to find the channel closed. -/
theorem work_showing (hrunning : w.running = true) (listings : List Listing) (further : Nat) :
    (work wait (listings.length + 1 + further)
        (ScriptedMedium.mk fires (listings.map .ok) calls) w s).1.2.calls =
      calls ++ (waits w.lastIndex listings).map fun index => .list w.tag index wait := by
  induction listings generalizing w calls s with
  | nil =>
    have hturns : ([] : List Listing).length + 1 + further = further + 1 := by
      rw [List.length_nil]
      omega
    rw [hturns, List.map_nil, work_closed wait fires calls s hrunning]
    rfl
  | cons listing rest ih =>
    have hturns : (listing :: rest).length + 1 + further = rest.length + 1 + further + 1 := by
      rw [List.length_cons]
      omega
    have hgoes : (w.finish listing).running = true := hrunning
    rw [hturns, List.map_cons, work_listed wait fires calls s hrunning, ih _ _ hgoes, waits_cons,
      List.map_cons, List.append_assoc]
    rfl

end Watcher

/-! ## Nodes on a channel of given answers -/

namespace Cluster

/-- A node that has registered a handler on a channel with these answers, the first of which is the
snapshot that the watcher passes over, after its watcher has worked through so many. -/
def watching (kind : C.Kind) (handler : EventHandler (C.Value kind)) (wait : Duration)
    (snapshot : Listing) (listings : List Listing) (turns : Nat) (s : Session C) :
    Cluster C ScriptedMedium :=
  let cluster : Cluster C ScriptedMedium := ⟨s, .showing (snapshot :: listings), [.start wait]⟩
  (onNode 0 (fun n medium => n.register kind handler medium) cluster).2.settle turns

/-- What the channel is asked: once for the snapshot, and then by the watcher. -/
theorem calls_watching (kind : C.Kind) (handler : EventHandler (C.Value kind)) (wait : Duration)
    (snapshot : Listing) (listings : List Listing) (further : Nat) (s : Session C) :
    (watching kind handler wait snapshot listings (listings.length + 1 + further) s).medium.calls =
      .list (C.tag kind) 0 0 ::
        (Watcher.waits 0 listings).map fun index => .list (C.tag kind) index wait := by
  let w := Watcher.start kind handler (Session.draw s).1 snapshot.events
  let asked : List MediumCall := [.list (C.tag kind) 0 0]
  have hwork (s' : Session C) := Watcher.work_showing (w := w) wait [] asked s' rfl listings further
  exact hwork _

/-- Whatever the answers of a channel are, a watcher asks with the indexes that follow from them.
It lists twice in a row without a pause exactly where a listing that it asked for with zero has the
index zero, and after a listing of index zero it asks with one unless it had asked with zero. -/
theorem watching_spins_iff (kind : C.Kind) (handler : EventHandler (C.Value kind))
    (wait : Duration) (snapshot : Listing) (listings : List Listing) (further : Nat)
    (s : Session C) :
    let turns := listings.length + 1 + further
    let waits := Watcher.waits 0 listings
    (watching kind handler wait snapshot listings turns s).medium.calls =
        .list (C.tag kind) 0 0 :: waits.map (fun index => .list (C.tag kind) index wait) ∧
      (Watcher.Spins waits ↔ ∃ (n : Nat) (listing : Listing), waits[n]? = some 0 ∧
        listings[n]? = some listing ∧ listing.index = 0) ∧
      ∀ (n : Nat) (listing : Listing), listings[n]? = some listing → listing.index = 0 →
        (waits[n + 1]? = some 1 ↔ waits[n]? ≠ some 0) :=
  ⟨calls_watching kind handler wait snapshot listings further s, Watcher.spins_waits_iff,
    fun _ _ hlisting hindex => Watcher.getElem?_waits_eq_one_iff hlisting hindex⟩

/-- A channel whose index falls to zero: the watcher had asked with five, so it asks with one. -/
theorem watching_spins_iff_fallen :
    let kind : Sample.plaza.Kind := .ping
    let pings : EventHandler (Sample.plaza.Value kind) := ⟨1, "pings", .plain fun _ _ => .ok ()⟩
    let listings : List Listing := [⟨[], 5⟩, ⟨[], 0⟩]
    let waits := Watcher.waits 0 listings
    let s : Session Sample.plaza := .start ⟨[], []⟩ 0
    listings[1]? = some ⟨[], 0⟩ ∧ waits[2]? = some 1 ∧ ¬ Watcher.Spins waits ∧
      (watching kind pings 9 ⟨[], 1⟩ listings 3 s).medium.calls =
        [.list "Ping" 0 0, .list "Ping" 0 9, .list "Ping" 5 9, .list "Ping" 1 9] := by
  intro kind pings listings waits s
  obtain ⟨hcalls, hspins, hone⟩ := watching_spins_iff kind pings 9 ⟨[], 1⟩ listings 0 s
  refine ⟨rfl, (hone 1 ⟨[], 0⟩ rfl rfl).mpr (by decide), ?_, hcalls⟩
  rw [hspins]
  rintro ⟨n, listing, hasked, hlisting, hindex⟩
  match n with
  | 0 =>
    cases hlisting
    cases hindex
  | 1 => cases hasked
  | n + 2 => cases hlisting

/-- A channel whose index is zero is asked with zero again and again. -/
theorem idle_channel_spins :
    let kind : Sample.plaza.Kind := .ping
    let pings : EventHandler (Sample.plaza.Value kind) := ⟨1, "pings", .plain fun _ _ => .ok ()⟩
    let idle : Listing := ⟨[], 0⟩
    let wait := Node.defaultWaitTime
    let s : Session Sample.plaza := .start ⟨[], []⟩ 0
    (watching kind pings wait idle [idle] 2 s).medium.calls =
        [.list "Ping" 0 0, .list "Ping" 0 wait, .list "Ping" 0 wait] ∧
      Watcher.Spins (Watcher.waits 0 [idle]) ∧ (Watcher.waits 0 [idle])[1]? ≠ some 1 :=
  ⟨rfl, ⟨0, rfl, rfl⟩, by decide⟩

end Cluster
end Switchboard
