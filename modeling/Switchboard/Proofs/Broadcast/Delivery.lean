import Switchboard.Proofs.Broadcast.Outline
import Switchboard.Sample.Catalogue

/-!
# What watchers examine

A watcher examines each event of its tag once and in order, passes over what had been fired before
its handler was registered, and misses an event only if enough others were fired after it before the
watcher looked again.  This holds over every history, whatever the other watchers and the handlers
do.

The invariant is that what a watcher has examined, and what it still has to examine of the listing
in hand, is what its looks gathered.  The ids that it passes over are replaced at each listing; they
are those of the events that the channel held at the look before.

Main results:

- Definition {lit}`Vigil.Exact`: what may be said of the events that a watcher examined.
- Theorem {lit}`Vigil.Kept.step`: a step of a watcher keeps the invariant.
- Theorem {lit}`Vigil.Kept.act_list`: a watcher does not sleep while there is something new.
- Theorem {lit}`WatchedChannel.Kept.run`: so does every history.
- Theorem {lit}`WatchedChannel.exists_drive_held`: a watcher that works on gets to all that is held.
- Theorem {lit}`WatchedChannel.run_exact`: every registration is served exactly.
-/

namespace Switchboard

variable {C : Catalogue}

/-! ## The invariant of a watcher -/

namespace Vigil

/-- The events of the tag that the channel held at the latest look. -/
def shown (capacity : Nat) (fired : List BroadcastEvent) (v : Vigil C) : List BroadcastEvent :=
  Channel.named v.watcher.tag (Channel.held capacity fired v.latest)

/-- Between listings a watcher passes over what the latest one showed, and waits for the index to
move past its own.  With a listing in hand it has what the latest look showed. -/
def Placed (capacity : Nat) (fired : List BroadcastEvent) (v : Vigil C) : Prop :=
  match v.inHand with
  | none =>
    v.watcher.seen = (v.shown capacity fired).map BroadcastEvent.id ∧
      (v.watcher.lastIndex = 0 ∨ v.watcher.lastIndex = v.latest + 1)
  | some (listing, _) =>
    listing = ⟨v.shown capacity fired, v.latest + 1⟩ ∧ v.watcher.lastIndex ≤ v.latest + 1

/-- The invariant of a watcher. -/
structure Kept (capacity : Nat) (fired : List BroadcastEvent) (v : Vigil C) : Prop where
  /-- The registration and the looks came one after the other. -/
  successive : Channel.Successive fired.length v.since v.moments
  /-- What the channel held at each look is known from its moment. -/
  glimpses : ∀ glimpse ∈ v.looks, glimpse.held = Channel.held capacity fired glimpse.count
  /-- What was examined, and what is still left of the listing in hand, was gathered. -/
  account : v.events ++ v.left =
    Channel.gathered capacity fired v.watcher.tag v.since v.moments
  placed : v.Placed capacity fired
  /-- Each event was answered. -/
  answered : ∀ x ∈ v.examined, v.watcher.handler.Answers v.watcher.context x.1 x.2

variable {capacity : Nat} {fired : List BroadcastEvent} {channel : Channel} {v moved : Vigil C}
  {calls : List (Call C)}

theorem latest_take (glimpse : Glimpse) (listing : Listing) :
    (v.take glimpse listing).latest = glimpse.count := by
  simp [latest, moments, take]

/-- An event that is fired keeps the invariant: the past does not change. -/
theorem Kept.fire (h : v.Kept capacity fired) (event : BroadcastEvent) :
    v.Kept capacity (fired ++ [event]) := by
  have hshown : v.shown capacity (fired ++ [event]) = v.shown capacity fired := by
    have hlatest : v.latest ≤ fired.length := h.successive.getLastD_le
    rw [shown, shown, Channel.held_append hlatest]
  refine ⟨h.successive.mono (by simp), ?_, ?_, ?_, h.answered⟩
  · intro glimpse hglimpse
    have hmoment := h.successive.bounds glimpse.count (List.mem_map_of_mem hglimpse)
    rw [h.glimpses glimpse hglimpse, Channel.held_append hmoment.2]
  · rw [h.account, Channel.gathered_append h.successive]
  · have hplaced := h.placed
    unfold Placed at hplaced ⊢
    rwa [hshown]

/-- A watcher that passes over all that the channel holds starts with the invariant. -/
theorem kept_start (h : channel.Holds capacity fired) (kind : C.Kind)
    (handler : EventHandler (C.Value kind)) (correlation : String) :
    (Vigil.start fired.length
      (Watcher.start kind handler correlation (channel.listing (C.tag kind)).events)).Kept
        capacity fired := by
  refine ⟨Nat.le_refl fired.length, List.forall_mem_nil _, rfl, ⟨?_, .inl rfl⟩,
    List.forall_mem_nil _⟩
  change ((channel.events.filter fun event => event.name = C.tag kind).map BroadcastEvent.id) =
    (Channel.named (C.tag kind) (Channel.held capacity fired fired.length)).map BroadcastEvent.id
  rw [h.held]
  rfl

/-- A new listing: what it shows and the one before did not is what its look adds. -/
theorem Kept.take (h : v.Kept capacity fired) (hc : channel.Holds capacity fired)
    (hnodup : (fired.map BroadcastEvent.id).Nodup) (hnone : v.inHand = none) :
    (v.take ⟨fired.length, channel.events⟩ (channel.listing v.watcher.tag)).Kept
      capacity fired := by
  have hplaced := h.placed
  simp only [Placed, hnone] at hplaced
  obtain ⟨hseen, hindex⟩ := hplaced
  have hlatest : v.latest ≤ fired.length := h.successive.getLastD_le
  have hlisting : channel.listing v.watcher.tag =
      ⟨Channel.named v.watcher.tag (Channel.held capacity fired fired.length),
        fired.length + 1⟩ := by
    rw [Channel.listing, hc.index, hc.held]
    rfl
  have hmoments : (v.take ⟨fired.length, channel.events⟩
      (channel.listing v.watcher.tag)).moments = v.moments ++ [fired.length] := by
    simp [moments, Vigil.take]
  refine ⟨?_, ?_, ?_, ?_, h.answered⟩
  · rw [hmoments]
    exact h.successive.concat
  · intro glimpse hglimpse
    rcases List.mem_append.mp hglimpse with hold | hnew
    · exact h.glimpses glimpse hold
    · rw [List.mem_singleton.mp hnew]
      exact hc.held
  · have hbefore : v.events = Channel.gathered capacity fired v.watcher.tag v.since v.moments := by
      rw [← h.account, left_of_none hnone, List.append_nil]
    rw [hmoments, left_of_some rfl, hlisting]
    change v.events ++ Channel.unseen v.watcher.seen _ = Channel.gathered capacity fired
      v.watcher.tag v.since (v.moments ++ [fired.length])
    rw [Channel.gathered_concat, hbefore, hseen, shown,
      Channel.unseen_held hnodup hlatest (Nat.le_refl _)]
    rfl
  · refine ⟨?_, ?_⟩
    · rw [hlisting, shown, latest_take]
      rfl
    · rw [latest_take]
      change v.watcher.lastIndex ≤ fired.length + 1
      omega

/-- A watcher that gets a listing takes it in hand. -/
theorem act_list_of_ok {deadline : Option Instant} {now : Instant}
    (hrunning : v.watcher.running = true) (hnone : v.inHand = none)
    (hlist : channel.list v.watcher.tag v.watcher.lastIndex deadline now =
      some (.ok (channel.listing v.watcher.tag))) (count : Nat) (s : Session C) :
    (v.act channel count (.list deadline now) s).1 =
      v.take ⟨count, channel.events⟩ (channel.listing v.watcher.tag) := by
  simp only [act, hrunning, hnone, Option.isNone_none, Bool.and_self, if_true, hlist]
  rfl

/-- No event is slept through: once one was fired after the latest look, the watcher gets its next
listing at once, whatever its deadline. -/
theorem Kept.act_list (h : v.Kept capacity fired) (hc : channel.Holds capacity fired)
    (hopen : channel.closed = false) (hrunning : v.watcher.running = true)
    (hnone : v.inHand = none) (hfired : v.latest < fired.length) (deadline : Option Instant)
    (now : Instant) (s : Session C) :
    (v.act channel fired.length (.list deadline now) s).1 =
      v.take ⟨fired.length, channel.events⟩ (channel.listing v.watcher.tag) := by
  have hplaced := h.placed
  simp only [Placed, hnone] at hplaced
  refine act_list_of_ok hrunning hnone ?_ fired.length s
  rw [Channel.list, if_neg (by simp [hopen]), if_pos]
  rcases hplaced.2 with hzero | hlatest
  · exact .inl hzero
  · refine .inr (.inl ?_)
    rw [hlatest, hc.index]
    exact Nat.succ_lt_succ hfired

/-- A step of a watcher keeps the invariant. -/
theorem Kept.step (h : v.Kept capacity fired) (hc : channel.Holds capacity fired)
    (hnodup : (fired.map BroadcastEvent.id).Nodup)
    (hstep : Step channel fired.length v calls moved) : moved.Kept capacity fired := by
  cases hstep with
  | idle => exact h
  | ended hclosed =>
    exact ⟨h.successive, h.glimpses, h.account, h.placed, h.answered⟩
  | listed hnone => exact h.take hc hnodup hnone
  | @skipped listing event rest hhand hseen =>
    have haccount := h.account
    rw [left_of_some hhand, Channel.unseen_cons_of_seen hseen] at haccount
    refine ⟨h.successive, h.glimpses, haccount, ?_, h.answered⟩
    have hplaced := h.placed
    simp only [Placed, hhand] at hplaced
    exact hplaced
  | @examined listing event rest calls hhand hnew hanswers =>
    have haccount := h.account
    rw [left_of_some hhand, Channel.unseen_cons_of_new hnew] at haccount
    refine ⟨h.successive, h.glimpses, ?_, ?_, ?_⟩
    · rw [left_of_some rfl]
      refine Eq.trans ?_ haccount
      simp [events]
    · have hplaced := h.placed
      simp only [Placed, hhand] at hplaced
      exact hplaced
    · intro x hx
      rcases List.mem_append.mp hx with hx | hx
      · exact h.answered x hx
      · rw [List.mem_singleton.mp hx]
        exact hanswers
  | @finished listing hhand =>
    have haccount := h.account
    rw [left_of_some hhand] at haccount
    have hplaced := h.placed
    simp only [Placed, hhand] at hplaced
    obtain ⟨rfl, hindex⟩ := hplaced
    exact ⟨h.successive, h.glimpses, haccount,
      ⟨rfl, .inr (Watcher.nextIndex_of_le hindex)⟩,
      h.answered⟩

/-! ## What the invariant says -/

/-- The watcher of a handler that was registered when so many events had been fired examines each
later event of its tag once and in order, and misses none but those that were driven out. -/
structure Exact (capacity : Nat) (fired : List BroadcastEvent) (kind : C.Kind)
    (handler : EventHandler (C.Value kind)) (count : Nat) (v : Vigil C) : Prop where
  /-- Each look was made after the registration, and found what was retained of all that had been
  fired. -/
  looks : ∀ glimpse ∈ v.looks, count ≤ glimpse.count ∧ glimpse.count ≤ fired.length ∧
    glimpse.held = Channel.keepLatest capacity (fired.take glimpse.count)
  /-- What was examined was fired under the tag after the registration, in this order. -/
  order : v.events.Sublist (Channel.named (C.tag kind) (fired.drop count))
  /-- Nothing was examined twice. -/
  once : (v.events.map BroadcastEvent.id).Nodup
  /-- Nothing was examined that had been fired before the registration. -/
  later : ∀ event ∈ v.events, ∀ old ∈ fired.take count, event.id ≠ old.id
  /-- What a look still found is examined, unless it is still left of the listing in hand. -/
  retained : ∀ event ∈ fired.drop count, event.name = C.tag kind →
    ∀ glimpse ∈ v.looks, event ∈ glimpse.held → event ∈ v.events ++ v.left
  /-- What was missed was driven out: enough other events were fired after it before the next
  look. -/
  missed : ∀ place event, fired[place]? = some event → count ≤ place → event.name = C.tag kind →
    event ∉ v.events ++ v.left →
      ∀ glimpse ∈ v.looks, place < glimpse.count → capacity ≤ glimpse.count - (place + 1)
  /-- For each event whose payload can be read the handler was called once, and for no other. -/
  answered : ∃ correlation, ∀ x ∈ v.examined,
    handler.Answers ((Context.system correlation).withHandler handler.name) x.1 x.2

/-- A vigil of the watcher that was started for a handler when so many events had been fired. -/
structure Serves (kind : C.Kind) (handler : EventHandler (C.Value kind)) (count : Nat)
    (v : Vigil C) : Prop where
  since : v.since = count
  watcher : ∃ correlation seen lastIndex running, v.watcher =
    ⟨kind, handler, (Context.system correlation).withHandler handler.name, seen, lastIndex, running⟩

/-- A watcher goes on serving the handler that it was started for. -/
theorem Serves.step {kind : C.Kind} {handler : EventHandler (C.Value kind)} {count n : Nat}
    (h : v.Serves kind handler count) (hstep : Step channel n v calls moved) :
    moved.Serves kind handler count := by
  obtain ⟨hsince, correlation, seen, lastIndex, running, hwatcher⟩ := h
  cases hstep with
  | idle => exact ⟨hsince, correlation, seen, lastIndex, running, hwatcher⟩
  | ended hclosed => exact ⟨hsince, correlation, seen, lastIndex, false, by rw [hwatcher]⟩
  | listed hnone => exact ⟨hsince, correlation, seen, lastIndex, running, hwatcher⟩
  | skipped hhand hseen => exact ⟨hsince, correlation, seen, lastIndex, running, hwatcher⟩
  | examined hhand hnew hanswers =>
    exact ⟨hsince, correlation, seen, lastIndex, running, hwatcher⟩
  | finished hhand => exact ⟨hsince, correlation, _, _, running, by rw [hwatcher]; rfl⟩

/-- The invariant says that a handler is served exactly. -/
theorem exact_of_kept (h : v.Kept capacity fired) (hnodup : (fired.map BroadcastEvent.id).Nodup)
    {kind : C.Kind} {handler : EventHandler (C.Value kind)} {count : Nat}
    (hserves : v.Serves kind handler count) : v.Exact capacity fired kind handler count := by
  obtain ⟨rfl, correlation, seen, lastIndex, running, hwatcher⟩ := hserves
  have htag : v.watcher.tag = C.tag kind := by rw [Watcher.tag, hwatcher]
  have haccount := h.account
  rw [htag] at haccount
  have horder : v.events.Sublist (Channel.named (C.tag kind) (fired.drop v.since)) := by
    have hgathered : (Channel.gathered capacity fired (C.tag kind) v.since v.moments).Sublist
        (Channel.named (C.tag kind) (fired.drop v.since)) :=
      Channel.gathered_sublist h.successive
    rw [← haccount] at hgathered
    exact (List.sublist_append_left _ _).trans hgathered
  have hsublist : v.events.Sublist (fired.drop v.since) := horder.trans List.filter_sublist
  refine ⟨?_, horder, ?_, ?_, ?_, ?_, correlation, ?_⟩
  · intro glimpse hglimpse
    have hbounds := h.successive.bounds glimpse.count (List.mem_map_of_mem hglimpse)
    exact ⟨hbounds.1, hbounds.2, h.glimpses glimpse hglimpse⟩
  · exact hnodup.sublist ((hsublist.trans (List.drop_sublist _ _)).map _)
  · intro event hevent old hold
    exact Channel.ne_of_mem_take_of_mem_drop hnodup hold (hsublist.subset hevent)
  · intro event hevent hname glimpse hglimpse hheld
    rw [h.glimpses glimpse hglimpse] at hheld
    rw [haccount]
    exact Channel.mem_gathered_of_mem_held h.successive hnodup hname hevent
      (List.mem_map_of_mem hglimpse) hheld
  · intro place event hplace hsince hname hmissed glimpse hglimpse hbefore
    rw [haccount] at hmissed
    exact Channel.le_of_not_mem_gathered h.successive hplace hname hsince
      (List.mem_map_of_mem hglimpse) hbefore hmissed
  · have hanswered := h.answered
    rw [hwatcher] at hanswered
    exact hanswered

/-- Going on by an event of the listing in hand moves it to what was examined, if it is new. -/
theorem examine_of_cons {listing : Listing} {event : BroadcastEvent} {rest : List BroadcastEvent}
    (hhand : v.inHand = some (listing, event :: rest)) (channel : Channel) (count : Nat)
    (s : Session C) :
    let moved := (v.act channel count .examine s).1
    moved.inHand = some (listing, rest) ∧ moved.looks = v.looks ∧
      moved.events ++ moved.left = v.events ++ v.left := by
  rw [left_of_some hhand]
  cases hseen : v.watcher.seen.contains event.id with
  | true =>
    rw [act_examine_of_seen _ _ hhand hseen, Channel.unseen_cons_of_seen hseen]
    exact ⟨rfl, rfl, rfl⟩
  | false =>
    obtain ⟨calls, -, -, hact⟩ := act_examine_of_new channel count hhand hseen s
    rw [hact, Channel.unseen_cons_of_new hseen]
    refine ⟨rfl, rfl, ?_⟩
    rw [left_of_some rfl]
    simp [events]

end Vigil

/-! ## Histories -/

namespace WatchedChannel

variable {capacity : Nat} {d : WatchedChannel C}

/-- The invariant of a watched channel, provided that no two events have the same id. -/
structure Kept (size : Nat) (d : WatchedChannel C) : Prop where
  holds : d.channel.Holds size d.fired
  /-- All watchers are at work as long as the channel is open. -/
  running : d.channel.closed = false → ∀ v ∈ d.vigils, v.watcher.running = true
  vigils : (d.fired.map BroadcastEvent.id).Nodup → ∀ v ∈ d.vigils, v.Kept size d.fired

theorem kept_start (capacity : Nat) (s : Session C) : (start capacity s).Kept (max capacity 1) :=
  ⟨Channel.holds_start capacity, fun _ => List.forall_mem_nil _, fun _ => List.forall_mem_nil _⟩

/-- Whatever happens keeps the invariant. -/
theorem Kept.step (h : d.Kept capacity) (act : WatchAct C) : (d.step act).Kept capacity := by
  cases act with
  | fire event =>
    simp only [WatchedChannel.step]
    split
    · rename_i channel hfire
      refine ⟨h.holds.fire hfire, fun _ => h.running (Channel.closed_of_fire hfire),
        fun hnodup v hv => ?_⟩
      rw [List.map_append] at hnodup
      exact (h.vigils (List.nodup_append.mp hnodup).1 v hv).fire event
    · exact h
  | watch kind handler now =>
    have hnew : ∀ w ∈ (d.enter kind handler now).1.map (Vigil.start d.fired.length),
        w = Vigil.start d.fired.length (Watcher.start kind handler
          (Uuid.random d.session.nextId).text (d.channel.listing (C.tag kind)).events) := by
      intro w hw
      rw [(d.enter_eq kind handler now).2] at hw
      split at hw
      · cases hw
      · rwa [List.map_singleton, List.mem_singleton] at hw
    refine ⟨h.holds, fun hopen v hv => ?_, fun hnodup v hv => ?_⟩
    · rcases List.mem_append.mp hv with hv | hv
      · exact h.running hopen v hv
      · rw [hnew v hv]
        rfl
    · rcases List.mem_append.mp hv with hv | hv
      · exact h.vigils hnodup v hv
      · rw [hnew v hv]
        exact Vigil.kept_start h.holds kind handler _
  | move place next =>
    cases hplace : d.vigils[place]? with
    | none =>
      simp only [WatchedChannel.step, hplace]
      exact h
    | some v =>
      obtain ⟨calls, moved, session, hstep, -, hd⟩ := step_move hplace next
      have hv := List.mem_of_getElem? hplace
      rw [hd]
      refine ⟨h.holds, fun hopen w hw => ?_, fun hnodup w hw => ?_⟩
      · rcases List.mem_or_eq_of_mem_set hw with hold | rfl
        · exact h.running hopen w hold
        · exact (hstep.running_eq hopen).trans (h.running hopen v hv)
      · rcases List.mem_or_eq_of_mem_set hw with hold | rfl
        · exact h.vigils hnodup w hold
        · exact (h.vigils hnodup v hv).step h.holds hnodup hstep
  | close =>
    refine ⟨h.holds.close, fun hopen => ?_, h.vigils⟩
    cases hopen

/-- Every history keeps the invariant. -/
theorem Kept.run (h : d.Kept capacity) (acts : List (WatchAct C)) :
    (d.run acts).Kept capacity := by
  induction acts generalizing d with
  | nil => exact h
  | cons act rest ih => exact ih (h.step act)

/-- Whoever serves a handler keeps its place and goes on serving it. -/
theorem serves_step {place count : Nat} {kind : C.Kind} {handler : EventHandler (C.Value kind)}
    (h : ∃ v, d.vigils[place]? = some v ∧ v.Serves kind handler count) (act : WatchAct C) :
    ∃ v, (d.step act).vigils[place]? = some v ∧ v.Serves kind handler count := by
  obtain ⟨v, hplace, hserves⟩ := h
  cases act with
  | fire event =>
    simp only [WatchedChannel.step]
    split <;> exact ⟨v, hplace, hserves⟩
  | watch kind' handler' now =>
    obtain ⟨hlt, -⟩ := List.getElem?_eq_some_iff.mp hplace
    exact ⟨v, (List.getElem?_append_left hlt).trans hplace, hserves⟩
  | move place' next =>
    cases hplace' : d.vigils[place']? with
    | none =>
      simp only [WatchedChannel.step, hplace']
      exact ⟨v, hplace, hserves⟩
    | some w =>
      obtain ⟨calls, moved, session, hstep, -, hd⟩ := step_move hplace' next
      rw [hd]
      by_cases hsame : place' = place
      · subst hsame
        obtain rfl : v = w := Option.some_inj.mp (hplace.symm.trans hplace')
        obtain ⟨hlt, -⟩ := List.getElem?_eq_some_iff.mp hplace
        exact ⟨moved, List.getElem?_set_self hlt, hserves.step hstep⟩
      · exact ⟨v, (List.getElem?_set_ne hsame).trans hplace, hserves⟩
  | close => exact ⟨v, hplace, hserves⟩

theorem serves_run {place count : Nat} {kind : C.Kind} {handler : EventHandler (C.Value kind)}
    (h : ∃ v, d.vigils[place]? = some v ∧ v.Serves kind handler count)
    (acts : List (WatchAct C)) :
    ∃ v, (d.run acts).vigils[place]? = some v ∧ v.Serves kind handler count := by
  induction acts generalizing d with
  | nil => exact h
  | cons act rest ih => exact ih (serves_step h act)

/-- A handler that is registered on an open channel gets a watcher behind all others. -/
theorem serves_watch (hopen : d.channel.closed = false) (kind : C.Kind)
    (handler : EventHandler (C.Value kind)) (now : Instant) :
    ∃ v, (d.step (.watch kind handler now)).vigils[d.vigils.length]? = some v ∧
      v.Serves kind handler d.fired.length := by
  refine ⟨Vigil.start d.fired.length (Watcher.start kind handler
    (Uuid.random d.session.nextId).text (d.channel.listing (C.tag kind)).events), ?_, rfl,
    _, _, _, _, rfl⟩
  simp only [WatchedChannel.step, (d.enter_eq kind handler now).2, hopen, Bool.false_eq_true,
    if_false, List.map_singleton, List.getElem?_concat_length]

/-- A step of a watcher is found at its place. -/
theorem getElem?_move {place : Nat} {v : Vigil C} (hplace : d.vigils[place]? = some v)
    (next : VigilAct) :
    (d.step (.move place next)).vigils[place]? =
      some (v.act d.channel d.fired.length next { d.session with background := true }).1 := by
  obtain ⟨hlt, -⟩ := List.getElem?_eq_some_iff.mp hplace
  simp only [WatchedChannel.step, hplace]
  exact List.getElem?_set_self hlt

/-- A watcher that goes on by itself comes to the end of the listing in hand and examines all that
is left of it. -/
theorem exists_drive_examine {place : Nat} {v : Vigil C} (hplace : d.vigils[place]? = some v) :
    ∃ n moved, (d.drive place (List.replicate n .examine)).vigils[place]? = some moved ∧
      moved.inHand = none ∧ moved.looks = v.looks ∧ moved.events = v.events ++ v.left := by
  cases hhand : v.inHand with
  | none => exact ⟨0, v, hplace, hhand, rfl, by rw [Vigil.left_of_none hhand, List.append_nil]⟩
  | some inHand =>
    obtain ⟨listing, rest⟩ := inHand
    induction rest generalizing d v with
    | nil =>
      have hmove := getElem?_move hplace .examine
      rw [Vigil.act_examine_of_nil _ _ hhand] at hmove
      refine ⟨1, _, hmove, rfl, rfl, ?_⟩
      rw [Vigil.left_of_some hhand]
      exact (List.append_nil _).symm
    | cons event rest ih =>
      obtain ⟨hrest, hlooks, hevents⟩ := Vigil.examine_of_cons hhand d.channel d.fired.length
        { d.session with background := true }
      obtain ⟨n, moved, hmoved, hnone, hsame, hdone⟩ :=
        ih (getElem?_move hplace .examine) hrest
      exact ⟨n + 1, moved, hmoved, hnone, hsame.trans hlooks, hdone.trans hevents⟩

/-- While the channel is open, a watcher that works by itself gets to look at it, and to the end of
what it then has in hand. -/
theorem exists_drive_list (h : d.Kept capacity) (hopen : d.channel.closed = false) {place : Nat}
    {v : Vigil C} (hplace : d.vigils[place]? = some v) :
    ∃ moves moved, (d.drive place moves).vigils[place]? = some moved ∧ moved.inHand = none ∧
      ⟨d.fired.length, d.channel.events⟩ ∈ moved.looks := by
  obtain ⟨n, free, hfree, hnone, -⟩ := exists_drive_examine hplace
  obtain ⟨hchannel, hfired⟩ := d.drive_frame place (List.replicate n .examine)
  have hkept : (d.drive place (List.replicate n .examine)).Kept capacity := h.run _
  rw [← hchannel] at hopen
  have hrunning := hkept.running hopen free (List.mem_of_getElem? hfree)
  -- A listing whose deadline has come is never too early.
  have hlook := getElem?_move hfree (.list (some 0) 0)
  rw [Vigil.act_list_of_ok hrunning hnone] at hlook
  · obtain ⟨m, moved, hmoved, hdone, hlooks, -⟩ := exists_drive_examine hlook
    refine ⟨List.replicate n .examine ++ .list (some 0) 0 :: List.replicate m .examine, moved,
      ?_, hdone, ?_⟩
    · rw [drive_append]
      exact hmoved
    · rw [hlooks, ← hfired, ← hchannel]
      exact List.mem_append_right _ List.mem_cons_self
  · rw [Channel.list, if_neg (by simp [hopen]), if_pos (.inr (.inr rfl))]

/-- While the channel is open, whoever serves a handler has only to go on working in order to
examine each later event of the tag that the channel holds. -/
theorem exists_drive_held (h : d.Kept capacity) (hopen : d.channel.closed = false)
    (hnodup : (d.fired.map BroadcastEvent.id).Nodup) {place count : Nat} {v : Vigil C}
    (hplace : d.vigils[place]? = some v) {kind : C.Kind} {handler : EventHandler (C.Value kind)}
    (hserves : v.Serves kind handler count) :
    ∃ moves moved, (d.drive place moves).vigils[place]? = some moved ∧
      ∀ event ∈ d.channel.events, event ∈ d.fired.drop count → event.name = C.tag kind →
        event ∈ moved.events := by
  obtain ⟨moves, moved, hmoved, hnone, hlook⟩ := exists_drive_list h hopen hplace
  refine ⟨moves, moved, hmoved, fun event hheld hlater hname => ?_⟩
  obtain ⟨-, hfired⟩ := d.drive_frame place moves
  obtain ⟨w, hw, hstill⟩ := serves_run ⟨v, hplace, hserves⟩ (moves.map (.move place))
  obtain rfl : w = moved := Option.some_inj.mp (hw.symm.trans hmoved)
  have hkept : (d.drive place moves).Kept capacity := h.run _
  rw [← hfired] at hnodup hlater hlook
  have hexact := Vigil.exact_of_kept
    (hkept.vigils hnodup w (List.mem_of_getElem? hmoved)) hnodup hstill
  have hmem := hexact.retained event hlater hname _ hlook hheld
  rwa [Vigil.left_of_none hnone, List.append_nil] at hmem

/-- Over every history around a channel of any capacity in which no two events have the same id, the
watcher of every handler that is registered serves it exactly.  By going on alone it examines what
is left of the listing in hand and, while the channel is open, what the channel holds.  Only
examinations call handlers, and payloads and handlers have no say in which events are examined. -/
theorem run_exact {capacity : Nat} {s : Session C} {before after : List (WatchAct C)}
    {kind : C.Kind} {handler : EventHandler (C.Value kind)} {now : Instant}
    (hopen : ((start capacity s).run before).channel.closed = false)
    (hfresh : (((start capacity s).run (before ++ .watch kind handler now :: after)).fired.map
      BroadcastEvent.id).Nodup) :
    let acts := before ++ .watch kind handler now :: after
    let first := (start capacity s).run before
    let d := (start capacity s).run acts
    let place := first.vigils.length
    ∃ v, d.vigils[place]? = some v ∧
      v.Exact (max capacity 1) d.fired kind handler first.fired.length ∧
      (∃ n moved, (d.drive place (List.replicate n .examine)).vigils[place]? = some moved ∧
        moved.inHand = none ∧ moved.events = v.events ++ v.left) ∧
      (d.channel.closed = false →
        ∃ moves moved, (d.drive place moves).vigils[place]? = some moved ∧
          ∀ event ∈ d.channel.events, event ∈ d.fired.drop first.fired.length →
            event.name = C.tag kind → event ∈ moved.events) ∧
      d.session.calls.Perm (s.calls ++ d.vigils.flatMap Vigil.calls) ∧
      ∀ s' acts', List.Forall₂ WatchAct.Alike acts acts' →
        ∃ v', ((start capacity s').run acts').vigils[place]? = some v' ∧
          v'.events.map BroadcastEvent.id = v.events.map BroadcastEvent.id := by
  intro acts first d place
  have hsplit : d = (first.step (.watch kind handler now)).run after := List.foldl_append
  have hkept : d.Kept (max capacity 1) := (kept_start capacity s).run acts
  obtain ⟨v, hplace, hserves⟩ := serves_run (serves_watch hopen kind handler now) after
  rw [← hsplit] at hplace
  have hv : v.Kept (max capacity 1) d.fired :=
    hkept.vigils hfresh v (List.mem_of_getElem? hplace)
  obtain ⟨n, moved, hmoved, hnone, -, hdone⟩ := exists_drive_examine hplace
  refine ⟨v, hplace, Vigil.exact_of_kept hv hfresh hserves, ⟨n, moved, hmoved, hnone, hdone⟩,
    fun hstill => exists_drive_held hkept hstill hfresh hplace hserves, ?_,
    fun s' acts' hacts => ?_⟩
  · have hstart : (start capacity s).Accounted s := by
      rw [Accounted, start, List.flatMap_nil, List.append_nil]
    exact hstart.run acts
  · have halike : (start capacity s).Alike (start capacity s') :=
      ⟨Channel.Alike.refl _, rfl⟩
    have hsame := congrArg (fun outlines => outlines[place]?) (halike.run hacts).outlines
    simp only [List.getElem?_map] at hsame
    rw [show ((start capacity s).run acts).vigils[place]? = some v from hplace] at hsame
    obtain ⟨v', hplace', houtline⟩ := Option.map_eq_some_iff.mp hsame.symm
    exact ⟨v', hplace', congrArg Outline.examined houtline⟩

end WatchedChannel

/-- The sample service, whose result types go without names. -/
abbrev Sample.plaza : Catalogue :=
  catalogue fun _ => ""

/-- A channel that keeps two events, a ping of before, and a handler that panics: of four pings the
first is driven out, the second cannot be read, and the third is handed over all the same. -/
theorem WatchedChannel.run_exact_two :
    let pings : EventHandler (Sample.plaza.Value .ping) :=
      ⟨1, "pings", .plain fun _ _ => .panicked .wordless⟩
    let before : List (WatchAct Sample.plaza) := [.fire ⟨"a", "Ping", "null"⟩]
    let look (events : Nat) : List (WatchAct Sample.plaza) :=
      .move 0 (.list none 0) :: List.replicate (events + 1) (.move 0 .examine)
    let after : List (WatchAct Sample.plaza) :=
      [.fire ⟨"b", "Ping", "null"⟩, .fire ⟨"c", "Ping", "?"⟩, .fire ⟨"d", "Shape", "null"⟩] ++
        look 1 ++ [.fire ⟨"e", "Ping", "null"⟩] ++ look 1
    let s : Session Sample.plaza := .start ⟨[], []⟩ 0
    let first := (start 2 s).run before
    let d := (start 2 s).run (before ++ .watch .ping pings 0 :: after)
    first.channel.closed = false ∧ (d.fired.map BroadcastEvent.id).Nodup ∧
      ∃ v : Vigil Sample.plaza, d.vigils[0]? = some v ∧
        v.Exact 2 d.fired (.ping : Sample.plaza.Kind) pings 1 ∧
        (v.examined.map fun x => (x.1.id, x.2.length)) = [("c", 0), ("e", 1)] := by
  intro pings before look after s first d
  have hopen : first.channel.closed = false := rfl
  have hfresh : (d.fired.map BroadcastEvent.id).Nodup := by decide
  have hexamined : (d.vigils[0]?.map fun v => v.examined.map fun x => (x.1.id, x.2.length)) =
      some [("c", 0), ("e", 1)] := by decide +kernel
  obtain ⟨v, hplace, hexact, -⟩ := run_exact hopen hfresh
  refine ⟨hopen, hfresh, v, hplace, hexact, ?_⟩
  have hv : d.vigils[0]? = some v := hplace
  rw [hv] at hexamined
  exact Option.some_inj.mp hexamined

end Switchboard
