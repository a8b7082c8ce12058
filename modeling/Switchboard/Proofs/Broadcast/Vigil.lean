import Mathlib.Data.List.Basic
import Switchboard.Broadcast.LiveChannel
import Switchboard.Proofs.Broadcast.Retention
import Switchboard.Proofs.Session

/-!
# Watchers at work

A channel with all who watch it, in small steps: events are fired, handlers are registered, and each
watcher lists the channel or goes on with the listing in hand by one event, in any order.  A vigil
is a watcher together with what the steps leave behind: when it looked, what the channel held then,
and which events it examined by which calls.

Main results:

- Definition {lit}`WatchedChannel.step`: what may happen.
- Theorem {lit}`Vigil.step_act`: all that a step of one watcher can do.
- Theorem {lit}`Vigil.turn_eq`: the steps of a watcher make up {lit}`Watcher.turn`.
- Theorem {lit}`WatchedChannel.Accounted.run`: only examinations call handlers.
-/

namespace Switchboard

variable {C : Catalogue}

/-! ## Listings and events -/

/-- A listing that has an answer finds the channel closed, or shows the events of the name. -/
theorem Channel.list_eq_some {c : Channel} {name : String} {waitIndex : Nat}
    {deadline : Option Instant} {now : Instant} {answer : Except TransportError Listing}
    (h : c.list name waitIndex deadline now = some answer) :
    answer = .error .closed ∧ c.closed = true ∨ answer = .ok (c.listing name) := by
  unfold list at h
  split at h
  · rename_i hclosed
    cases h
    exact .inl ⟨rfl, hclosed⟩
  · split at h
    · cases h
      exact .inr rfl
    · cases h

/-- The calls by which a handler answers an event in a context: one with the payload if there is a
payload to hand over, and none otherwise. -/
def EventHandler.Answers {kind : C.Kind} (h : EventHandler (C.Value kind)) (ctx : Context)
    (event : BroadcastEvent) (calls : List (Call C)) : Prop :=
  match C.decode kind event.payload with
  | none => calls = []
  | some payload => ∃ call, calls = [call] ∧ call.Serves h.callee ctx payload

namespace Watcher

/-- Examining an event is answering it, and adds nothing else to the record. -/
theorem calls_examine (w : Watcher C) (event : BroadcastEvent) (s : Session C) :
    ∃ calls, (w.examine event s).2.calls = s.calls ++ calls ∧
      w.handler.Answers w.context event calls := by
  cases hdecode : C.decode w.kind event.payload with
  | none =>
    simp only [examine, EventHandler.Answers, hdecode]
    exact ⟨[], by rw [Session.calls_report, List.append_nil], rfl⟩
  | some payload =>
    obtain ⟨call, hcalls, -, hcallee, hinput⟩ :=
      w.handler.toHandler.calls_call (.handler w.kind payload) w.context payload s
    simp only [examine, EventHandler.Answers, hdecode, bind_apply]
    refine ⟨[call], ?_, call, rfl, hcallee, hinput⟩
    -- However the call ended, at most a log entry follows.
    cases contain w.tag (w.handler.call w.context payload s).1 with
    | ok _ => exact hcalls
    | error e => exact hcalls

/-- A watcher that is done with a listing. -/
def finish (w : Watcher C) (listing : Listing) : Watcher C :=
  { w with
    seen := listing.events.map BroadcastEvent.id
    lastIndex := nextIndex w.lastIndex listing.index }

end Watcher

/-! ## One watcher -/

/-- A look at a channel: how many events had been fired, and which it held. -/
structure Glimpse where
  count : Nat
  held : List BroadcastEvent

/-- A watcher at work. -/
structure Vigil (C : Catalogue) where
  watcher : Watcher C
  /-- The listing in hand, and what is left of it. -/
  inHand : Option (Listing × List BroadcastEvent)
  /-- How many events had been fired when its handler was registered. -/
  since : Nat
  /-- The looks that gave it listings, the first first. -/
  looks : List Glimpse
  /-- The events it examined, each with the calls that this took. -/
  examined : List (BroadcastEvent × List (Call C))

/-- What a watcher does next. -/
inductive VigilAct where
  /-- It lists the channel, waiting until a deadline. -/
  | list (deadline : Option Instant) (now : Instant)
  /-- It goes on with the listing in hand. -/
  | examine

namespace Vigil

/-- A watcher that was started when so many events had been fired. -/
def start (count : Nat) (watcher : Watcher C) : Vigil C :=
  ⟨watcher, none, count, [], []⟩

/-- The events that were examined. -/
def events (v : Vigil C) : List BroadcastEvent :=
  v.examined.map Prod.fst

/-- All calls that examinations took. -/
def calls (v : Vigil C) : List (Call C) :=
  v.examined.flatMap Prod.snd

/-- What is still to be examined of the listing in hand. -/
def left (v : Vigil C) : List BroadcastEvent :=
  match v.inHand with
  | none => []
  | some (_, rest) => Channel.unseen v.watcher.seen rest

/-- The moments of all looks, counted in fires. -/
def moments (v : Vigil C) : List Nat :=
  v.looks.map Glimpse.count

/-- The moment of the latest look, or of the registration. -/
def latest (v : Vigil C) : Nat :=
  v.moments.getLastD v.since

/-- The vigil with a new listing in hand. -/
def take (v : Vigil C) (glimpse : Glimpse) (listing : Listing) : Vigil C :=
  { v with inHand := some (listing, listing.events), looks := v.looks ++ [glimpse] }

/-- A step of a watcher.  It does not list again before it is done with the listing in hand. -/
def act (channel : Channel) (count : Nat) (v : Vigil C) : VigilAct → Activity C (Vigil C)
  | .list deadline now =>
    if v.watcher.running && v.inHand.isNone then
      match channel.list v.watcher.tag v.watcher.lastIndex deadline now with
      | none => return v
      | some (.ok listing) => return v.take ⟨count, channel.events⟩ listing
      | some (.error e) => return { v with watcher := ← v.watcher.observe (.error e) }
    else return v
  | .examine =>
    match v.inHand with
    | none => return v
    | some (listing, []) => return { v with watcher := v.watcher.finish listing, inHand := none }
    | some (listing, event :: rest) =>
      if v.watcher.seen.contains event.id then return { v with inHand := some (listing, rest) }
      else fun s =>
        let s' := (v.watcher.examine event s).2
        ({ v with
            inHand := some (listing, rest)
            examined := v.examined ++ [(event, s'.calls.drop s.calls.length)] }, s')

/-- All that a step can do, with the calls that it adds to the record. -/
inductive Step (channel : Channel) (count : Nat) (v : Vigil C) : List (Call C) → Vigil C → Prop
  /-- It is too early for a listing, there is nothing in hand, or the watcher has ended. -/
  | idle : Step channel count v [] v
  /-- The watcher finds the channel closed and ends. -/
  | ended (hclosed : channel.closed = true) :
      Step channel count v [] { v with watcher := { v.watcher with running := false } }
  /-- It has got a listing. -/
  | listed (hnone : v.inHand = none) :
      Step channel count v []
        (v.take ⟨count, channel.events⟩ (channel.listing v.watcher.tag))
  /-- An event was in the listing before. -/
  | skipped {listing : Listing} {event : BroadcastEvent} {rest : List BroadcastEvent}
      (hhand : v.inHand = some (listing, event :: rest))
      (hseen : v.watcher.seen.contains event.id = true) :
      Step channel count v [] { v with inHand := some (listing, rest) }
  /-- An event is examined. -/
  | examined {listing : Listing} {event : BroadcastEvent} {rest : List BroadcastEvent}
      {calls : List (Call C)} (hhand : v.inHand = some (listing, event :: rest))
      (hnew : v.watcher.seen.contains event.id = false)
      (hanswers : v.watcher.handler.Answers v.watcher.context event calls) :
      Step channel count v calls
        { v with
          inHand := some (listing, rest)
          examined := v.examined ++ [(event, calls)] }
  /-- The watcher is done with a listing. -/
  | finished {listing : Listing} (hhand : v.inHand = some (listing, [])) :
      Step channel count v [] { v with watcher := v.watcher.finish listing, inHand := none }

section
variable {v : Vigil C} {listing : Listing} {event : BroadcastEvent} {rest : List BroadcastEvent}
  (channel : Channel) (count : Nat)

theorem left_of_none (hhand : v.inHand = none) : v.left = [] := by
  rw [left, hhand]

theorem left_of_some (hhand : v.inHand = some (listing, rest)) :
    v.left = Channel.unseen v.watcher.seen rest := by
  rw [left, hhand]

theorem act_examine_of_none (hhand : v.inHand = none) :
    v.act channel count .examine = pure v := by
  simp only [act, hhand]

theorem act_examine_of_nil (hhand : v.inHand = some (listing, [])) :
    v.act channel count .examine =
      pure { v with watcher := v.watcher.finish listing, inHand := none } := by
  simp only [act, hhand]

theorem act_examine_of_seen (hhand : v.inHand = some (listing, event :: rest))
    (hseen : v.watcher.seen.contains event.id = true) :
    v.act channel count .examine = pure { v with inHand := some (listing, rest) } := by
  simp only [act, hhand, hseen, if_true]

theorem act_examine_of_new (hhand : v.inHand = some (listing, event :: rest))
    (hnew : v.watcher.seen.contains event.id = false) (s : Session C) :
    ∃ calls, (v.watcher.examine event s).2.calls = s.calls ++ calls ∧
      v.watcher.handler.Answers v.watcher.context event calls ∧
      v.act channel count .examine s =
        ({ v with
            inHand := some (listing, rest)
            examined := v.examined ++ [(event, calls)] }, (v.watcher.examine event s).2) := by
  obtain ⟨calls, hcalls, hanswers⟩ := v.watcher.calls_examine event s
  refine ⟨calls, hcalls, hanswers, ?_⟩
  simp only [act, hhand, hnew, Bool.false_eq_true, if_false, hcalls, List.drop_left]

end

/-- A step does one of these things, and adds the calls that it is said to add. -/
theorem step_act (channel : Channel) (count : Nat) (v : Vigil C) (next : VigilAct)
    (s : Session C) :
    ∃ calls, (v.act channel count next s).2.calls = s.calls ++ calls ∧
      Step channel count v calls (v.act channel count next s).1 := by
  have hnil : s.calls = s.calls ++ [] := (List.append_nil _).symm
  cases next with
  | list deadline now =>
    simp only [act]
    split
    · rename_i hfree
      simp only [Bool.and_eq_true, Option.isNone_iff_eq_none] at hfree
      cases hlist : channel.list v.watcher.tag v.watcher.lastIndex deadline now with
      | none => exact ⟨[], hnil, .idle⟩
      | some answer =>
        rcases Channel.list_eq_some hlist with ⟨rfl, hclosed⟩ | rfl
        · exact ⟨[], hnil, .ended hclosed⟩
        · exact ⟨[], hnil, .listed hfree.2⟩
    · exact ⟨[], hnil, .idle⟩
  | examine =>
    rcases hhand : v.inHand with _ | ⟨listing, _ | ⟨event, rest⟩⟩
    · rw [act_examine_of_none _ _ hhand]
      exact ⟨[], hnil, .idle⟩
    · rw [act_examine_of_nil _ _ hhand]
      exact ⟨[], hnil, .finished hhand⟩
    · cases hseen : v.watcher.seen.contains event.id with
      | true =>
        rw [act_examine_of_seen _ _ hhand hseen]
        exact ⟨[], hnil, .skipped hhand hseen⟩
      | false =>
        obtain ⟨calls, hcalls, hanswers, hact⟩ := act_examine_of_new channel count hhand hseen s
        rw [hact]
        exact ⟨calls, hcalls, .examined hhand hseen hanswers⟩

/-- The calls of a step are kept with the event that it examines. -/
theorem Step.calls_eq {channel : Channel} {count : Nat} {v moved : Vigil C}
    {calls : List (Call C)} (h : Step channel count v calls moved) :
    moved.calls = v.calls ++ calls := by
  cases h with
  | examined hhand hnew hanswers =>
    rw [Vigil.calls, List.flatMap_append, List.flatMap_singleton]
    rfl
  | idle => exact (List.append_nil _).symm
  | ended hclosed => exact (List.append_nil _).symm
  | listed hnone => exact (List.append_nil _).symm
  | skipped hhand hseen => exact (List.append_nil _).symm
  | finished hhand => exact (List.append_nil _).symm

/-- No watcher ends before the channel is closed. -/
theorem Step.running_eq {channel : Channel} {count : Nat} {v moved : Vigil C}
    {calls : List (Call C)} (h : Step channel count v calls moved)
    (hopen : channel.closed = false) : moved.watcher.running = v.watcher.running := by
  cases h with
  | ended hclosed =>
    rw [hopen] at hclosed
    cases hclosed
  | idle => rfl
  | listed hnone => rfl
  | skipped hhand hseen => rfl
  | examined hhand hnew hanswers => rfl
  | finished hhand => rfl

/-! ## A whole listing -/

/-- A watcher goes on by so many events. -/
def goOn (channel : Channel) (count : Nat) : Nat → Vigil C → Activity C (Vigil C)
  | 0, v => return v
  | n + 1, v => do goOn channel count n (← v.act channel count .examine)

/-- What is left of a listing is examined as {lit}`Watcher.examineNew` does it. -/
theorem goOn_eq (channel : Channel) (count : Nat) {v : Vigil C} {listing : Listing}
    {rest : List BroadcastEvent} (hhand : v.inHand = some (listing, rest)) (s : Session C) :
    let done := v.goOn channel count (rest.length + 1) s
    done.1.watcher = v.watcher.finish listing ∧ done.2 = (v.watcher.examineNew rest s).2 := by
  induction rest generalizing v s with
  | nil =>
    rw [List.length_nil, goOn, act_examine_of_nil _ _ hhand]
    exact ⟨rfl, rfl⟩
  | cons event rest ih =>
    rw [List.length_cons, goOn, Watcher.examineNew]
    cases hseen : v.watcher.seen.contains event.id with
    | true =>
      rw [act_examine_of_seen _ _ hhand hseen]
      exact ih rfl s
    | false =>
      obtain ⟨calls, -, -, hact⟩ := act_examine_of_new channel count hhand hseen s
      rw [bind_apply, hact]
      exact ih rfl (v.watcher.examine event s).2

/-- One turn of a watcher is a step to list the channel, and as many more as it takes to go through
the listing. -/
theorem turn_eq (live : LiveChannel) (count : Nat) {v : Vigil C} (hnone : v.inHand = none)
    (wait : Duration) (s : Session C) :
    let listed := v.act live.channel count (.list (Instant.after? live.now wait) live.now) s
    ∃ n, let done := listed.1.goOn live.channel count n listed.2
      (v.watcher.turn wait live s).1.1 = done.1.watcher ∧
        (v.watcher.turn wait live s).2 = done.2 := by
  simp only [act, hnone, Option.isNone_none, Bool.and_true]
  cases hrunning : v.watcher.running with
  | false =>
    refine ⟨0, ?_⟩
    simp only [Watcher.turn, hrunning]
    exact ⟨rfl, rfl⟩
  | true =>
    simp only [if_true, Watcher.turn, hrunning, BroadcastMedium.list]
    cases live.channel.list v.watcher.tag v.watcher.lastIndex (Instant.after? live.now wait)
      live.now with
    | none => exact ⟨0, rfl, rfl⟩
    | some answer =>
      cases answer with
      | error e => exact ⟨0, rfl, rfl⟩
      | ok listing =>
        obtain ⟨hwatcher, hsession⟩ := goOn_eq live.channel count
          (v := v.take ⟨count, live.channel.events⟩ listing) rfl s
        exact ⟨listing.events.length + 1, hwatcher.symm, hsession.symm⟩

end Vigil

/-! ## All watchers -/

/-- What happens around a channel. -/
inductive WatchAct (C : Catalogue) where
  /-- An event is fired. -/
  | fire (event : BroadcastEvent)
  /-- A handler is registered. -/
  | watch (kind : C.Kind) (handler : EventHandler (C.Value kind)) (now : Instant)
  /-- The watcher of that place makes a step. -/
  | move (place : Nat) (next : VigilAct)
  /-- The channel is closed. -/
  | close

/-- A channel with all who watch it. -/
structure WatchedChannel (C : Catalogue) where
  channel : Channel
  session : Session C
  /-- The events that were fired, the first first. -/
  fired : List BroadcastEvent
  /-- The watchers, in the order in which their handlers were registered. -/
  vigils : List (Vigil C)

namespace WatchedChannel

/-- A channel of a capacity that nobody watches yet. -/
def start (capacity : Nat) (s : Session C) : WatchedChannel C :=
  ⟨.start capacity, s, [], []⟩

/-- The watchers that a registration starts, and the session it leaves. -/
def enter (d : WatchedChannel C) (kind : C.Kind) (handler : EventHandler (C.Value kind))
    (now : Instant) : List (Watcher C) × Session C :=
  let live : LiveChannel := ⟨d.channel, now, [], []⟩
  let registered := (Node.start 0 : Node C).register kind handler live d.session
  (registered.1.2.1.watchers, registered.2)

/-- One thing happens. -/
def step (d : WatchedChannel C) : WatchAct C → WatchedChannel C
  | .fire event =>
    match d.channel.fire event with
    | .ok channel => { d with channel, fired := d.fired ++ [event] }
    | .error _ => d
  | .watch kind handler now =>
    let entered := d.enter kind handler now
    { d with
      session := entered.2
      vigils := d.vigils ++ entered.1.map (Vigil.start d.fired.length) }
  | .move place next =>
    match d.vigils[place]? with
    | none => d
    | some v =>
      let moved := Session.inBackground (v.act d.channel d.fired.length next) d.session
      { d with session := moved.2, vigils := d.vigils.set place moved.1 }
  | .close => { d with channel := d.channel.close }

/-- One thing after the other. -/
def run (d : WatchedChannel C) (acts : List (WatchAct C)) : WatchedChannel C :=
  acts.foldl step d

/-- The watcher of a place makes steps, and nothing else happens. -/
def drive (d : WatchedChannel C) (place : Nat) (moves : List VigilAct) : WatchedChannel C :=
  d.run (moves.map (.move place))

variable {d : WatchedChannel C}

/-- A registration starts one watcher that passes over what the channel holds, unless the channel
is closed; it calls nobody. -/
theorem enter_eq (d : WatchedChannel C) (kind : C.Kind) (handler : EventHandler (C.Value kind))
    (now : Instant) :
    (d.enter kind handler now).2.calls = d.session.calls ∧
      (d.enter kind handler now).1 =
        if d.channel.closed then []
        else [Watcher.start kind handler (Uuid.random d.session.nextId).text
          (d.channel.listing (C.tag kind)).events] := by
  cases hclosed : d.channel.closed with
  | true =>
    have hlist : d.channel.list (C.tag kind) 0 (Instant.after? now 0) now =
        some (.error .closed) := by
      rw [Channel.list, if_pos hclosed]
    simp only [enter, Node.register, BroadcastMedium.list, hlist]
    exact ⟨rfl, rfl⟩
  | false =>
    have hlist : d.channel.list (C.tag kind) 0 (Instant.after? now 0) now =
        some (.ok (d.channel.listing (C.tag kind))) := by
      rw [Channel.list, if_neg (by simp [hclosed]), if_pos (.inl rfl)]
    simp only [enter, Node.register, BroadcastMedium.list, hlist]
    exact ⟨rfl, rfl⟩

/-- A step of a watcher changes its vigil and the record, and nothing else. -/
theorem step_move {place : Nat} {v : Vigil C} (hplace : d.vigils[place]? = some v)
    (next : VigilAct) :
    ∃ calls moved session, Vigil.Step d.channel d.fired.length v calls moved ∧
      session.calls = d.session.calls ++ calls ∧
      d.step (.move place next) = { d with session, vigils := d.vigils.set place moved } := by
  obtain ⟨calls, hcalls, hstep⟩ :=
    v.step_act d.channel d.fired.length next { d.session with background := true }
  refine ⟨calls, _, _, hstep, ?_, by simp only [step, hplace]; rfl⟩
  exact hcalls

/-- The steps of one watcher change neither the channel nor what was fired. -/
theorem drive_frame (d : WatchedChannel C) (place : Nat) (moves : List VigilAct) :
    (d.drive place moves).channel = d.channel ∧ (d.drive place moves).fired = d.fired := by
  induction moves generalizing d with
  | nil => exact ⟨rfl, rfl⟩
  | cons next moves ih =>
    obtain ⟨hchannel, hfired⟩ := ih (d.step (.move place next))
    have hstep : (d.step (.move place next)).channel = d.channel ∧
        (d.step (.move place next)).fired = d.fired := by
      simp only [step]
      split <;> exact ⟨rfl, rfl⟩
    exact ⟨hchannel.trans hstep.1, hfired.trans hstep.2⟩

theorem drive_append (d : WatchedChannel C) (place : Nat) (moves moves' : List VigilAct) :
    d.drive place (moves ++ moves') = (d.drive place moves).drive place moves' := by
  rw [drive, List.map_append]
  exact List.foldl_append

/-! ## The record -/

/-- The record of calls is what it was at the start and what the examinations added, in some
order. -/
def Accounted (s : Session C) (d : WatchedChannel C) : Prop :=
  d.session.calls.Perm (s.calls ++ d.vigils.flatMap Vigil.calls)

/-- If one vigil of several makes calls, all together make them. -/
theorem perm_flatMap_set {l : List (Vigil C)} {place : Nat} {v moved : Vigil C}
    {calls : List (Call C)} (hplace : l[place]? = some v)
    (hcalls : moved.calls = v.calls ++ calls) :
    (l.flatMap Vigil.calls ++ calls).Perm ((l.set place moved).flatMap Vigil.calls) := by
  induction l generalizing place with
  | nil => cases hplace
  | cons first rest ih =>
    cases place with
    | zero =>
      obtain rfl : first = v := by simpa using hplace
      rw [List.set_cons_zero, List.flatMap_cons, List.flatMap_cons, hcalls, List.append_assoc,
        List.append_assoc]
      exact List.perm_append_comm.append_left _
    | succ place =>
      rw [List.set_cons_succ, List.flatMap_cons, List.flatMap_cons, List.append_assoc]
      exact (ih (by simpa using hplace)).append_left _

theorem Accounted.step {s : Session C} (h : d.Accounted s) (act : WatchAct C) :
    (d.step act).Accounted s := by
  cases act with
  | fire event =>
    simp only [WatchedChannel.step]
    split <;> exact h
  | watch kind handler now =>
    have hcalls : ∀ watchers : List (Watcher C),
        (watchers.map (Vigil.start d.fired.length)).flatMap Vigil.calls = [] := by
      intro watchers
      simp [List.flatMap_eq_nil_iff, Vigil.start, Vigil.calls]
    simp only [Accounted, WatchedChannel.step, (d.enter_eq kind handler now).1,
      List.flatMap_append, hcalls, List.append_nil]
    exact h
  | move place next =>
    cases hplace : d.vigils[place]? with
    | none =>
      simp only [WatchedChannel.step, hplace]
      exact h
    | some v =>
      obtain ⟨calls, moved, session, hstep, hcalls, hd⟩ := step_move hplace next
      rw [Accounted, hd, hcalls]
      refine (List.Perm.append_right calls h).trans ?_
      rw [List.append_assoc]
      exact (perm_flatMap_set hplace hstep.calls_eq).append_left _
  | close => exact h

/-- Only examinations call handlers, and no call is struck from the record. -/
theorem Accounted.run {s : Session C} (h : d.Accounted s) (acts : List (WatchAct C)) :
    (d.run acts).Accounted s := by
  induction acts generalizing d with
  | nil => exact h
  | cons act rest ih => exact ih (h.step act)

end WatchedChannel
end Switchboard
