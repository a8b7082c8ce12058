import Switchboard.Broadcast.LiveChannel
import Switchboard.Proofs.Broadcast.Retention

/-!
# The chronicle of a channel

A channel in time together with the record of all that was fired into it.  Events are fired, time
passes, listings are begun and wait, and in the end the channel is closed.  What a channel holds and
its index are functions of the record.  Whoever waits for a listing looks whenever something happens
that could matter to him: the invariant is that another look would change nothing.

Main results:

- Definition {lit}`Chronicle.step`: what may happen.
- Theorem {lit}`Chronicle.channel_step_cases`: what it may do to the channel and to the record.
- Theorem {lit}`Chronicle.reply_run_iff`: a listing is answered by the first moment that has an
  answer to it.
- Theorem {lit}`Chronicle.run_sound`: the history, the index, and how long listings wait.
-/

namespace Switchboard

/-! ## Listings -/

namespace Channel

variable {c : Channel} {name : String} {waitIndex : Nat} {deadline : Option Instant} {now : Instant}

/-- A listing of an open channel is answered if there is nothing to wait for. -/
theorem list_of_open (hopen : c.closed = false) :
    c.list name waitIndex deadline now =
      if waitIndex = 0 ∨ waitIndex < c.index ∨ Instant.reached deadline now = true then
        some (.ok (c.listing name))
      else none := by
  simp [list, hopen]

/-- A closed channel gives no listing. -/
theorem list_of_closed (hclosed : c.closed = true) :
    c.list name waitIndex deadline now = some (.error .closed) := by
  simp [list, hclosed]

/-- It is too early for a listing of an open channel whose index has not moved past the one that is
waited for, before the deadline. -/
theorem list_eq_none_iff : c.list name waitIndex deadline now = none ↔
    c.closed = false ∧ waitIndex ≠ 0 ∧ c.index ≤ waitIndex ∧
      Instant.reached deadline now = false := by
  cases hclosed : c.closed with
  | true => simp [list_of_closed hclosed]
  | false => simp [list_of_open hclosed, not_or]

theorem fire_of_open (hopen : c.closed = false) (event : BroadcastEvent) :
    ∃ c', c.fire event = .ok c' ∧ c'.closed = false ∧ c'.index = c.index + 1 := by
  have hfire : c.fire event = .ok { c with
      events := keepLatest c.capacity (c.events ++ [event]), index := c.index + 1 } := by
    simp [fire, hopen]
  exact ⟨_, hfire, hopen, rfl⟩

theorem fire_of_closed (hclosed : c.closed = true) (event : BroadcastEvent) :
    c.fire event = .error .closed := by
  simp [fire, hclosed]

end Channel

/-- Who waits has what the channel gives now. -/
theorem Listener.look_of_none {l : Listener} (hwaits : l.reply = none) (channel : Channel)
    (now : Instant) : l.look channel now =
      { l with reply := channel.list l.name l.waitIndex l.deadline now } := by
  rw [look, hwaits]

/-- A second look changes nothing. -/
theorem Listener.look_look (l : Listener) (channel : Channel) (now : Instant) :
    (l.look channel now).look channel now = l.look channel now := by
  obtain ⟨name, waitIndex, deadline, reply⟩ := l
  cases reply with
  | some answer => rfl
  | none =>
    cases hlist : channel.list name waitIndex deadline now <;> simp [look, hlist]

/-! ## Chronicles -/

/-- A channel in time, with all events that were fired into it, the first first. -/
structure Chronicle where
  live : LiveChannel
  fired : List BroadcastEvent

/-- What may happen to a channel. -/
inductive ChannelAct where
  /-- An event is fired. -/
  | fire (id name payload : String)
  /-- Somebody begins to wait for a listing. -/
  | list (name : String) (waitIndex : Nat) (wait : Duration)
  /-- Time passes. -/
  | pass (duration : Duration)
  | close

namespace Chronicle

/-- An open channel into which nothing was fired. -/
def start (capacity : Nat) : Chronicle :=
  ⟨.start (.start capacity), []⟩

/-- What becomes of a channel; an event is recorded if firing it succeeds. -/
def step (t : Chronicle) : ChannelAct → Chronicle
  | .fire id name payload =>
    match BroadcastMedium.fire id name payload t.live with
    | (.ok _, live) => ⟨live, t.fired ++ [⟨id, name, payload⟩]⟩
    | (.error _, live) => ⟨live, t.fired⟩
  | .list name waitIndex wait => { t with live := t.live.beginList name waitIndex wait }
  | .pass duration => { t with live := t.live.pass duration }
  | .close => { t with live := BroadcastMedium.close t.live }

/-- What becomes of a channel in the end. -/
def run (t : Chronicle) (acts : List ChannelAct) : Chronicle :=
  acts.foldl step t

/-- Whether the channel is open. -/
def Open (t : Chronicle) : Prop :=
  t.live.channel.closed = false

/-- The answer to the listing that was begun as the one of a place. -/
def reply? (t : Chronicle) (place : Nat) : Option (Except TransportError Listing) :=
  t.live.listeners[place]?.bind Listener.reply

/-- What a look at the channel would give now. -/
def look? (t : Chronicle) (name : String) (waitIndex : Nat) (deadline : Option Instant) :
    Option (Except TransportError Listing) :=
  t.live.channel.list name waitIndex deadline t.live.now

variable {t : Chronicle} {act : ChannelAct} {place : Nat} {l : Listener}

/-! ## One step -/

theorem step_fire_of_open (hopen : t.Open) (id name payload : String) :
    ∃ channel, t.live.channel.fire ⟨id, name, payload⟩ = .ok channel ∧
      BroadcastMedium.fire id name payload t.live = (.ok id, LiveChannel.look
        { t.live with channel, fired := t.live.fired ++ [id] }) ∧
      t.step (.fire id name payload) = ⟨LiveChannel.look
        { t.live with channel, fired := t.live.fired ++ [id] },
        t.fired ++ [⟨id, name, payload⟩]⟩ := by
  obtain ⟨channel, hfire, -⟩ := Channel.fire_of_open hopen ⟨id, name, payload⟩
  have hmedium : BroadcastMedium.fire id name payload t.live = (.ok id, LiveChannel.look
      { t.live with channel, fired := t.live.fired ++ [id] }) := by
    simp only [BroadcastMedium.fire, hfire]
  exact ⟨channel, hfire, hmedium, by simp only [step, hmedium]⟩

theorem step_fire_of_closed (hclosed : t.live.channel.closed = true) (id name payload : String) :
    BroadcastMedium.fire id name payload t.live = (.error .closed, t.live) ∧
      t.step (.fire id name payload) = t := by
  have hmedium : BroadcastMedium.fire id name payload t.live = (.error .closed, t.live) := by
    simp only [BroadcastMedium.fire, Channel.fire_of_closed hclosed]
  exact ⟨hmedium, by simp only [step, hmedium]⟩

/-- What may happen to the channel and to the record: nothing, an event is fired and recorded, or
the channel is closed. -/
theorem channel_step_cases (t : Chronicle) (act : ChannelAct) :
    ((t.step act).live.channel = t.live.channel ∧ (t.step act).fired = t.fired) ∨
      (∃ event, t.live.channel.fire event = .ok (t.step act).live.channel ∧
        (t.step act).fired = t.fired ++ [event]) ∨
      ((t.step act).live.channel = t.live.channel.close ∧ (t.step act).fired = t.fired) := by
  cases act with
  | list | pass => exact .inl ⟨rfl, rfl⟩
  | close => exact .inr (.inr ⟨rfl, rfl⟩)
  | fire id name payload =>
    cases hclosed : t.live.channel.closed with
    | true =>
      rw [(step_fire_of_closed hclosed id name payload).2]
      exact .inl ⟨rfl, rfl⟩
    | false =>
      obtain ⟨channel, hfire, -, hstep⟩ := step_fire_of_open hclosed id name payload
      rw [hstep]
      exact .inr (.inl ⟨_, hfire, rfl⟩)

/-- Whoever waits has looked at the channel as it is now. -/
def Attentive (t : Chronicle) : Prop :=
  ∀ l ∈ t.live.listeners, l.look t.live.channel t.live.now = l

/-- After something has happened all listeners have looked, and so have those who came. -/
theorem listeners_step (h : t.Attentive) (act : ChannelAct) :
    ∃ new : List Listener, (∀ l ∈ new, l.reply = none) ∧ (t.step act).live.listeners =
      (t.live.listeners ++ new).map
        (Listener.look (t.step act).live.channel (t.step act).live.now) := by
  have hsame : t.live.listeners.map (Listener.look t.live.channel t.live.now) = t.live.listeners :=
    (List.map_congr_left h).trans (List.map_id _)
  cases act with
  | pass | close => exact ⟨[], List.forall_mem_nil _, by rw [List.append_nil]; rfl⟩
  | list name waitIndex wait =>
    refine ⟨[⟨name, waitIndex, Instant.after? t.live.now wait, none⟩], ?_, ?_⟩
    · exact List.forall_mem_singleton.mpr rfl
    · rw [List.map_append]
      exact congrArg (· ++ _) hsame.symm
  | fire id name payload =>
    refine ⟨[], List.forall_mem_nil _, ?_⟩
    rw [List.append_nil]
    cases hclosed : t.live.channel.closed with
    | true =>
      rw [(step_fire_of_closed hclosed id name payload).2]
      exact hsame.symm
    | false =>
      obtain ⟨channel, -, -, hstep⟩ := step_fire_of_open hclosed id name payload
      rw [hstep]
      rfl

theorem Attentive.step (h : t.Attentive) (act : ChannelAct) : (t.step act).Attentive := by
  obtain ⟨new, -, hlisteners⟩ := listeners_step h act
  intro l hl
  rw [hlisteners] at hl
  obtain ⟨l', -, rfl⟩ := List.mem_map.mp hl
  exact l'.look_look ..

/-- A listener looks after everything that happens. -/
theorem getElem?_listeners_step (h : t.Attentive) (act : ChannelAct)
    (hl : t.live.listeners[place]? = some l) :
    (t.step act).live.listeners[place]? =
      some (l.look (t.step act).live.channel (t.step act).live.now) := by
  obtain ⟨new, -, hlisteners⟩ := listeners_step h act
  obtain ⟨hplace, -⟩ := List.getElem?_eq_some_iff.mp hl
  rw [hlisteners, List.getElem?_map, List.getElem?_append_left hplace, hl]
  rfl

/-! ## Runs -/

/-- What holds of a channel at every moment. -/
structure Kept (capacity : Nat) (t : Chronicle) : Prop where
  holds : t.live.channel.Holds (max capacity 1) t.fired
  attentive : t.Attentive
  /-- No listing that was given is ahead of the channel. -/
  past : ∀ l ∈ t.live.listeners, ∀ listing, l.reply = some (.ok listing) →
    listing.index ≤ t.live.channel.index

variable {capacity : Nat}

/-- The index only moves forward, and it does with every event. -/
theorem index_step (t : Chronicle) (act : ChannelAct) :
    (t.step act).live.channel.index + t.fired.length =
      t.live.channel.index + (t.step act).fired.length := by
  rcases t.channel_step_cases act with ⟨hchannel, hfired⟩ | ⟨event, hfire, hfired⟩ |
    ⟨hchannel, hfired⟩
  · rw [hchannel, hfired]
  · rw [Channel.index_fire hfire, hfired, List.length_append, List.length_singleton]
    omega
  · rw [hchannel, hfired]
    rfl

/-- A listing that is given has the index of the channel. -/
theorem index_of_look {listing : Listing} (hwaits : l.reply = none)
    (hreply : (l.look t.live.channel t.live.now).reply = some (.ok listing)) :
    listing = t.live.channel.listing l.name := by
  rw [Listener.look_of_none hwaits] at hreply
  cases hclosed : t.live.channel.closed with
  | true =>
    simp only [Channel.list_of_closed hclosed] at hreply
    cases hreply
  | false =>
    simp only [Channel.list_of_open hclosed] at hreply
    split at hreply
    · cases hreply
      rfl
    · cases hreply

theorem fired_prefix_step (t : Chronicle) (act : ChannelAct) : t.fired <+: (t.step act).fired := by
  rcases t.channel_step_cases act with ⟨-, hfired⟩ | ⟨event, -, hfired⟩ | ⟨-, hfired⟩
  · rw [hfired]
  · rw [hfired]
    exact List.prefix_append _ _
  · rw [hfired]

namespace Kept

theorem start (capacity : Nat) : (start capacity).Kept capacity where
  holds := Channel.holds_start capacity
  attentive := List.forall_mem_nil _
  past := List.forall_mem_nil _

theorem step (h : t.Kept capacity) (act : ChannelAct) : (t.step act).Kept capacity where
  holds := by
    rcases t.channel_step_cases act with ⟨hchannel, hfired⟩ | ⟨event, hfire, hfired⟩ |
      ⟨hchannel, hfired⟩
    · rw [hchannel, hfired]
      exact h.holds
    · rw [hfired]
      exact h.holds.fire hfire
    · rw [hchannel, hfired]
      exact h.holds.close
  attentive := h.attentive.step act
  past := by
    have hindex := t.index_step act
    have hfired := (t.fired_prefix_step act).length_le
    obtain ⟨new, hnew, hlisteners⟩ := listeners_step h.attentive act
    intro l' hl' listing hreply
    rw [hlisteners] at hl'
    obtain ⟨l, hl, rfl⟩ := List.mem_map.mp hl'
    cases hwaits : l.reply with
    | none =>
      rw [index_of_look hwaits hreply]
      exact Nat.le_refl _
    | some answer =>
      -- The answer was given before, and since then the index has at most moved forward.
      rcases List.mem_append.mp hl with hold | hcame
      · rw [Listener.look_of_reply (by rw [hwaits]; rfl)] at hreply
        have hpast := h.past l hold listing hreply
        omega
      · rw [hnew l hcame] at hwaits
        cases hwaits

theorem run (h : t.Kept capacity) (acts : List ChannelAct) : (t.run acts).Kept capacity := by
  induction acts generalizing t with
  | nil => exact h
  | cons act acts ih => exact ih (h.step act)

end Kept

/-! ## Answers -/

/-- The first moment of what happens later at which a look gives anything gives this answer. -/
def FirstAnswer (t : Chronicle) (name : String) (waitIndex : Nat) (deadline : Option Instant)
    (later : List ChannelAct) (answer : Except TransportError Listing) : Prop :=
  ∃ earlier, earlier <+: later ∧ (t.run earlier).look? name waitIndex deadline = some answer ∧
    ∀ sooner, sooner <+: earlier → sooner ≠ earlier →
      (t.run sooner).look? name waitIndex deadline = none

section
variable {name : String} {waitIndex : Nat} {deadline : Option Instant} {later : List ChannelAct}
  {answer : Except TransportError Listing}

/-- If a look gives something now, then that is the first answer. -/
theorem firstAnswer_of_some {first : Except TransportError Listing}
    (hlook : t.look? name waitIndex deadline = some first) :
    t.FirstAnswer name waitIndex deadline later answer ↔ first = answer := by
  constructor
  · rintro ⟨earlier, -, hanswer, hsooner⟩
    cases earlier with
    | nil => exact Option.some_inj.mp (hlook.symm.trans hanswer)
    | cons act rest =>
      have hnone := hsooner [] List.nil_prefix (List.cons_ne_nil act rest).symm
      rw [run, List.foldl_nil, hlook] at hnone
      cases hnone
  · rintro rfl
    refine ⟨[], List.nil_prefix, hlook, fun sooner hprefix hne => ?_⟩
    exact absurd (List.prefix_nil.mp hprefix) hne

/-- If a look gives nothing now, then the first answer comes later. -/
theorem firstAnswer_cons (hlook : t.look? name waitIndex deadline = none) :
    t.FirstAnswer name waitIndex deadline (act :: later) answer ↔
      (t.step act).FirstAnswer name waitIndex deadline later answer := by
  constructor
  · rintro ⟨earlier, hprefix, hanswer, hsooner⟩
    rcases List.prefix_cons_iff.mp hprefix with rfl | ⟨rest, rfl, hrest⟩
    · rw [run, List.foldl_nil, hlook] at hanswer
      cases hanswer
    · refine ⟨rest, hrest, hanswer, fun sooner hsoon hne => ?_⟩
      exact hsooner (act :: sooner) (List.cons_prefix_cons.mpr ⟨rfl, hsoon⟩) fun heq =>
        hne (List.cons_inj_right act |>.mp heq)
  · rintro ⟨earlier, hprefix, hanswer, hsooner⟩
    refine ⟨act :: earlier, List.cons_prefix_cons.mpr ⟨rfl, hprefix⟩, hanswer,
      fun sooner hsoon hne => ?_⟩
    rcases List.prefix_cons_iff.mp hsoon with rfl | ⟨rest, rfl, hrest⟩
    · exact hlook
    · exact hsooner rest hrest fun heq => hne (congrArg (act :: ·) heq)

/-- Who has an answer keeps it. -/
theorem reply_run_of_reply (h : t.Attentive) (hreply : t.reply? place = some answer)
    (later : List ChannelAct) : (t.run later).reply? place = some answer := by
  induction later generalizing t with
  | nil => exact hreply
  | cons act later ih =>
    obtain ⟨l, hl, hanswer⟩ := Option.bind_eq_some_iff.mp hreply
    refine ih (h.step act) ?_
    rw [reply?, getElem?_listeners_step h act hl, Option.bind_some,
      Listener.look_of_reply (by rw [hanswer]; rfl), hanswer]

/-- A listing is answered by the first moment that has an answer to it. -/
theorem reply_run_iff (h : t.Attentive) (hl : t.live.listeners[place]? =
      some ⟨name, waitIndex, deadline, t.look? name waitIndex deadline⟩)
    (later : List ChannelAct) : (t.run later).reply? place = some answer ↔
      t.FirstAnswer name waitIndex deadline later answer := by
  have hreply : t.reply? place = t.look? name waitIndex deadline := by
    rw [reply?, hl, Option.bind_some]
  induction later generalizing t with
  | nil =>
    rw [run, List.foldl_nil, hreply]
    cases hlook : t.look? name waitIndex deadline with
    | some first => rw [firstAnswer_of_some hlook, Option.some_inj]
    | none =>
      refine iff_of_false nofun ?_
      rintro ⟨earlier, hprefix, hanswer, -⟩
      rw [List.prefix_nil.mp hprefix, run, List.foldl_nil, hlook] at hanswer
      cases hanswer
  | cons act later ih =>
    cases hlook : t.look? name waitIndex deadline with
    | some first =>
      rw [firstAnswer_of_some hlook, reply_run_of_reply h (hreply.trans hlook), Option.some_inj]
    | none =>
      have hnext := getElem?_listeners_step h act hl
      rw [hlook, Listener.look_of_none rfl] at hnext
      rw [firstAnswer_cons hlook]
      exact ih (h.step act) hnext (by rw [reply?, hnext]; rfl)

/-- A listener keeps what he asked for. -/
theorem getElem?_listeners_run (h : t.Attentive) (hl : t.live.listeners[place]? = some l)
    (later : List ChannelAct) :
    ∃ reply, (t.run later).live.listeners[place]? = some { l with reply } := by
  induction later generalizing t l with
  | nil => exact ⟨l.reply, hl⟩
  | cons act later ih =>
    obtain ⟨reply, hreply⟩ := ih (h.step act) (getElem?_listeners_step h act hl)
    refine ⟨reply, hreply.trans ?_⟩
    cases hanswer : l.reply with
    | some answer => rw [Listener.look_of_reply (by rw [hanswer]; rfl)]
    | none => rw [Listener.look_of_none hanswer]

/-- Whoever waits gets what a look gives after the next thing has happened. -/
theorem reply_step (h : t.Attentive)
    (hl : t.live.listeners[place]? = some ⟨name, waitIndex, deadline, none⟩) (act : ChannelAct) :
    (t.step act).reply? place = (t.step act).look? name waitIndex deadline := by
  rw [reply?, getElem?_listeners_step h act hl, Listener.look_of_none rfl]
  rfl

/-- For whoever waits it is too early. -/
theorem early_of_waits (h : t.Attentive)
    (hl : t.live.listeners[place]? = some ⟨name, waitIndex, deadline, none⟩) :
    t.Open ∧ waitIndex ≠ 0 ∧ t.live.channel.index ≤ waitIndex ∧
      Instant.reached deadline t.live.now = false := by
  have hlook := h _ (List.mem_of_getElem? hl)
  rw [Listener.look_of_none rfl] at hlook
  exact Channel.list_eq_none_iff.mp (congrArg Listener.reply hlook)

/-- An event of any name moves the index by one, and answers whoever waits for an index that it has
moved past. -/
theorem reply_fire (h : t.Attentive)
    (hl : t.live.listeners[place]? = some ⟨name, waitIndex, deadline, none⟩)
    (id other payload : String) :
    let next := t.step (.fire id other payload)
    next.live.channel.index = t.live.channel.index + 1 ∧
      next.reply? place = if waitIndex < next.live.channel.index then
        some (.ok (next.live.channel.listing name)) else none := by
  intro next
  obtain ⟨hopen, hwait, -, hreached⟩ := early_of_waits h hl
  obtain ⟨channel, hfire, -, hstep⟩ := step_fire_of_open hopen id other payload
  obtain ⟨channel', hfire', hopened, hindex⟩ := Channel.fire_of_open hopen ⟨id, other, payload⟩
  obtain rfl : channel = channel' := Except.ok.inj (hfire.symm.trans hfire')
  have hnext : next.live.channel = channel ∧ next.live.now = t.live.now := by
    rw [show next = _ from hstep]
    exact ⟨rfl, rfl⟩
  rw [reply_step h hl, look?, hnext.1, hnext.2, Channel.list_of_open hopened]
  simp [hindex, hwait, hreached]

/-- Time that passes answers whoever waits until a deadline that has come. -/
theorem reply_pass (h : t.Attentive)
    (hl : t.live.listeners[place]? = some ⟨name, waitIndex, deadline, none⟩)
    (duration : Duration) :
    let next := t.step (.pass duration)
    next.live.now = t.live.now + duration ∧
      next.reply? place = if Instant.reached deadline next.live.now then
        some (.ok (next.live.channel.listing name)) else none := by
  intro next
  obtain ⟨hopen, hwait, hle, -⟩ := early_of_waits h hl
  have hnext : next.live.channel = t.live.channel ∧ next.live.now = t.live.now + duration :=
    ⟨rfl, Nat.max_eq_right (Nat.le_add_right _ _)⟩
  rw [reply_step h hl, look?, hnext.1, hnext.2, Channel.list_of_open hopen]
  simp [hwait, Nat.not_lt_of_le hle]

/-- Other listings answer nobody who waits. -/
theorem reply_list (h : t.Attentive)
    (hl : t.live.listeners[place]? = some ⟨name, waitIndex, deadline, none⟩) (other : String)
    (otherIndex : Nat) (wait : Duration) :
    (t.step (.list other otherIndex wait)).reply? place = none := by
  have hearly : t.look? name waitIndex deadline = none :=
    Channel.list_eq_none_iff.mpr (early_of_waits h hl)
  rw [reply_step h hl]
  exact hearly

/-- Closing the channel turns away whoever waits. -/
theorem reply_close (h : t.Attentive)
    (hl : t.live.listeners[place]? = some ⟨name, waitIndex, deadline, none⟩) :
    (t.step .close).reply? place = some (.error .closed) := by
  rw [reply_step h hl]
  exact Channel.list_of_closed rfl

/-- How a listing that was begun is answered. -/
structure Answers (begun : Chronicle) (place : Nat) (name : String) (waitIndex : Nat)
    (deadline : Option Instant) : Prop where
  /-- It is answered by the first moment that has an answer to it, with what is held then. -/
  first : ∀ later answer, (begun.run later).reply? place = some answer ↔
    begun.FirstAnswer name waitIndex deadline later answer
  /-- While it waits, an event of any name moves the index by one, and answers it if the index has
  moved past the one that is waited for. -/
  fired : ∀ later, (begun.run later).reply? place = none → ∀ id other payload,
    let next := (begun.run later).step (.fire id other payload)
    next.live.channel.index = (begun.run later).live.channel.index + 1 ∧
      next.reply? place = if waitIndex < next.live.channel.index then
        some (.ok (next.live.channel.listing name)) else none
  /-- While it waits, time that passes answers it if the deadline has come. -/
  passed : ∀ later, (begun.run later).reply? place = none → ∀ duration,
    let next := (begun.run later).step (.pass duration)
    next.live.now = (begun.run later).live.now + duration ∧
      next.reply? place = if Instant.reached deadline next.live.now then
        some (.ok (next.live.channel.listing name)) else none
  /-- Other listings do not answer it. -/
  joined : ∀ later, (begun.run later).reply? place = none → ∀ other otherIndex wait,
    ((begun.run later).step (.list other otherIndex wait)).reply? place = none
  /-- While it waits, closing the channel turns it away. -/
  closed : ∀ later, (begun.run later).reply? place = none →
    ((begun.run later).step .close).reply? place = some (.error .closed)

theorem Attentive.run (h : t.Attentive) (acts : List ChannelAct) : (t.run acts).Attentive := by
  induction acts generalizing t with
  | nil => exact h
  | cons act acts ih => exact ih (h.step act)

/-- Whoever has looked once is answered so. -/
theorem answers_of_looked (h : t.Attentive) (hl : t.live.listeners[place]? =
      some ⟨name, waitIndex, deadline, t.look? name waitIndex deadline⟩) :
    t.Answers place name waitIndex deadline := by
  have hwaits : ∀ later, (t.run later).reply? place = none →
      (t.run later).live.listeners[place]? = some ⟨name, waitIndex, deadline, none⟩ := by
    intro later hnone
    obtain ⟨reply, hreply⟩ := getElem?_listeners_run h hl later
    rw [reply?, hreply, Option.bind_some] at hnone
    rw [hreply, show reply = none from hnone]
  constructor
  case first => exact fun later answer => reply_run_iff h hl later
  case fired => exact fun later hnone => reply_fire (h.run later) (hwaits later hnone)
  case passed => exact fun later hnone => reply_pass (h.run later) (hwaits later hnone)
  case joined => exact fun later hnone => reply_list (h.run later) (hwaits later hnone)
  case closed => exact fun later hnone => reply_close (h.run later) (hwaits later hnone)

end

/-! ## What is true at every moment -/

/-- How a listing that is begun at a moment, when the channel is open, is answered. -/
structure Lists (t : Chronicle) (name : String) (waitIndex : Nat) (wait : Duration) : Prop where
  /-- It is answered at once if there is nothing to wait for. -/
  atOnce : waitIndex = 0 ∨ waitIndex < t.live.channel.index →
    (t.step (.list name waitIndex wait)).reply? t.live.listeners.length =
        some (.ok (t.live.channel.listing name)) ∧
      t.live.list name waitIndex wait = (some (.ok (t.live.channel.listing name)), t.live)
  /-- However it is begun, this is how it is answered. -/
  answers : (t.step (.list name waitIndex wait)).Answers t.live.listeners.length name waitIndex
    (Instant.after? t.live.now wait)
  /-- If there is something to wait for and nothing else happens, then it is answered at the
  deadline. -/
  elapses : ¬ (waitIndex = 0 ∨ waitIndex < t.live.channel.index) →
    ∀ deadline, Instant.after? t.live.now wait = some deadline →
      (t.live.list name waitIndex wait).1 = some (.ok (t.live.channel.listing name)) ∧
        (t.live.list name waitIndex wait).2.now = deadline
  /-- Without a deadline it is never answered then. -/
  lasts : ¬ (waitIndex = 0 ∨ waitIndex < t.live.channel.index) →
    Instant.after? t.live.now wait = none → (t.live.list name waitIndex wait).1 = none

theorem getElem?_listeners_begun (t : Chronicle) (name : String) (waitIndex : Nat)
    (wait : Duration) :
    (t.step (.list name waitIndex wait)).live.listeners[t.live.listeners.length]? =
      some ⟨name, waitIndex, Instant.after? t.live.now wait,
        t.look? name waitIndex (Instant.after? t.live.now wait)⟩ :=
  List.getElem?_concat_length

theorem reply_begun (t : Chronicle) (name : String) (waitIndex : Nat) (wait : Duration) :
    (t.step (.list name waitIndex wait)).reply? t.live.listeners.length =
      t.look? name waitIndex (Instant.after? t.live.now wait) := by
  rw [reply?, getElem?_listeners_begun]
  rfl

theorem live_begun (t : Chronicle) (name : String) (waitIndex : Nat) (wait : Duration) :
    t.live.beginList name waitIndex wait = { t.live with
      listeners := t.live.listeners ++ [⟨name, waitIndex, Instant.after? t.live.now wait,
        t.look? name waitIndex (Instant.after? t.live.now wait)⟩] } :=
  rfl

/-- A listing that is answered at its first look takes no time. -/
theorem list_of_some {name : String} {waitIndex : Nat} {wait : Duration}
    {answer : Except TransportError Listing}
    (hlook : t.look? name waitIndex (Instant.after? t.live.now wait) = some answer) :
    t.live.list name waitIndex wait = (some answer, t.live) := by
  simp [LiveChannel.list, live_begun, hlook, LiveChannel.await, LiveChannel.dismiss]

/-- A listing that is not answered at its first look has its second one at the deadline. -/
theorem list_of_none {name : String} {waitIndex : Nat} {wait : Duration} {deadline : Instant}
    (hdeadline : Instant.after? t.live.now wait = some deadline)
    (hlook : t.look? name waitIndex (some deadline) = none) :
    (t.live.list name waitIndex wait).1 = some (.ok (t.live.channel.listing name)) ∧
      (t.live.list name waitIndex wait).2.now = deadline := by
  obtain ⟨hopen, -⟩ := Channel.list_eq_none_iff.mp hlook
  have hlater : max t.live.now deadline = deadline := by
    rw [(Instant.after?_eq_some_iff.mp hdeadline).1]
    exact Nat.max_eq_right (Nat.le_add_right _ _)
  have hanswer : t.live.channel.list name waitIndex (some deadline) deadline =
      some (.ok (t.live.channel.listing name)) := by
    simp [Channel.list_of_open hopen, Instant.reached]
  simp [LiveChannel.list, live_begun, hdeadline, hlook, LiveChannel.await, LiveChannel.passUntil,
    LiveChannel.look, LiveChannel.dismiss, Listener.look, hlater, hanswer]

/-- Without a deadline a listing that is not answered at its first look is never answered. -/
theorem list_of_unending {name : String} {waitIndex : Nat} {wait : Duration}
    (hdeadline : Instant.after? t.live.now wait = none)
    (hlook : t.look? name waitIndex none = none) :
    (t.live.list name waitIndex wait).1 = none := by
  simp [LiveChannel.list, live_begun, hdeadline, hlook, LiveChannel.await, LiveChannel.dismiss]

/-- How listings of an open channel are answered. -/
theorem lists_of_open (h : t.Attentive) (hopen : t.Open) (name : String) (waitIndex : Nat)
    (wait : Duration) : t.Lists name waitIndex wait where
  atOnce hpast := by
    have hlook : t.look? name waitIndex (Instant.after? t.live.now wait) =
        some (.ok (t.live.channel.listing name)) := by
      rw [look?, Channel.list_of_open hopen, if_pos (by tauto)]
    exact ⟨(t.reply_begun name waitIndex wait).trans hlook, list_of_some hlook⟩
  answers := answers_of_looked (h.step _) (t.getElem?_listeners_begun name waitIndex wait)
  elapses hwaits deadline hdeadline := by
    cases hreached : Instant.reached (some deadline) t.live.now with
    | false =>
      obtain ⟨hwait, hle⟩ := not_or.mp hwaits
      exact list_of_none hdeadline
        (Channel.list_eq_none_iff.mpr ⟨hopen, hwait, Nat.le_of_not_lt hle, hreached⟩)
    | true =>
      -- A wait of no length is over as soon as it begins.
      have hnow : t.live.now = deadline := by
        have hover : deadline ≤ t.live.now := by simpa [Instant.reached] using hreached
        have hlater : t.live.now ≤ deadline := by
          rw [(Instant.after?_eq_some_iff.mp hdeadline).1]
          exact Nat.le_add_right _ _
        exact Nat.le_antisymm hlater hover
      have hlook : t.look? name waitIndex (Instant.after? t.live.now wait) =
          some (.ok (t.live.channel.listing name)) := by
        rw [look?, Channel.list_of_open hopen, hdeadline, hreached, if_pos (by simp)]
      rw [list_of_some hlook]
      exact ⟨rfl, hnow⟩
  lasts hwaits hdeadline := by
    refine list_of_unending hdeadline ?_
    rw [look?, Channel.list_of_open hopen, if_neg (by simpa [Instant.reached] using hwaits)]

/-- What is refused once a channel is closed. -/
structure Closed (t : Chronicle) : Prop where
  closed : t.live.channel.closed = true
  fires : ∀ id name payload,
    BroadcastMedium.fire id name payload t.live = (.error .closed, t.live) ∧
      t.step (.fire id name payload) = t
  lists : ∀ name waitIndex wait,
    (t.step (.list name waitIndex wait)).reply? t.live.listeners.length = some (.error .closed) ∧
      t.live.list name waitIndex wait = (some (.error .closed), t.live)

theorem Closed.of_closed (hclosed : t.live.channel.closed = true) : t.Closed where
  closed := hclosed
  fires := step_fire_of_closed hclosed
  lists name waitIndex wait := by
    have hlook : t.look? name waitIndex (Instant.after? t.live.now wait) = some (.error .closed) :=
      Channel.list_of_closed hclosed
    exact ⟨(t.reply_begun name waitIndex wait).trans hlook, list_of_some hlook⟩

theorem Closed.run (h : t.Closed) (later : List ChannelAct) : (t.run later).Closed := by
  induction later generalizing t with
  | nil => exact h
  | cons act later ih =>
    refine ih (.of_closed ?_)
    rcases t.channel_step_cases act with ⟨hchannel, -⟩ | ⟨event, hfire, -⟩ | ⟨hchannel, -⟩
    · rw [hchannel, h.closed]
    · rw [Channel.fire_of_closed h.closed] at hfire
      cases hfire
    · rw [hchannel]
      rfl

/-- What is true of a channel at every moment. -/
structure Sound (capacity : Nat) (t : Chronicle) : Prop where
  /-- The index counts the events that were fired. -/
  index : t.live.channel.index = t.fired.length + 1
  /-- What is held are the latest of them, in the order of firing. -/
  retained : t.live.channel.events = t.fired.drop (t.fired.length - max capacity 1)
  size : t.live.channel.events.length = min t.fired.length (max capacity 1)
  /-- A listing shows those of the name among them, with the index. -/
  listing : ∀ name, t.live.channel.listing name =
    ⟨Channel.named name (t.fired.drop (t.fired.length - max capacity 1)), t.fired.length + 1⟩
  /-- If no two events were fired under one id, then no two are held under one. -/
  distinct : (t.fired.map BroadcastEvent.id).Nodup →
    (t.live.channel.events.map BroadcastEvent.id).Nodup
  /-- An open channel takes every event. -/
  fires : t.Open → ∀ id name payload,
    (BroadcastMedium.fire id name payload t.live).1 = .ok id ∧
      (t.step (.fire id name payload)).fired = t.fired ++ [⟨id, name, payload⟩]
  lists : t.Open → ∀ name waitIndex wait, t.Lists name waitIndex wait
  /-- A listing with the index of an earlier one is answered at once if anything was fired since. -/
  resumes : ∀ place listing, t.reply? place = some (.ok listing) →
    ∀ between, t.fired.length < (t.run between).fired.length → (t.run between).Open →
      ∀ name wait, ((t.run between).step (.list name listing.index wait)).reply?
          (t.run between).live.listeners.length =
        some (.ok ((t.run between).live.channel.listing name))
  /-- After the channel was closed everything is refused. -/
  closes : ∀ later, ((t.step .close).run later).Closed

theorem Kept.sound (h : t.Kept capacity) : t.Sound capacity where
  index := h.holds.index
  retained := h.holds.events
  size := by
    rw [h.holds.events, Channel.keepLatest, List.length_drop]
    omega
  listing name := by
    rw [Channel.listing, h.holds.events, h.holds.index]
    rfl
  distinct hnodup := by
    rw [h.holds.events]
    exact hnodup.sublist ((List.drop_sublist _ _).map _)
  fires hopen id name payload := by
    obtain ⟨channel, -, hmedium, hstep⟩ := step_fire_of_open hopen id name payload
    exact ⟨congrArg Prod.fst hmedium, congrArg Chronicle.fired hstep⟩
  lists := lists_of_open h.attentive
  resumes place listing hreply between hmore hopen name wait := by
    have hlater := h.run between
    obtain ⟨l, hl, hanswer⟩ := Option.bind_eq_some_iff.mp hreply
    have hpast := h.past l (List.mem_of_getElem? hl) listing hanswer
    have hindex : listing.index < (t.run between).live.channel.index := by
      rw [hlater.holds.index]
      rw [h.holds.index] at hpast
      omega
    exact ((lists_of_open hlater.attentive hopen name listing.index wait).atOnce (.inr hindex)).1
  closes later := Closed.run (.of_closed rfl) later

/-- At every moment of every run a channel holds the latest of the events that were fired, its index
counts them, and nobody who waits for a listing misses one. -/
theorem run_sound (capacity : Nat) (acts : List ChannelAct) :
    ((start capacity).run acts).Sound capacity :=
  ((Kept.start capacity).run acts).sound

/-- Whoever waits for the index of an empty channel to move is answered by an event of any name. -/
example : ((start 0).run [.list "a" 1 9, .pass 3, .fire "id" "b" "null"]).reply? 0 =
    some (.ok ⟨[], 2⟩) :=
  rfl

end Chronicle
end Switchboard
