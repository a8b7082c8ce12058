import Mathlib.Data.List.Dedup
import Switchboard.Proofs.Facade.Draining
import Switchboard.Proofs.Network.Course
import Switchboard.Proofs.Network.Reception

/-!
# The consumers of a queue

Each façade starts one consumer for each queue to which its payloads go, and knows only of its own.
So a queue has as many consumers as there are façades whose payloads go there.  With two of them,
either may be handed a message that only the other one takes, and it passes that message over.

Main results:

- Theorem {lit}`Network.Staffed.perform`: what is kept whatever happens.
- Theorem {lit}`Network.oneConsumer_iff`: when each queue has one consumer, and what its consumers
  make of a message.
-/

namespace Switchboard

variable {C : Catalogue}

/-! ## What a consumer makes of a message -/

namespace Consumer

/-- A consumer passes a message over if it deletes it as handled although nobody is called. -/
def PassesOver (receive : Reception C) (c : Consumer) (m : Message) : Prop :=
  ∀ (delivery : Delivery) (backlog : Backlog) (s : Session C), delivery.message = m →
    (c.handle receive delivery backlog s).1 =
        (c.countHandled, backlog.delete c.queue delivery.receipt) ∧
      (c.handle receive delivery backlog s).2.calls = s.calls

/-- A consumer minds a message if it gives it to user code, or leaves it in its place as failed. -/
def Minds (receive : Reception C) (c : Consumer) (m : Message) : Prop :=
  ∀ (delivery : Delivery) (backlog : Backlog) (s : Session C), delivery.message = m →
    (c.handle receive delivery backlog s).1 = (c.countFailed, backlog) ∨
      ∃ new, new ≠ [] ∧ (c.handle receive delivery backlog s).2.calls = s.calls ++ new

variable {receive : Reception C} {c : Consumer} {m : Message}

/-- What a consumer minds, it does not pass over. -/
theorem Minds.not_passesOver (hminds : c.Minds receive m) (s : Session C) :
    ¬ c.PassesOver receive m := by
  intro hpasses
  obtain ⟨hhandled, hcalls⟩ := hpasses ⟨m, "", 0⟩ (.start 0) s rfl
  rcases hminds ⟨m, "", 0⟩ (.start 0) s rfl with hfailed | ⟨new, hnew, hgrown⟩
  · have hcount := congrArg (fun outcome => outcome.1.stats.handled) (hhandled.symm.trans hfailed)
    exact absurd hcount (Nat.succ_ne_self _)
  · rw [hcalls] at hgrown
    exact hnew (List.self_eq_append_right.mp hgrown)

variable {facades : List (AnyFacade C)} {f : AnyFacade C} {address : Nat}
  {known : List (Enlistment C)} {e : Enlistment C}

/-- The consumer of a façade minds what somebody there takes. -/
theorem minds_of_mem (hf : facades[address]? = some f) (hholds : f.Holds address known)
    (hsubscriber : c.subscriber = .facade address) (hmem : e ∈ known)
    (haddress : e.address = address) (htakes : e.Takes m) :
    c.Minds (Network.reception facades) m := by
  intro delivery backlog s hmessage
  have hreception := fun ctx => Network.reception_of_getElem? hf c.queue ctx m
  cases hdecode : m.decode e.kind with
  | none =>
    left
    rw [handle_eq, hmessage, hsubscriber]
    simp only [hreception, hholds.receive_of_unreadable hmem haddress htakes hdecode]
    rfl
  | some payload =>
    right
    obtain ⟨new, hnew, hcalls, -⟩ := hholds.receive_of_mem hmem haddress htakes hdecode
      (m.receivingContext (Uuid.random s.nextId).text) { s with nextId := s.nextId + 1 }
    refine ⟨new, hnew, ?_⟩
    rw [calls_handle, hmessage, hsubscriber, hreception]
    exact hcalls

/-- The consumer of a façade passes over what the façade counts as handled without a call. -/
theorem passesOver_of_receive (hf : facades[address]? = some f)
    (hsubscriber : c.subscriber = .facade address)
    (hreceive : ∀ ctx s, (f.receive ctx m s).1 = .ok () ∧ (f.receive ctx m s).2.calls = s.calls) :
    c.PassesOver (Network.reception facades) m := by
  intro delivery backlog s hmessage
  obtain ⟨hok, hcalls⟩ := hreceive (m.receivingContext (Uuid.random s.nextId).text)
    { s with nextId := s.nextId + 1 }
  constructor
  · rw [handle_eq, hmessage, hsubscriber]
    simp only [Network.reception_of_getElem? hf, hok]
    rfl
  · rw [calls_handle, hmessage, hsubscriber, Network.reception_of_getElem? hf]
    exact hcalls

/-- The consumer of a façade passes over what nobody there takes. -/
theorem passesOver_of_stranger (hf : facades[address]? = some f)
    (hholds : f.Holds address known) (hsubscriber : c.subscriber = .facade address)
    (hnone : ∀ e ∈ known, e.address = address → ¬ e.Takes m) :
    c.PassesOver (Network.reception facades) m :=
  passesOver_of_receive hf hsubscriber (hholds.receive_of_stranger hnone)

end Consumer

/-! ## Where payloads go -/

namespace Network

/-- The queue to which the payloads for a handler go. -/
def destination (n : Network C Broker) (e : Enlistment C) : Option String :=
  n.facades[e.address]?.map fun f => f.outline.queueName e.tag

/-- The consumers, by where they are and whom they serve. -/
def posts (n : Network C Broker) : List (String × Subscriber) :=
  n.exchange.transport.consumers.map Consumer.post

theorem subscribedQueues_eq (n : Network C Broker) :
    n.exchange.transport.subscribedQueues = n.posts.map Prod.fst := by
  rw [posts, List.map_map]
  rfl

/-- The payloads for a handler go where its façade sends what has its tag. -/
theorem destination_of_getElem? {n : Network C Broker} {e : Enlistment C} {f : AnyFacade C}
    (hf : n.facades[e.address]? = some f) :
    n.destination e = some (f.outline.queueName e.tag) := by
  rw [destination, hf]
  rfl

/-- Façades do not change the names of their queues. -/
theorem destination_perform {n : Network C Broker} {d : Deed C}
    (hopen : n.exchange.transport.backlog.closed = false) (hgrants : n.Grants d)
    (e : Enlistment C) : (n.perform d).destination e = n.destination e := by
  cases d with
  | enlist entrant =>
    obtain ⟨f, f', log, hf, hjoins, hn⟩ := enlist_of_ok hopen (hgrants entrant rfl)
    rw [perform, hn]
    by_cases haddress : entrant.address = e.address
    · have hlt : entrant.address < n.facades.length := (List.getElem?_eq_some_iff.mp hf).1
      rw [destination, destination, ← haddress, List.getElem?_set_self hlt, hf, Option.map_some,
        Option.map_some, hjoins.outline_eq]
      exact congrArg some (Facade.queueName_takeIn ..)
    · rw [destination, List.getElem?_set_ne haddress]
      rfl
  | send queue message => rfl
  | round => rfl
  | pass duration => rfl

/-- With a handler, a façade has a consumer at its queue; it starts one if it has none there. -/
theorem Orderly.posts_enlist {n : Network C Broker} {known : List (Enlistment C)}
    (h : n.Orderly known) {e : Enlistment C} (hgrants : n.Grants (.enlist e)) {f : AnyFacade C}
    (hf : n.facades[e.address]? = some f) :
    (n.perform (.enlist e)).posts =
      if f.outline.subscribed.contains (f.outline.queueName e.tag) = true then n.posts
      else n.posts ++ [(f.outline.queueName e.tag, .facade e.address)] := by
  obtain ⟨g, g', log, hg, hjoins, hn⟩ := enlist_of_ok h.opened (hgrants e rfl)
  have hsame : g = f := Option.some_inj.mp (hg.symm.trans hf)
  subst hsame
  rw [posts, Network.perform, hn]
  unfold Facade.staff
  split
  · rfl
  · rw [List.map_append, (h.holds e.address g hg).located]
    rfl

/-! ## Staff -/

/-- There is one consumer for each façade and each queue to which payloads for its handlers go, and
no other one. -/
structure Staffed (n : Network C Broker) (known : List (Enlistment C)) : Prop where
  orderly : n.Orderly known
  nodup : n.posts.Nodup
  mem_posts : ∀ queue subscriber, (queue, subscriber) ∈ n.posts ↔
    ∃ e ∈ known, n.destination e = some queue ∧ subscriber = .facade e.address

namespace Staffed

variable {n : Network C Broker} {known : List (Enlistment C)}

theorem start (setups : List Setup) (visibility waitTime : Duration) (s : Session C) :
    (start setups visibility waitTime s).Staffed [] where
  orderly := .start setups visibility waitTime s
  nodup := .nil
  mem_posts queue subscriber := by simp [posts, Network.start, Broker.start]

/-- A façade knows of the consumers that it has. -/
theorem mem_posts_facade (h : n.Staffed known) {address : Nat} {f : AnyFacade C}
    (hf : n.facades[address]? = some f) (queue : String) :
    (queue, .facade address) ∈ n.posts ↔ f.outline.subscribed.contains queue = true := by
  rw [h.mem_posts, (h.orderly.holds address f hf).subscribed]
  constructor
  · rintro ⟨e, hmem, hqueue, hsubscriber⟩
    have haddress : address = e.address := Subscriber.facade.inj hsubscriber
    subst haddress
    rw [destination_of_getElem? hf, Option.some_inj] at hqueue
    exact ⟨e, hmem, rfl, hqueue⟩
  · rintro ⟨e, hmem, rfl, hqueue⟩
    exact ⟨e, hmem, by rw [destination_of_getElem? hf, hqueue], rfl⟩

/-- A façade that takes a handler in has a consumer for it. -/
theorem enlist (h : n.Staffed known) {e : Enlistment C} (hgrants : n.Grants (.enlist e)) :
    (n.perform (.enlist e)).Staffed (known ++ [e]) := by
  obtain ⟨f, -, -, hf, -, -⟩ := enlist_of_ok h.orderly.opened (hgrants e rfl)
  have hposts := h.orderly.posts_enlist hgrants hf
  have hknown := h.mem_posts_facade hf (f.outline.queueName e.tag)
  have hmem : ∀ queue subscriber,
      (∃ other ∈ known ++ [e], (n.perform (.enlist e)).destination other = some queue ∧
        subscriber = .facade other.address) ↔
      (queue, subscriber) ∈ n.posts ∨
        (queue, subscriber) = (f.outline.queueName e.tag, .facade e.address) := by
    intro queue subscriber
    simp only [destination_perform h.orderly.opened hgrants, List.mem_append, List.mem_singleton,
      or_and_right, exists_or, exists_eq_left, h.mem_posts, destination_of_getElem? hf,
      Option.some_inj, Prod.mk.injEq]
    rw [eq_comm (a := queue)]
  by_cases hsubscribed : f.outline.subscribed.contains (f.outline.queueName e.tag) = true
  · rw [if_pos hsubscribed] at hposts
    refine ⟨h.orderly.perform hgrants, hposts ▸ h.nodup, fun queue subscriber => ?_⟩
    rw [hmem, hposts]
    constructor
    · exact .inl
    · rintro (hpost | hpost)
      · exact hpost
      · exact hpost ▸ hknown.mpr hsubscribed
  · rw [if_neg hsubscribed] at hposts
    refine ⟨h.orderly.perform hgrants, ?_, fun queue subscriber => ?_⟩
    · rw [hposts, List.nodup_append]
      refine ⟨h.nodup, List.nodup_singleton _, ?_⟩
      rintro post hpost _ hnew rfl
      rw [List.mem_singleton.mp hnew] at hpost
      exact hsubscribed (hknown.mp hpost)
    · rw [hmem, hposts, List.mem_append, List.mem_singleton]

/-- What is kept whatever happens. -/
theorem perform (h : n.Staffed known) {d : Deed C} (hgrants : n.Grants d) :
    (n.perform d).Staffed (known ++ d.enlistment?.toList) := by
  have hsame : (n.perform d).posts = n.posts → d.enlistment? = none →
      (n.perform d).Staffed (known ++ d.enlistment?.toList) := by
    intro hposts hnone
    have horderly := h.orderly.perform hgrants
    rw [hnone, Option.toList_none, List.append_nil] at horderly ⊢
    refine ⟨horderly, hposts ▸ h.nodup, fun queue subscriber => ?_⟩
    simp only [hposts, h.mem_posts, destination_perform h.orderly.opened hgrants]
  cases d with
  | enlist e => exact h.enlist hgrants
  | send queue message =>
    obtain ⟨backlog, -, hn⟩ := perform_send h.orderly.opened queue message
    exact hsame (by rw [hn]; rfl) rfl
  | round => exact hsame (Broker.round_keeps ..).1 rfl
  | pass duration => exact hsame rfl rfl

/-- Whatever course things take, there is one consumer for each façade and each of its queues. -/
theorem performAll (h : n.Staffed known) {deeds : List (Deed C)} (hgrants : n.GrantsAll deeds) :
    (n.performAll deeds).Staffed (known ++ Deed.enlistments deeds) := by
  induction deeds generalizing n known with
  | nil => exact (List.append_nil known).symm ▸ h
  | cons d deeds ih =>
    obtain ⟨hfirst, hrest⟩ := hgrants
    rw [Deed.enlistments_cons, ← List.append_assoc]
    exact ih (h.perform hfirst) hrest

/-! ## How many consumers a queue has -/

theorem mem_subscribedQueues (h : n.Staffed known) {queue : String} :
    queue ∈ n.exchange.transport.subscribedQueues ↔
      ∃ e ∈ known, n.destination e = some queue := by
  rw [subscribedQueues_eq, List.mem_map]
  constructor
  · rintro ⟨⟨queue, subscriber⟩, hpost, rfl⟩
    obtain ⟨e, hmem, hqueue, -⟩ := (h.mem_posts _ _).mp hpost
    exact ⟨e, hmem, hqueue⟩
  · rintro ⟨e, hmem, hqueue⟩
    exact ⟨_, (h.mem_posts queue (.facade e.address)).mpr ⟨e, hmem, hqueue, rfl⟩, rfl⟩

/-- A queue has as many consumers as there are façades whose payloads go there. -/
theorem count_subscribedQueues (h : n.Staffed known) (queue : String) :
    n.exchange.transport.subscribedQueues.count queue =
      ((known.filter fun e => n.destination e = some queue).map
        Enlistment.address).dedup.length := by
  have hperm : (n.posts.filter fun post => post.1 == queue).Perm
      (((known.filter fun e => n.destination e = some queue).map Enlistment.address).dedup.map
        fun address => (queue, .facade address)) := by
    refine (List.perm_ext_iff_of_nodup (h.nodup.filter _) ?_).mpr ?_
    · refine (List.nodup_dedup _).map ?_
      intro address address' hsame
      exact Subscriber.facade.inj (Prod.mk.inj hsame).2
    · rintro ⟨other, subscriber⟩
      simp only [List.mem_filter, h.mem_posts, beq_iff_eq, List.mem_map, List.mem_dedup,
        decide_eq_true_eq, Prod.mk.injEq]
      constructor
      · rintro ⟨⟨e, hmem, hqueue, rfl⟩, rfl⟩
        exact ⟨e.address, ⟨e, ⟨hmem, hqueue⟩, rfl⟩, rfl, rfl⟩
      · rintro ⟨_, ⟨e, ⟨hmem, hqueue⟩, rfl⟩, rfl, rfl⟩
        exact ⟨⟨e, hmem, hqueue, rfl⟩, rfl⟩
  rw [subscribedQueues_eq, List.count, List.countP_map, List.countP_eq_length_filter]
  exact hperm.length_eq.trans (List.length_map _)

end Staffed

/-- No queue takes the payloads for handlers at two façades. -/
def KeptApart (n : Network C Broker) (known : List (Enlistment C)) : Prop :=
  ∀ queue, ∀ e ∈ known, ∀ e' ∈ known, n.destination e = some queue →
    n.destination e' = some queue → e.address = e'.address

namespace Staffed

variable {n : Network C Broker} {known : List (Enlistment C)} {c : Consumer} {m : Message}

/-- No queue has two consumers exactly if the façades are kept apart. -/
theorem nodup_subscribedQueues_iff (h : n.Staffed known) :
    n.exchange.transport.subscribedQueues.Nodup ↔ n.KeptApart known := by
  rw [subscribedQueues_eq, List.nodup_map_iff_inj_on h.nodup]
  constructor
  · intro hinj queue e hmem e' hmem' hqueue hqueue'
    have hpost := (h.mem_posts queue (.facade e.address)).mpr ⟨e, hmem, hqueue, rfl⟩
    have hpost' := (h.mem_posts queue (.facade e'.address)).mpr ⟨e', hmem', hqueue', rfl⟩
    exact Subscriber.facade.inj (Prod.mk.inj (hinj _ hpost _ hpost' rfl)).2
  · rintro hapart ⟨queue, subscriber⟩ hpost ⟨queue', subscriber'⟩ hpost' rfl
    obtain ⟨e, hmem, hqueue, rfl⟩ := (h.mem_posts _ _).mp hpost
    obtain ⟨e', hmem', hqueue', rfl⟩ := (h.mem_posts _ _).mp hpost'
    rw [hapart queue e hmem e' hmem' hqueue hqueue']

/-- Every queue to which payloads go has one consumer exactly if the façades are kept apart. -/
theorem count_eq_one_iff (h : n.Staffed known) :
    (∀ queue, ∀ e ∈ known, n.destination e = some queue →
      n.exchange.transport.subscribedQueues.count queue = 1) ↔ n.KeptApart known := by
  rw [← h.nodup_subscribedQueues_iff]
  constructor
  · intro hone
    refine List.nodup_iff_count_le_one.mpr fun queue => ?_
    by_cases hmem : queue ∈ n.exchange.transport.subscribedQueues
    · obtain ⟨e, he, hqueue⟩ := h.mem_subscribedQueues.mp hmem
      exact (hone queue e he hqueue).le
    · exact (List.count_eq_zero_of_not_mem hmem).trans_le (Nat.zero_le 1)
  · intro hnodup queue e he hqueue
    exact List.count_eq_one_of_mem hnodup (h.mem_subscribedQueues.mpr ⟨e, he, hqueue⟩)

/-- Every consumer is there for a façade some of whose payloads go to its queue. -/
theorem exists_of_mem_consumers (h : n.Staffed known)
    (hc : c ∈ n.exchange.transport.consumers) :
    ∃ e ∈ known, ∃ f, n.destination e = some c.queue ∧ c.subscriber = .facade e.address ∧
      n.facades[e.address]? = some f := by
  have hpost : (c.queue, c.subscriber) ∈ n.posts := List.mem_map_of_mem hc
  obtain ⟨e, hmem, hqueue, hsubscriber⟩ := (h.mem_posts _ _).mp hpost
  obtain ⟨f, hf, -⟩ := Option.map_eq_some_iff.mp hqueue
  exact ⟨e, hmem, f, hqueue, hsubscriber, hf⟩

/-- A consumer minds what is taken by a handler of the façade that it serves. -/
theorem minds_of_mem (h : n.Staffed known) (hc : c ∈ n.exchange.transport.consumers)
    {e : Enlistment C} (hmem : e ∈ known) (hsubscriber : c.subscriber = .facade e.address)
    (htakes : e.Takes m) : c.Minds (reception n.facades) m := by
  obtain ⟨other, -, f, -, hother, hf⟩ := h.exists_of_mem_consumers hc
  have hsame : e.address = other.address :=
    Subscriber.facade.inj (hsubscriber.symm.trans hother)
  exact Consumer.minds_of_mem hf (h.orderly.holds _ f hf) hother hmem hsame htakes

/-- A consumer passes over what no handler of the façade that it serves takes, and nothing else. -/
theorem passesOver_iff (h : n.Staffed known) (hc : c ∈ n.exchange.transport.consumers) :
    c.PassesOver (reception n.facades) m ↔
      ¬ ∃ e ∈ known, c.subscriber = .facade e.address ∧ e.Takes m := by
  constructor
  · rintro hpasses ⟨e, hmem, hsubscriber, htakes⟩
    exact (h.minds_of_mem hc hmem hsubscriber htakes).not_passesOver n.exchange.session hpasses
  · intro hnone
    obtain ⟨other, -, f, -, hother, hf⟩ := h.exists_of_mem_consumers hc
    refine Consumer.passesOver_of_stranger hf (h.orderly.holds _ f hf) hother ?_
    intro e hmem haddress htakes
    exact hnone ⟨e, hmem, by rw [hother, haddress], htakes⟩

end Staffed

/-! ## One consumer for each queue -/

/-- Whatever façades share open queues and whatever course things take, as long as handlers that are
to be taken in are, a queue has as many consumers as there are façades whose payloads go there; each
of them passes over the messages that no handler at its own façade takes, and minds all others.  So
no queue has two consumers, and every queue to which payloads go has exactly one, if and only if no
queue takes the payloads for handlers at two façades, and then the consumer of a queue minds every
message that any handler takes whose payloads go there. -/
theorem oneConsumer_iff (setups : List Setup) (visibility waitTime : Duration) (s : Session C)
    {deeds : List (Deed C)}
    (hgrants : (start setups visibility waitTime s).GrantsAll deeds) :
    let n := (start setups visibility waitTime s).performAll deeds
    let known := Deed.enlistments deeds
    let queues := n.exchange.transport.subscribedQueues
    (∀ queue, queues.count queue =
      ((known.filter fun e => n.destination e = some queue).map
        Enlistment.address).dedup.length) ∧
    (queues.Nodup ↔ n.KeptApart known) ∧
    ((∀ queue, ∀ e ∈ known, n.destination e = some queue → queues.count queue = 1) ↔
      n.KeptApart known) ∧
    ∀ c ∈ n.exchange.transport.consumers, ∀ m,
      (c.PassesOver (reception n.facades) m ↔
        ¬ ∃ e ∈ known, c.subscriber = .facade e.address ∧ e.Takes m) ∧
      (∀ e ∈ known, c.subscriber = .facade e.address → e.Takes m →
        c.Minds (reception n.facades) m) ∧
      (n.KeptApart known → ∀ e ∈ known, n.destination e = some c.queue →
        c.subscriber = .facade e.address ∧ (e.Takes m → c.Minds (reception n.facades) m)) := by
  intro n known queues
  have hstaffed : n.Staffed known :=
    (Staffed.start setups visibility waitTime s).performAll hgrants
  refine ⟨hstaffed.count_subscribedQueues, hstaffed.nodup_subscribedQueues_iff,
    hstaffed.count_eq_one_iff, fun c hc m => ⟨hstaffed.passesOver_iff hc, ?_, ?_⟩⟩
  · intro e hmem hsubscriber htakes
    exact hstaffed.minds_of_mem hc hmem hsubscriber htakes
  · intro hapart e hmem hqueue
    obtain ⟨other, hother, -, hqueue', hsubscriber, -⟩ := hstaffed.exists_of_mem_consumers hc
    have hserves : c.subscriber = .facade e.address := by
      rw [hsubscriber, hapart c.queue e hmem other hother hqueue hqueue']
    exact ⟨hserves, hstaffed.minds_of_mem hc hmem hserves⟩

end Network

/-! ## Two façades -/

namespace Sample

/-- Watches shapes. -/
def shapeWatcher : EventHandler (nameless.Value .shape) :=
  ⟨3, "watcher", .plain fun _ _ => .ok ()⟩

/-- A shape on its way. -/
def shapeMessage : Message :=
  (Message.plain "1" "\"Empty\"").withAttribute Message.typeInfoKey (nameless.tag .shape)

/-- Commands of one application and events of another, each over one queue. -/
def twoApplications : List Setup :=
  [.commands "app" (.shared "app" "all"), .events "audit" (.shared "audit" "all")]

/-- Handlers for both, of which the last is taken in while a message waits. -/
def twoCourses : List (Deed nameless) :=
  [.enlist (.command 0 pings), .enlist (.event 1 .shape shapeWatcher), .send "app-all" shapeMessage,
    .enlist (.command 0 shapes)]

end Sample

namespace Network

/-- Two applications with a queue each have one consumer each. -/
theorem oneConsumer_of_two_applications :
    let n : Network Sample.nameless Broker := start Sample.twoApplications 0 5 (.start ⟨[], []⟩ 0)
    n.GrantsAll Sample.twoCourses ∧
      (n.performAll Sample.twoCourses).exchange.transport.subscribedQueues.Nodup := by
  intro n
  have hgrants : n.GrantsAll Sample.twoCourses :=
    ⟨fun e he => Option.some_inj.mp he ▸ rfl, fun e he => Option.some_inj.mp he ▸ rfl, nofun,
      fun e he => Option.some_inj.mp he ▸ rfl, trivial⟩
  have hapart : (n.performAll Sample.twoCourses).KeptApart
      (Deed.enlistments Sample.twoCourses) := by
    have hplace : ∀ e ∈ Deed.enlistments Sample.twoCourses,
        e.address = 0 ∧ (n.performAll Sample.twoCourses).destination e = some "app-all" ∨
          e.address = 1 ∧ (n.performAll Sample.twoCourses).destination e = some "audit-all" := by
      simp only [Sample.twoCourses, Deed.enlistments, List.filterMap_cons, Deed.enlistment?,
        List.filterMap_nil, List.forall_mem_cons]
      exact ⟨.inl ⟨rfl, rfl⟩, .inr ⟨rfl, rfl⟩, .inl ⟨rfl, rfl⟩, List.forall_mem_nil _⟩
    intro queue e hmem e' hmem' hqueue hqueue'
    have hsame := hqueue.trans hqueue'.symm
    rcases hplace e hmem with ⟨haddress, hname⟩ | ⟨haddress, hname⟩
    · rcases hplace e' hmem' with ⟨haddress', -⟩ | ⟨-, hname'⟩
      · rw [haddress, haddress']
      · rw [hname, hname'] at hsame
        exact absurd hsame (by decide)
    · rcases hplace e' hmem' with ⟨-, hname'⟩ | ⟨haddress', -⟩
      · rw [hname, hname'] at hsame
        exact absurd hsame (by decide)
      · rw [haddress, haddress']
  exact ⟨hgrants, (oneConsumer_iff Sample.twoApplications 0 5 _ hgrants).2.1.mpr hapart⟩

/-- Commands and events of one application over one queue have two consumers there, and the one for
the commands passes over a shape that the other one would take. -/
theorem sharedQueue_has_two_consumers :
    let n : Network Sample.nameless Broker := start
      [.commands "app" (.shared "app" "all"), .events "app" (.shared "app" "all")] 0 5
        (.start ⟨[], []⟩ 0)
    let deeds : List (Deed Sample.nameless) := [.enlist (.command 0 Sample.pings),
      .enlist (.event 1 .shape Sample.shapeWatcher), .send "app-all" Sample.shapeMessage, .round]
    let n' := n.performAll deeds
    n.GrantsAll deeds ∧ n'.exchange.transport.subscribedQueues = ["app-all", "app-all"] ∧
      ¬ n'.exchange.transport.subscribedQueues.Nodup ∧
      n'.exchange.transport.backlog.waiting "app-all" = [] ∧ n'.exchange.session.calls = [] := by
  intro n deeds n'
  have hqueues : n'.exchange.transport.subscribedQueues = ["app-all", "app-all"] := by
    decide +kernel
  have hcalls : n'.exchange.session.calls.length = 0 := by decide +kernel
  refine ⟨⟨fun e he => Option.some_inj.mp he ▸ rfl, fun e he => Option.some_inj.mp he ▸ rfl, nofun,
    nofun, trivial⟩, hqueues, ?_, by decide +kernel, List.length_eq_zero_iff.mp hcalls⟩
  rw [hqueues]
  decide

end Network
end Switchboard
