import Switchboard.Proofs.Network.Standing

/-!
# Events that nobody here hears

An event without a handler here is published all the same, for others to consume.  Its message stays
on its queue until somebody else removes it, as long as no type with handlers here has its payloads
go to the same queue.  Once a registration for such a type was granted, the façade's own consumer
stands there, and it passes over the messages that nobody here hears: it deletes them.

Main results:

- Theorem {lit}`Network.mail_prefix_stir`: what a façade does not subscribe to, its own consumers
  leave alone.
- Definition {lit}`Network.RemainsUnlessTaken`: a message stays until somebody else removes it.
- Theorem {lit}`Network.unheard_remains`: when the message of a published event does, and when the
  façade's own consumer comes to it.
-/

namespace Switchboard

variable {C : Catalogue}

/-- Something is foreign to the façade of an address if somebody else does it: a consumer that is
not there for that façade, or anybody outside. -/
def Stir.Foreign (n : Network C Broker) (address : Nat) : Stir C → Prop
  | .turn place => ∀ c, n.exchange.transport.consumers[place]? = some c →
    c.subscriber ≠ .facade address
  | .others .. => True
  | _ => False

/-- A turn leaves every queue alone but the consumer's own. -/
theorem Consumer.waiting_turn_of_ne (receive : Reception C) (now : Instant) (wait : Duration)
    (backlog : Backlog) (c : Consumer) {other : String} (hne : other ≠ c.queue) (s : Session C) :
    (c.turn receive now wait backlog s).1.backlog.waiting other = backlog.waiting other := by
  cases hrunning : c.running with
  | false =>
    rw [turn, hrunning]
    rfl
  | true =>
    rw [turn_of_running receive hrunning]
    cases hpoll : backlog.poll now c.deadline c.queue (Uuid.random s.nextId).text with
    | closed => rfl
    | blocked => rfl
    | timedOut => rfl
    | delivered delivery left =>
      have hleft : left.waiting other = backlog.waiting other := by
        obtain ⟨-, messages, -, rfl⟩ := Backlog.poll_eq_delivered_iff.mp hpoll
        rw [Backlog.waiting, Dictionary.find?_insert_of_ne _ hne, Backlog.waiting]
      simp only [handle_eq]
      split
      · exact (Backlog.waiting_delete ..).trans ((if_neg hne).trans hleft)
      · exact hleft

namespace Network

variable {n : Network C Broker} {address : Nat} {f : AnyFacade C} {queue : String}

/-! ## What stays on a queue -/

/-- The messages of a queue, in their order. -/
def mail (n : Network C Broker) (queue : String) : List Message :=
  (n.exchange.transport.backlog.waiting queue).map Waiting.message

/-- A registration leaves all queues alone. -/
theorem mail_enlist (n : Network C Broker) (e : Enlistment C) (queue : String) :
    (enlist e n).2.mail queue = n.mail queue := by
  rcases n.enlist_cases e with ⟨-, hsame⟩ | ⟨_, _, _, _, b, -, -, hengages, -, hn⟩
  · rw [hsame]
  · rw [hn, mail, mail, hengages.backlog]

/-- Whoever subscribes leaves all queues alone. -/
theorem mail_subscribe (n : Network C Broker) (entered : String) (consumer : MessageConsumer)
    (queue : String) : (n.stir (.subscribe entered consumer)).mail queue = n.mail queue := by
  cases hclosed : n.exchange.transport.backlog.closed with
  | true =>
    simp [stir, direct, Transport.subscribe, Broker.subscribe, hclosed, pure_apply, mail]
  | false =>
    obtain ⟨log, haccepted⟩ := Broker.subscribe_of_open hclosed entered (.consumer consumer)
      n.exchange.session
    simp [stir, direct, haccepted, mail]

/-- What is published comes behind the messages of its queue. -/
theorem mail_prefix_dispatch (n : Network C Broker) (address : Nat) (ctx : Context) {kind : C.Kind}
    (event : C.Value kind) (queue : String) :
    n.mail queue <+: (dispatch address ctx event n).2.mail queue := by
  by_cases hf : ∃ f, n.facades[address]? = some (.events f)
  · obtain ⟨f, hf⟩ := hf
    rw [dispatch_of_getElem? hf]
    rcases f.dispatch_cases ctx event n.exchange with
      ⟨-, htransport⟩ | ⟨m, backlog, -, hsend, -, htransport⟩
    · simp only [mail, htransport]
      exact List.prefix_rfl
    · simp only [mail, htransport]
      by_cases hqueue : queue = f.queueName (C.tag kind)
      · rw [hqueue, Backlog.waiting_send hsend, List.map_append]
        exact List.prefix_append _ _
      · rw [Backlog.waiting_send_of_ne hsend hqueue]
  · rw [dispatch_of_not_events hf]

/-- The consumers of a façade leave a queue alone that the façade did not subscribe to. -/
theorem mail_turn (hmanned : n.Manned) (hf : n.facades[address]? = some f)
    (hnever : f.outline.subscribed.contains queue = false) {place : Nat} {c : Consumer}
    (hc : n.exchange.transport.consumers[place]? = some c)
    (hown : c.subscriber = .facade address) : (n.turn place).mail queue = n.mail queue := by
  have hpost : (c.queue, .facade address) ∈ n.posts :=
    List.mem_map.mpr ⟨c, List.mem_of_getElem? hc, by rw [Consumer.post, hown]⟩
  have hsubscribed := (hmanned.posted c.queue address f hf).mp hpost
  have hne : queue ≠ c.queue := by
    rintro rfl
    rw [hsubscribed] at hnever
    cases hnever
  simp only [mail, turn, hc]
  exact congrArg _ (c.waiting_turn_of_ne (reception n.facades) n.exchange.transport.now
    n.exchange.transport.waitTime n.exchange.transport.backlog hne
    { n.exchange.session with background := true })

/-- What is not foreign to a façade only adds messages to a queue that the façade did not subscribe
to, behind those that are there. -/
theorem mail_prefix_stir (hmanned : n.Manned) (hf : n.facades[address]? = some f)
    (hnever : f.outline.subscribed.contains queue = false) {act : Stir C}
    (hown : ¬ act.Foreign n address) : n.mail queue <+: (n.stir act).mail queue := by
  cases act with
  | enlist e => rw [stir, mail_enlist]
  | dispatch other ctx kind event => exact n.mail_prefix_dispatch other ctx event queue
  | turn place =>
    simp only [Stir.Foreign, not_forall, not_not] at hown
    obtain ⟨c, hc, hown⟩ := hown
    rw [stir, mail_turn hmanned hf hnever hc hown]
  | pass duration => exact List.prefix_rfl
  | subscribe entered consumer => rw [mail_subscribe]
  | others session backlog receivers => exact absurd trivial hown

/-- While things happen a message remains on its queue, as often as it is there, or there is
something foreign to the façade of an address that removes it. -/
def RemainsUnlessTaken (n : Network C Broker) (address : Nat) (queue : String) (m : Message)
    (stirs : List (Stir C)) : Prop :=
  (n.mail queue).count m ≤ ((n.stirAll stirs).mail queue).count m ∨
    ∃ before act after, stirs = before ++ act :: after ∧ act.Foreign (n.stirAll before) address ∧
      (((n.stirAll before).stir act).mail queue).count m <
        ((n.stirAll before).mail queue).count m

/-- Messages remain on a queue that a façade has not subscribed to in the end, unless something
foreign to it removes them. -/
theorem remainsUnlessTaken_of_unsubscribed (hmanned : n.Manned) (hf : n.facades[address]? = some f)
    (m : Message) {stirs : List (Stir C)} {f' : AnyFacade C}
    (hf' : (n.stirAll stirs).facades[address]? = some f')
    (hnever : f'.outline.subscribed.contains queue = false) :
    n.RemainsUnlessTaken address queue m stirs := by
  induction stirs generalizing n f with
  | nil => exact .inl le_rfl
  | cons act rest ih =>
    obtain ⟨g, hg, hgrows⟩ := (n.settles_stir act).getElem? hf
    -- What the façade has not subscribed to in the end, it has not subscribed to now.
    have hyet : f.outline.subscribed.contains queue = false := by
      obtain ⟨last, hlast, hgrows'⟩ := grows_stirAll hg rest
      obtain rfl : last = f' := Option.some_inj.mp (hlast.symm.trans hf')
      refine Bool.eq_false_iff.mpr fun hcontains => ?_
      rw [(hgrows.trans hgrows').outline.subscribed queue hcontains] at hnever
      cases hnever
    rcases ih (hmanned.stir act) hg hf' with hrest | ⟨before, taker, after, rfl, hforeign, htaken⟩
    · by_cases hown : act.Foreign n address
      · rcases Nat.lt_or_ge (((n.stir act).mail queue).count m) ((n.mail queue).count m) with
          htaken | hstays
        · exact .inr ⟨[], act, rest, rfl, hown, htaken⟩
        · exact .inl (hstays.trans hrest)
      · have hgrown := mail_prefix_stir hmanned hf hyet hown
        exact .inl ((hgrown.sublist.count_le m).trans hrest)
    · exact .inr ⟨act :: before, taker, after, rfl, hforeign, htaken⟩

/-! ## Events without handlers -/

/-- The consumer of a façade passes over the messages that nobody there hears. -/
theorem passesOver_of_unheard (hmanned : n.Manned) {f : EventFacade C}
    (hf : n.facades[address]? = some (.events f)) {c : Consumer}
    (hsubscriber : c.subscriber = .facade address) {m : Message}
    (hunheard : ∀ tag, m.typeInfo = some tag → f.registry.isRegistered tag = false) :
    c.PassesOver (reception n.facades) m := by
  have hroutes : ∀ tag, m.typeInfo = some tag → f.routes.find? tag = none := by
    intro tag htag
    refine Option.not_isSome_iff_eq_none.mp fun hroute => ?_
    have hknown := (hmanned.backed address f hf).routes tag hroute
    rw [hunheard tag htag] at hknown
    cases hknown
  refine Consumer.passesOver_of_receive hf hsubscriber fun ctx s => ?_
  obtain ⟨hok, hcalls, -⟩ := Facade.route_of_unknown (f := f) hroutes ctx s
  exact ⟨hok, hcalls⟩

section
variable {f : EventFacade C} (hf : n.facades[address]? = some (.events f))
include hf

/-- An event that is published becomes the last message of the queue of its tag, and the façades
stay as they are. -/
theorem mail_of_dispatch {ctx : Context} {kind : C.Kind} {event : C.Value kind}
    (hok : (dispatch address ctx event n).1 = some (.ok ())) :
    ∃ m, Facade.compose (Uuid.random n.exchange.session.nextId).text ctx event none = .ok m ∧
      (n.stir (.dispatch address ctx kind event)).mail (f.queueName (C.tag kind)) =
        n.mail (f.queueName (C.tag kind)) ++ [m] ∧
      (n.stir (.dispatch address ctx kind event)).facades = n.facades := by
  rw [stir, dispatch_of_getElem? hf] at *
  rcases f.dispatch_cases ctx event n.exchange with
    ⟨hrefused, -⟩ | ⟨m, backlog, hcompose, hsend, -, htransport⟩
  · exact absurd (Option.some_inj.mp hok) hrefused
  · refine ⟨m, hcompose, ?_, rfl⟩
    simp only [mail, htransport, Backlog.waiting_send hsend, List.map_append]
    rfl

/-- A message remains on a queue as long as the façade has not subscribed to it, which it does not
without a handler for a type whose payloads go there, and the façade's own consumers pass it over as
long as nobody there hears it. -/
theorem remains_or_passedOver (hmanned : n.Manned) (queue : String) (m : Message)
    (stirs : List (Stir C)) :
    ∃ f' : EventFacade C, (n.stirAll stirs).facades[address]? = some (.events f') ∧
      ((∀ tag, f'.registry.isRegistered tag = true → f.queueName tag ≠ queue) →
        f'.subscribed.contains queue = false) ∧
      (f'.subscribed.contains queue = false → n.RemainsUnlessTaken address queue m stirs) ∧
      ((∀ tag, m.typeInfo = some tag → f'.registry.isRegistered tag = false) →
        ∀ c ∈ (n.stirAll stirs).exchange.transport.consumers, c.subscriber = .facade address →
          c.PassesOver (reception (n.stirAll stirs).facades) m) := by
  have hlater := hmanned.stirAll stirs
  obtain ⟨_, hg, hgrows⟩ := grows_stirAll hf stirs
  cases hgrows with
  | @events _ f' hgrows _ =>
    refine ⟨f', hg, fun hapart => ?_, remainsUnlessTaken_of_unsubscribed hmanned hf m hg,
      fun hunheard c _ hsubscriber => passesOver_of_unheard hlater hg hsubscriber hunheard⟩
    refine Bool.eq_false_iff.mpr fun hsubscribed => ?_
    obtain ⟨tag, htag, hname⟩ := (hlater.backed address f' hg).queues queue hsubscribed
    rw [hgrows.queueName_eq] at hname
    exact hapart tag htag hname

end

/-- An event that was published, whatever happened before at the façades, is the last message of the
queue of its tag.  If no type with handlers at its façade has its payloads go there, it remains on
that queue until somebody else removes it, and so it does until a registration for such a type is
granted.  From then on the façade's own consumer stands there, and it passes the message over as
long as nobody at the façade hears it. -/
theorem unheard_remains (setups : List Setup) (visibility waitTime : Duration) (s : Session C)
    (before : List (Stir C)) {address : Nat} {f : EventFacade C}
    (hf : ((start setups visibility waitTime s).stirAll before).facades[address]? =
      some (.events f)) {ctx : Context} {kind : C.Kind} {event : C.Value kind}
    (hok : (dispatch address ctx event
      ((start setups visibility waitTime s).stirAll before)).1 = some (.ok ())) :
    let first := start setups visibility waitTime s
    let n := first.stirAll before
    let published := n.stir (.dispatch address ctx kind event)
    let queue := f.queueName (C.tag kind)
    ∃ m, Facade.compose (Uuid.random n.exchange.session.nextId).text ctx event none = .ok m ∧
      published.mail queue = n.mail queue ++ [m] ∧
      ∀ stirs, ∃ f' : EventFacade C,
        (published.stirAll stirs).facades[address]? = some (.events f') ∧
        ((∀ tag, f'.registry.isRegistered tag = true → f.queueName tag ≠ queue) →
          published.RemainsUnlessTaken address queue m stirs) ∧
        ((∃ c ∈ (published.stirAll stirs).exchange.transport.consumers,
            c.queue = queue ∧ c.subscriber = .facade address) ↔
          first.Granted address queue (before ++ .dispatch address ctx kind event :: stirs)) ∧
        (¬ first.Granted address queue (before ++ .dispatch address ctx kind event :: stirs) →
          published.RemainsUnlessTaken address queue m stirs) ∧
        ((∀ tag, m.typeInfo = some tag → f'.registry.isRegistered tag = false) →
          ∀ c ∈ (published.stirAll stirs).exchange.transport.consumers,
            c.subscriber = .facade address →
              c.PassesOver (reception (published.stirAll stirs).facades) m) := by
  intro first n published queue
  have hmanned : published.Manned :=
    ((Manned.start setups visibility waitTime s).stirAll before).stir _
  obtain ⟨m, hcompose, hmail, hfacades⟩ := mail_of_dispatch hf hok
  refine ⟨m, hcompose, hmail, fun stirs => ?_⟩
  obtain ⟨f', hf', hapart, hremains, hpasses⟩ :=
    remains_or_passedOver (hfacades ▸ hf) hmanned queue m stirs
  have hwhole : first.stirAll (before ++ .dispatch address ctx kind event :: stirs) =
      published.stirAll stirs := List.foldl_append
  have hgranted : (queue, .facade address) ∈ (published.stirAll stirs).posts ↔
      first.Granted address queue (before ++ .dispatch address ctx kind event :: stirs) := by
    rw [← hwhole] at hf' ⊢
    exact mem_posts_iff setups visibility waitTime s hf'
  have hsubscribed := (hmanned.stirAll stirs).posted queue address _ hf'
  refine ⟨f', hf', fun hnone => hremains (hapart hnone), ?_, fun hnot => hremains ?_, hpasses⟩
  · rw [← hgranted, mem_posts]
  · rw [← hgranted, hsubscribed] at hnot
    exact Bool.eq_false_iff.mpr hnot

end Network

/-! ## A queue of its own, and a shared one -/

namespace Sample

/-- A façade for events that watches shapes, under a strategy for naming queues. -/
def watching (naming : QueueNaming) : Network nameless Broker :=
  let n : Network nameless Broker := .start [.events "app" naming] 0 5 (.start ⟨[], []⟩ 0)
  n.stirAll [.enlist (.event 0 .shape shapeWatcher)]

/-- The façade publishes a ping. -/
def pinging : nameless.Value .ping :=
  Ping.ping

end Sample

namespace Network

/-- With a queue for each type, a ping that nobody here hears remains on its own, while the consumer
of the shapes takes its turns. -/
theorem unheard_remains_perType :
    let n := Sample.watching (.perType "app")
    let published := n.stir (.dispatch 0 .blank .ping Sample.pinging)
    (dispatch 0 .blank Sample.pinging n).1 = some (.ok ()) ∧
    ∃ m, published.mail "app-ping" = [m] ∧
      published.RemainsUnlessTaken 0 "app-ping" m [.turn 0, .pass 3, .turn 0] := by
  intro n published
  have hok : (dispatch 0 .blank Sample.pinging n).1 = some (.ok ()) := rfl
  obtain ⟨f, hf, hping, hshape⟩ : ∃ f : EventFacade Sample.nameless,
      n.facades[0]? = some (.events f) ∧ f.queueName "Ping" = "app-ping" ∧
        f.queueName "shapes.API.Shape" ≠ "app-ping" :=
    ⟨_, rfl, by decide +kernel, by decide +kernel⟩
  obtain ⟨m, -, hmail, hlater⟩ := unheard_remains (C := Sample.nameless)
    [.events "app" (.perType "app")] 0 5 (.start ⟨[], []⟩ 0)
    [.enlist (.event 0 .shape Sample.shapeWatcher)] hf hok
  obtain ⟨f', hf', hremains, -⟩ := hlater [.turn 0, .pass 3, .turn 0]
  have honly : ∀ tag, f'.registry.isRegistered tag = true → tag = "shapes.API.Shape" := by
    obtain ⟨g, hg, hslots⟩ : ∃ g : EventFacade Sample.nameless,
        (published.stirAll [.turn 0, .pass 3, .turn 0]).facades[0]? = some (.events g) ∧
          g.registry.slots = Dictionary.empty.insert "shapes.API.Shape"
            ⟨.shape, [Sample.shapeWatcher]⟩ :=
      ⟨_, rfl, rfl⟩
    obtain rfl : f' = g := AnyFacade.events.inj (Option.some_inj.mp (hf'.symm.trans hg))
    intro tag htag
    rw [EventRegistry.isRegistered, Dictionary.contains, hslots, Dictionary.find?_insert] at htag
    by_contra hother
    rw [if_neg hother] at htag
    cases htag
  have hqueue : f.queueName (Sample.nameless.tag .ping) = "app-ping" := hping
  rw [hqueue] at hremains hmail
  exact ⟨hok, m, hmail, hremains fun tag htag => honly tag htag ▸ hshape⟩

/-- Over a shared queue, a ping that nobody here hears is removed by the consumer of the shapes,
although nobody is called. -/
theorem unheard_lost_on_shared_queue :
    let n := Sample.watching (.shared "app" "all")
    let published := n.stir (.dispatch 0 .blank .ping Sample.pinging)
    (dispatch 0 .blank Sample.pinging n).1 = some (.ok ()) ∧
    (∃ f : EventFacade Sample.nameless, n.facades[0]? = some (.events f) ∧
      f.queueName "Ping" = "app-all" ∧ f.registry.isRegistered "Ping" = false) ∧
    ∃ m, published.mail "app-all" = [m] ∧ (published.stir (.turn 0)).mail "app-all" = [] ∧
      ¬ published.RemainsUnlessTaken 0 "app-all" m [.turn 0] ∧
      (published.stir (.turn 0)).exchange.session.calls = [] := by
  intro n published
  have hmail : (published.mail "app-all").length = 1 := by decide +kernel
  have hgone : (published.stir (.turn 0)).mail "app-all" = [] := by decide +kernel
  have hcalls : (published.stir (.turn 0)).exchange.session.calls.length = 0 := by decide +kernel
  have hown : ∃ c, published.exchange.transport.consumers[0]? = some c ∧
      c.subscriber = .facade 0 := ⟨_, rfl, rfl⟩
  obtain ⟨m, hm⟩ := List.length_eq_one_iff.mp hmail
  refine ⟨rfl, ⟨_, rfl, by decide +kernel, by decide +kernel⟩, m, hm, hgone, ?_,
    List.length_eq_zero_iff.mp hcalls⟩
  rintro (hstays | ⟨before, act, after, hstirs, hforeign, -⟩)
  · have hcount : (published.mail "app-all").count m ≤
        ((published.stir (.turn 0)).mail "app-all").count m := hstays
    rw [hm, hgone, List.count_singleton_self, List.count_nil] at hcount
    cases hcount
  · cases before with
    | cons _ _ => simp at hstirs
    | nil =>
      obtain ⟨rfl, -⟩ := List.cons_eq_cons.mp hstirs
      obtain ⟨c, hc, hsubscriber⟩ := hown
      exact hforeign c hc hsubscriber

end Network
end Switchboard
