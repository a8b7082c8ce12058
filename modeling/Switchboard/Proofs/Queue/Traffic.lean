import Switchboard.Proofs.Queue.History
import Switchboard.Queue.Broker

/-!
# Traffic at the queues

Any number of callers use the queues at once.  A call that waits for a message looks at its queue
again and again until it has its reply, and the other calls, and the clock, go on in between.  So a
run is a list of acts in any order: each is what one caller does to the queues while it holds them.

Main results:

- Definition {lit}`Traffic.step`: what one act does.
- Theorem {lit}`Traffic.step_spec`: an act is one step of the backlog, and is seen as such.
- Theorem {lit}`Traffic.handedTo_run`: in every run, what calls were handed is what was seen to be
  delivered.
- Theorem {lit}`Traffic.run_conserved`: in every run the queues hold what was sent and not removed,
  and only a purge, or the latest receipt of a message on its own queue, removes it.
-/

namespace Switchboard

/-- A call that waits for a message of a queue. -/
structure Caller where
  receiver : Receiver
  /-- Whether it is still to delete the message that it waits for, once it has it. -/
  takes : Bool

/-- What a caller, or the clock, does next. -/
inductive Act where
  | pass (duration : Duration)
  | send (queue : String) (message : Message)
  /-- A call begins to wait for a message, to take it off its queue or not. -/
  | beginReceive (queue : String) (wait : Duration) (takes : Bool)
  /-- The call of a place looks at its queue, with a receipt at hand. -/
  | look (caller : Nat) (receipt : String)
  /-- The call of a place deletes the message that it was handed. -/
  | take (caller : Nat)
  | delete (queue receipt : String)
  | purge (queue : String)
  | close

/-- The receipt that an act may give. -/
def Act.receipt? : Act → Option String
  | look _ receipt => some receipt
  | _ => none

/-- The queues, those who wait at them, and what was seen to happen so far. -/
structure Traffic where
  now : Instant
  backlog : Backlog
  /-- The calls that wait for a message, in the order in which they began. -/
  callers : List Caller
  history : List Occurrence

namespace Traffic

/-- Open queues without messages, and nobody there. -/
def start (visibility : Duration) : Traffic :=
  ⟨0, .start visibility, [], []⟩

/-- The ledger that the history tells. -/
def ledger (t : Traffic) : Ledger :=
  .ofHistory t.backlog.visibility t.history

/-! ## Acts -/

/-- Change the queues, and see something happen. -/
def note (t : Traffic) (backlog : Backlog) (o : Occurrence) : Traffic :=
  { t with backlog, history := t.history ++ [o] }

/-- The queue and the receipt of the deletion that an act stands for, if it is one. -/
def deletion? (t : Traffic) : Act → Option (String × String)
  | .delete queue receipt => some (queue, receipt)
  | .take caller =>
    match t.callers[caller]? with
    | some ⟨⟨queue, _, some (.delivered delivery)⟩, true⟩ => some (queue, delivery.receipt)
    | _ => none
  | _ => none

/-- The queue at which an act takes place. -/
def queueOf? (t : Traffic) : Act → Option String
  | .send queue _ => some queue
  | .delete queue _ => some queue
  | .purge queue => some queue
  | .look caller _ => t.callers[caller]?.map fun c => c.receiver.queue
  | .take caller => t.callers[caller]?.map fun c => c.receiver.queue
  | _ => none

/-- A look of the call of a place. -/
def look (t : Traffic) (caller : Nat) (receipt : String) : Traffic :=
  match t.callers[caller]? with
  | none => t
  | some c =>
    let look := c.receiver.look t.now t.backlog receipt
    let t' := { t with callers := t.callers.set caller { c with receiver := look.receiver } }
    match look.ended, look.receiver.reply with
    | true, some (.delivered delivery) =>
      t'.note look.backlog (.delivered c.receiver.queue delivery t.now)
    | _, _ => { t' with backlog := look.backlog }

/-- Perform an act. -/
def step (t : Traffic) : Act → Traffic
  | .pass duration => { t with now := t.now + duration }
  | .send queue message =>
    match t.backlog.send t.now queue message with
    | .ok backlog => t.note backlog (.sent queue message t.now)
    | .error _ => t
  | .beginReceive queue wait takes =>
    { t with callers := t.callers ++ [⟨⟨queue, Instant.after? t.now wait, none⟩, takes⟩] }
  | .look caller receipt => t.look caller receipt
  | .take caller =>
    match t.deletion? (.take caller) with
    | some (queue, receipt) =>
      { t.note (t.backlog.delete queue receipt) (.deleted queue receipt) with
        callers := t.callers.modify caller fun c => { c with takes := false } }
    | none => t
  | .delete queue receipt =>
    t.note (t.backlog.delete queue receipt) (.deleted queue receipt)
  | .purge queue => t.note (t.backlog.purge queue) (.purged queue)
  | .close => { t with backlog := t.backlog.close }

/-- Perform acts one after the other. -/
def run (t : Traffic) (acts : List Act) : Traffic :=
  acts.foldl step t

/-! ## What an act does -/

/-- Which acts may be seen as an occurrence. -/
def Explains (t : Traffic) (act : Act) : Occurrence → Prop
  | .sent queue message _ => act = .send queue message
  | .delivered queue delivery _ =>
    act.receipt? = some delivery.receipt ∧ t.queueOf? act = some queue
  | .deleted queue receipt =>
    t.deletion? act = some (queue, receipt) ∧ t.queueOf? act = some queue
  | .purged queue => act = .purge queue

/-- What is seen of an act gives no other receipt than the act. -/
theorem Explains.receipt?_eq {t : Traffic} {act : Act} {o : Occurrence} (h : t.Explains act o)
    {receipt : String} (hgiven : o.receipt? = some receipt) : act.receipt? = some receipt := by
  cases o with
  | delivered queue delivery deliveredAt =>
    simp only [Occurrence.receipt?, Option.some_inj] at hgiven
    exact hgiven ▸ h.1
  | sent | deleted | purged => cases hgiven

end Traffic

/-- A look of a receiver leaves the queues as they are, or it is handed a message. -/
theorem Receiver.look_cases (r : Receiver) (now : Instant) (b : Backlog) (receipt : String) :
    ((r.look now b receipt).backlog = b ∧
      ∀ delivery, (r.look now b receipt).ended = true →
        (r.look now b receipt).receiver.reply ≠ some (.delivered delivery)) ∨
    ∃ delivery b', b.poll now r.deadline r.queue receipt = .delivered delivery b' ∧
      r.look now b receipt = ⟨{ r with reply := some (.delivered delivery) }, b', true⟩ := by
  unfold look
  split
  · exact .inl ⟨rfl, by simp⟩
  · split
    · exact .inl ⟨rfl, by simp⟩
    · rename_i delivery b' hpoll
      exact .inr ⟨delivery, b', hpoll, rfl⟩
    · exact .inl ⟨rfl, by simp⟩
    · exact .inl ⟨rfl, by simp⟩

/-- A receiver has been handed a message if it had been before, or if it waits and its look finds
one. -/
theorem Receiver.reply_look (r : Receiver) (now : Instant) (b : Backlog) (receipt : String)
    (delivery : Delivery) :
    (r.look now b receipt).receiver.reply = some (.delivered delivery) ↔
      r.reply = some (.delivered delivery) ∨
        r.reply = none ∧ ∃ b', b.poll now r.deadline r.queue receipt = .delivered delivery b' := by
  unfold look
  cases hreply : r.reply with
  | some reply => simp [hreply]
  | none =>
    cases hpoll : b.poll now r.deadline r.queue receipt <;> simp [hreply]

/-- A look that hands something out does so under its own receipt. -/
theorem Backlog.receipt_of_poll {b b' : Backlog} {now : Instant} {deadline : Option Instant}
    {queue receipt : String} {delivery : Delivery}
    (h : b.poll now deadline queue receipt = .delivered delivery b') :
    delivery.receipt = receipt := by
  obtain ⟨-, messages, hfound, -⟩ := poll_eq_delivered_iff.mp h
  revert hfound
  generalize b.waiting queue = waiting
  intro hfound
  induction waiting generalizing messages with
  | nil => cases hfound
  | cons w rest ih =>
    rw [takeFirst] at hfound
    split at hfound
    · cases hfound
      rfl
    · obtain ⟨⟨d, ms⟩, hrest, heq⟩ := Option.map_eq_some_iff.mp hfound
      cases heq
      exact ih ms hrest

namespace Traffic

/-- An act is one step of the backlog, and what is seen of it is what the act stands for. -/
theorem step_spec (t : Traffic) (act : Act) :
    ∃ new, t.backlog.Step t.now (t.step act).backlog new ∧
      (t.step act).history = t.history ++ new ∧
      (∀ o ∈ new, t.Explains act o) ∧
      (∀ queue, act = .purge queue → .purged queue ∈ new) ∧
      ∀ queue receipt, t.deletion? act = some (queue, receipt) → .deleted queue receipt ∈ new := by
  cases act with
  | pass | beginReceive => exact ⟨[], .quiet, by simp [step], by simp, by simp, by simp [deletion?]⟩
  | close => exact ⟨[], .closed, by simp [step], by simp, by simp, by simp [deletion?]⟩
  | send queue message =>
    simp only [step]
    cases hsend : t.backlog.send t.now queue message with
    | ok b' => exact ⟨_, .sent hsend, rfl, by simp [Explains], by simp, by simp [deletion?]⟩
    | error e => exact ⟨[], .quiet, by simp, by simp, by simp, by simp [deletion?]⟩
  | look caller receipt =>
    simp only [step, look]
    cases hcaller : t.callers[caller]? with
    | none => exact ⟨[], .quiet, by simp, by simp, by simp, by simp [deletion?]⟩
    | some c =>
      rcases c.receiver.look_cases t.now t.backlog receipt with
        ⟨hbacklog, hreply⟩ | ⟨delivery, b', hpoll, hlook⟩
      · refine ⟨[], ?_, ?_, by simp, by simp, by simp [deletion?]⟩
        · dsimp only
          split
          · rename_i delivery hended hdelivered
            exact absurd hdelivered (hreply delivery hended)
          · rw [hbacklog]
            exact .quiet
        · dsimp only
          split
          · rename_i delivery hended hdelivered
            exact absurd hdelivered (hreply delivery hended)
          · simp
      · refine ⟨[.delivered c.receiver.queue delivery t.now], ?_, ?_, ?_, by simp,
          by simp [deletion?]⟩
        · simpa [hlook, note] using Backlog.Step.delivered hpoll
        · simp [hlook, note]
        · simp [Explains, Act.receipt?, queueOf?, hcaller, Backlog.receipt_of_poll hpoll]
  | take caller =>
    simp only [step]
    cases hdeletion : t.deletion? (.take caller) with
    | none => exact ⟨[], .quiet, by simp, by simp, by simp, by simp⟩
    | some found =>
      obtain ⟨queue, receipt⟩ := found
      refine ⟨_, .deleted queue receipt, rfl, ?_, by simp, by simp⟩
      have hqueue : t.queueOf? (.take caller) = some queue := by
        simp only [deletion?] at hdeletion
        split at hdeletion
        · rename_i hcaller
          cases hdeletion
          simp [queueOf?, hcaller]
        · cases hdeletion
      simp [Explains, hdeletion, hqueue]
  | delete queue receipt =>
    exact ⟨_, .deleted queue receipt, rfl, by simp [Explains, deletion?, queueOf?], by simp,
      by simp [deletion?]⟩
  | purge queue =>
    exact ⟨_, .purged queue, rfl, by simp [Explains], by simp, by simp [deletion?]⟩

/-- The ledger after a step of the backlog is the ledger before it, with what was seen entered. -/
theorem ledger_step {t t' : Traffic} {new : List Occurrence}
    (hstep : t.backlog.Step t.now t'.backlog new) (hhistory : t'.history = t.history ++ new) :
    t'.ledger = new.foldl (Ledger.enter t.backlog.visibility) t.ledger := by
  rw [ledger, hstep.visibility_eq, hhistory, Ledger.ofHistory_append]
  rfl

/-- Seeing something happen enters it in the ledger. -/
theorem ledger_note {t : Traffic} {b : Backlog} (hvisibility : b.visibility = t.backlog.visibility)
    (o : Occurrence) : (t.note b o).ledger = t.ledger.enter t.backlog.visibility o := by
  simp [ledger, note, hvisibility]

/-- What an act makes of a message that was sent: it stays where and what it is, and it is removed
by a purge of its queue, or by a deletion there that names the receipt of its latest delivery. -/
theorem getElem?_ledger_step (t : Traffic) (act : Act) {i : Nat} {p : Parcel}
    (h : t.ledger[i]? = some p) :
    ∃ p', (t.step act).ledger[i]? = some p' ∧ p'.queue = p.queue ∧ p'.message = p.message ∧
      (p'.removed = true ↔ p.removed = true ∨ act = .purge p.queue ∨
        ∃ receipt, t.deletion? act = some (p.queue, receipt) ∧ p.receipt = some receipt) := by
  obtain ⟨new, hstep, hhistory, hexplains, hpurge, hdelete⟩ := t.step_spec act
  rw [ledger_step hstep hhistory]
  rcases hstep.new_cases with rfl | ⟨o, rfl⟩
  · refine ⟨p, h, rfl, rfl, .inl, ?_⟩
    rintro (hremoved | hact | ⟨receipt, hdeletion, -⟩)
    · exact hremoved
    · exact absurd (hpurge _ hact) List.not_mem_nil
    · exact absurd (hdelete _ _ hdeletion) List.not_mem_nil
  · obtain ⟨p', hp', hqueue, hmessage, hremoved⟩ :=
      Ledger.getElem?_enter t.backlog.visibility o h
    refine ⟨p', hp', hqueue, hmessage, hremoved.trans ?_⟩
    have hexplains := hexplains o List.mem_cons_self
    constructor
    · rintro (hbefore | rfl | ⟨receipt, rfl, hreceipt⟩)
      · exact .inl hbefore
      · exact .inr (.inl hexplains)
      · exact .inr (.inr ⟨receipt, hexplains.1, hreceipt⟩)
    · rintro (hbefore | hact | ⟨receipt, hdeletion, hreceipt⟩)
      · exact .inl hbefore
      · exact .inr (.inl (List.mem_singleton.mp (hpurge _ hact)).symm)
      · exact .inr (.inr ⟨receipt, (List.mem_singleton.mp (hdelete _ _ hdeletion)).symm, hreceipt⟩)

/-- An act leaves every queue alone at which it does not take place. -/
theorem waiting_step_of_ne (t : Traffic) (act : Act) {queue : String}
    (hne : t.queueOf? act ≠ some queue) :
    (t.step act).backlog.waiting queue = t.backlog.waiting queue := by
  obtain ⟨new, hstep, -, hexplains, -⟩ := t.step_spec act
  apply hstep.waiting_of_ne
  rintro o ho rfl
  apply hne
  have hexplains := hexplains o ho
  cases o with
  | sent queue message sentAt =>
    obtain rfl := hexplains
    rfl
  | delivered => exact hexplains.2
  | deleted => exact hexplains.2
  | purged queue =>
    obtain rfl := hexplains
    rfl

/-! ## What is handed to whom -/

/-- The call of a place was handed a delivery from a queue. -/
def HandedTo (t : Traffic) (caller : Nat) (queue : String) (delivery : Delivery) : Prop :=
  ∃ c, t.callers[caller]? = some c ∧ c.receiver.queue = queue ∧
    c.receiver.reply = some (.delivered delivery)

/-- A look changes the call of its place alone, as its receiver looks at the queues. -/
theorem callers_look (t : Traffic) (caller : Nat) (receipt : String) :
    (t.look caller receipt).callers = t.callers.modify caller fun c =>
      { c with receiver := (c.receiver.look t.now t.backlog receipt).receiver } := by
  unfold look
  rw [List.modify_eq_set_getElem?]
  cases t.callers[caller]? with
  | none => rfl
  | some c =>
    dsimp only
    split <;> rfl

/-- A look is seen as a delivery exactly if it hands that delivery to its call. -/
theorem history_look (t : Traffic) (caller : Nat) (receipt : String) {queue : String}
    {delivery : Delivery} :
    (t.look caller receipt).history = t.history ++ [.delivered queue delivery t.now] ↔
      ∃ c, t.callers[caller]? = some c ∧ c.receiver.queue = queue ∧ c.receiver.reply = none ∧
        ∃ b', t.backlog.poll t.now c.receiver.deadline c.receiver.queue receipt =
          .delivered delivery b' := by
  unfold look
  cases hcaller : t.callers[caller]? with
  | none => simp
  | some c =>
    simp only [Receiver.look]
    cases hreply : c.receiver.reply with
    | some reply => simp [hreply]
    | none =>
      cases hpoll : t.backlog.poll t.now c.receiver.deadline c.receiver.queue receipt <;>
        simp [hreply, hpoll, note]

/-- A look hands a delivery to a call if it is the call's own and is seen as that delivery. -/
theorem handedTo_look (t : Traffic) (caller : Nat) (receipt : String) (i : Nat) (queue : String)
    (delivery : Delivery) :
    (t.look caller receipt).HandedTo i queue delivery ↔ t.HandedTo i queue delivery ∨
      i = caller ∧
        (t.look caller receipt).history = t.history ++ [.delivered queue delivery t.now] := by
  unfold HandedTo
  rw [callers_look, List.getElem?_modify, history_look]
  by_cases hi : caller = i
  · subst hi
    cases hcaller : t.callers[caller]? with
    | none => simp
    | some c =>
      simp only [if_true, Option.map_eq_map, Option.map_some, Option.some_inj, exists_eq_left',
        Receiver.queue_look, Receiver.reply_look, true_and, and_or_left]
  · simp [hi, Ne.symm hi]

/-- An act hands a delivery to a call exactly if it is a look of that call and is seen as that
delivery; what was handed out before stays handed out. -/
theorem handedTo_step (t : Traffic) (act : Act) (i : Nat) (queue : String) (delivery : Delivery) :
    (t.step act).HandedTo i queue delivery ↔ t.HandedTo i queue delivery ∨
      (∃ receipt, act = .look i receipt) ∧
        (t.step act).history = t.history ++ [.delivered queue delivery t.now] := by
  cases act with
  | pass | delete | purge | close => simp [step, note, HandedTo]
  | send other message =>
    simp only [step]
    split <;> simp [note, HandedTo]
  | beginReceive other wait takes =>
    simp only [HandedTo, step, List.getElem?_append]
    split
    · simp
    · rename_i hi
      have hnone : t.callers[i]? = none := List.getElem?_eq_none_iff.mpr (Nat.le_of_not_lt hi)
      simp [hnone, List.getElem?_singleton]
  | look caller receipt =>
    rw [step, handedTo_look]
    simp [eq_comm]
  | take caller =>
    simp only [step]
    split
    · simp only [HandedTo, List.getElem?_modify]
      by_cases hi : caller = i <;> cases t.callers[i]? <;> simp [hi]
    · simp

/-- What is seen to be delivered by an act was seen before, or all that is seen of the act is this
delivery, and it is a look of some call. -/
theorem delivered_mem_step (t : Traffic) (act : Act) {queue : String} {delivery : Delivery}
    {deliveredAt : Instant} (h : .delivered queue delivery deliveredAt ∈ (t.step act).history) :
    .delivered queue delivery deliveredAt ∈ t.history ∨
      (∃ caller receipt, act = .look caller receipt) ∧
        (t.step act).history = t.history ++ [.delivered queue delivery t.now] := by
  obtain ⟨new, hstep, hhistory, hexplains, -⟩ := t.step_spec act
  rw [hhistory, List.mem_append] at h
  refine h.imp_right fun hnew => ?_
  have hlook : ∃ caller receipt, act = .look caller receipt := by
    obtain ⟨hreceipt, -⟩ := hexplains _ hnew
    cases act with
    | look caller receipt => exact ⟨caller, receipt, rfl⟩
    | _ => cases hreceipt
  refine ⟨hlook, ?_⟩
  rcases hstep.new_cases with rfl | ⟨o, rfl⟩
  · exact absurd hnew List.not_mem_nil
  · obtain rfl := List.mem_singleton.mp hnew
    rw [hhistory]
    generalize (t.step act).backlog = b' at hstep
    cases hstep with
    | delivered => rfl

/-- What was handed to the calls is what was seen to be delivered. -/
def HandsOutAsSeen (t : Traffic) : Prop :=
  ∀ queue delivery, (∃ caller, t.HandedTo caller queue delivery) ↔
    ∃ deliveredAt, .delivered queue delivery deliveredAt ∈ t.history

/-- An act keeps what was handed out and what was seen in agreement. -/
theorem HandsOutAsSeen.step {t : Traffic} (h : t.HandsOutAsSeen) (act : Act) :
    (t.step act).HandsOutAsSeen := by
  intro queue delivery
  obtain ⟨new, -, hhistory, -⟩ := t.step_spec act
  constructor
  · rintro ⟨caller, hhanded⟩
    rcases (t.handedTo_step act caller queue delivery).mp hhanded with hbefore | ⟨-, hseen⟩
    · obtain ⟨deliveredAt, hmem⟩ := (h queue delivery).mp ⟨caller, hbefore⟩
      exact ⟨deliveredAt, hhistory ▸ List.mem_append_left _ hmem⟩
    · exact ⟨t.now, hseen ▸ List.mem_append_right _ List.mem_cons_self⟩
  · rintro ⟨deliveredAt, hmem⟩
    rcases t.delivered_mem_step act hmem with hbefore | ⟨⟨caller, receipt, hact⟩, hseen⟩
    · obtain ⟨caller, hhanded⟩ := (h queue delivery).mpr ⟨deliveredAt, hbefore⟩
      exact ⟨caller, (t.handedTo_step act caller queue delivery).mpr (.inl hhanded)⟩
    · exact ⟨caller, (t.handedTo_step act caller queue delivery).mpr
        (.inr ⟨⟨receipt, hact⟩, hseen⟩)⟩

theorem HandsOutAsSeen.run {t : Traffic} (h : t.HandsOutAsSeen) (acts : List Act) :
    (t.run acts).HandsOutAsSeen := by
  induction acts generalizing t with
  | nil => exact h
  | cons act acts ih => exact ih (h.step act)

/-- In every run, what was handed to some call is what was seen to be delivered. -/
theorem handedTo_run (visibility : Duration) (acts : List Act) (queue : String)
    (delivery : Delivery) :
    (∃ caller, ((start visibility).run acts).HandedTo caller queue delivery) ↔
      ∃ deliveredAt,
        .delivered queue delivery deliveredAt ∈ ((start visibility).run acts).history := by
  refine HandsOutAsSeen.run (fun queue delivery => ⟨?_, ?_⟩) acts queue delivery
  · rintro ⟨caller, c, hcaller, -⟩
    cases hcaller
  · rintro ⟨deliveredAt, hmem⟩
    cases hmem

/-! ## Runs -/

/-- An act keeps the queues in agreement with their history, if its receipt is fresh. -/
theorem sound_step {t : Traffic} {given : List String} (h : Sound t.backlog t.history given)
    (act : Act) (hfresh : ∀ receipt, act.receipt? = some receipt → receipt ∉ given) :
    Sound (t.step act).backlog (t.step act).history (given ++ act.receipt?.toList) := by
  obtain ⟨new, hstep, hhistory, hexplains, -⟩ := t.step_spec act
  rw [hhistory]
  refine h.step hstep (fun receipt hreceipt => ?_) fun receipt hreceipt =>
    hfresh receipt (by simpa using hreceipt)
  obtain ⟨o, ho, hgiven⟩ := List.mem_filterMap.mp hreceipt
  simp [(hexplains o ho).receipt?_eq hgiven]

/-- A run keeps the queues in agreement with their history, if all receipts are fresh. -/
theorem sound_run {t : Traffic} {given : List String} (h : Sound t.backlog t.history given)
    (acts : List Act) (hfresh : (given ++ acts.filterMap Act.receipt?).Nodup) :
    Sound (t.run acts).backlog (t.run acts).history (given ++ acts.filterMap Act.receipt?) := by
  induction acts generalizing t given with
  | nil => simpa [run] using h
  | cons act acts ih =>
    have hsplit : given ++ (act :: acts).filterMap Act.receipt? =
        (given ++ act.receipt?.toList) ++ acts.filterMap Act.receipt? := by
      cases hact : act.receipt? <;> simp [hact]
    rw [hsplit] at hfresh ⊢
    refine ih (sound_step h act fun receipt hact hgiven => ?_) hfresh
    have hbefore := List.nodup_append.mp (List.nodup_append.mp hfresh).1
    exact hbefore.2.2 receipt hgiven receipt (by simp [hact]) rfl

/-- A delivery is entered in the place of one parcel of its queue, whose message it carries. -/
theorem ledger_step_delivered {t : Traffic} (h : t.backlog.Agrees t.ledger) {act : Act}
    {queue : String} {d : Delivery} {deliveredAt : Instant}
    (hhistory : (t.step act).history = t.history ++ [.delivered queue d deliveredAt]) :
    ∃ (i : Nat) (p : Parcel), t.ledger[i]? = some p ∧ p.storedOn queue = true ∧
      p.message = d.message ∧
        (t.step act).ledger = t.ledger.set i (p.handOut deliveredAt d.receipt) := by
  obtain ⟨new, hstep, hseen, -⟩ := t.step_spec act
  obtain rfl := List.append_cancel_left (hseen.symm.trans hhistory)
  rw [ledger_step hstep hseen]
  generalize (t.step act).backlog = b' at hstep
  cases hstep with
  | @delivered deadline _ receipt _ _ hpoll =>
    obtain ⟨before, p, after, hledger, -, hready, hdelivery, hentered, -⟩ :=
      h.poll_delivered hpoll
    subst hdelivery
    have hstored : p.storedOn queue = true := by
      simp only [Parcel.readyOn, Bool.and_eq_true] at hready
      exact hready.1
    refine ⟨before.length, p, by simp [hledger], hstored, rfl, ?_⟩
    simp only [List.foldl_cons, List.foldl_nil, Ledger.enter, hentered]
    simp [hledger]

/-- What holds of the queues at every moment of every run, whatever act comes next. -/
structure Conserved (t : Traffic) : Prop where
  /-- The parcels of the ledger are the messages that were sent, in the order of sending. -/
  sends : t.ledger.sends = t.history.filterMap Occurrence.sent?
  /-- Each queue holds exactly what was sent to it and not removed, in the order of sending. -/
  stored : ∀ queue, t.backlog.waiting queue = t.ledger.waiting t.backlog.visibility queue
  /-- What is handed out is the message of one parcel of the queue, and the delivery is entered
  there. -/
  delivery : ∀ (act : Act) (queue : String) (d : Delivery) (deliveredAt : Instant),
    (t.step act).history = t.history ++ [.delivered queue d deliveredAt] →
      ∃ (i : Nat) (p : Parcel), t.ledger[i]? = some p ∧ p.storedOn queue = true ∧
        p.message = d.message ∧
          (t.step act).ledger = t.ledger.set i (p.handOut deliveredAt d.receipt)
  /-- A message is removed exactly by a purge of its queue, or by a deletion there that names the
  receipt of its latest delivery. -/
  removal : ∀ (act : Act) (i : Nat) (p : Parcel), t.ledger[i]? = some p →
    ∃ p' : Parcel, (t.step act).ledger[i]? = some p' ∧ p'.queue = p.queue ∧ p'.message = p.message ∧
      (p'.removed = true ↔ p.removed = true ∨ act = .purge p.queue ∨
        ∃ receipt, t.deletion? act = some (p.queue, receipt) ∧ p.receipt = some receipt)
  /-- Deleting by an earlier receipt of a message, or by one of a removed message, changes
  nothing. -/
  delete_stale : ∀ p ∈ t.ledger, ∀ receipt ∈ p.receipts,
    p.removed = true ∨ p.receipt ≠ some receipt →
      ∀ queue, t.backlog.delete queue receipt = t.backlog
  /-- Deleting on another queue than that of the delivery changes nothing. -/
  delete_foreign : ∀ p ∈ t.ledger, ∀ receipt ∈ p.receipts,
    ∀ queue ≠ p.queue, t.backlog.delete queue receipt = t.backlog
  /-- Deleting by a receipt that was never given changes nothing. -/
  delete_unknown : ∀ queue receipt : String, receipt ∉ t.ledger.receipts →
    t.backlog.delete queue receipt = t.backlog
  /-- No two stored messages have the same receipt, on one queue or on two. -/
  receipt_unique : ∀ (queue other : String) (i j : Nat) (v w : Waiting) (receipt : String),
    (t.backlog.waiting queue)[i]? = some v → (t.backlog.waiting other)[j]? = some w →
      v.receipt = some receipt → w.receipt = some receipt → queue = other ∧ i = j
  /-- One deletion removes one message at most. -/
  delete_one : ∀ queue receipt : String, (t.backlog.waiting queue).length ≤
    ((t.backlog.delete queue receipt).waiting queue).length + 1
  /-- An act at one queue leaves the messages of every other queue as they are, with their
  receipts and their visibility. -/
  frame : ∀ (act : Act) (queue : String), t.queueOf? act ≠ some queue →
    (t.step act).backlog.waiting queue = t.backlog.waiting queue

/-- Queues in agreement with their history conserve what was sent. -/
theorem conserved_of_agrees {t : Traffic} (h : t.backlog.Agrees t.ledger) : t.Conserved where
  sends := Ledger.sends_ofHistory _ _
  stored := h.waiting_eq
  delivery _ _ _ _ hhistory := ledger_step_delivered h hhistory
  removal act _ _ hp := t.getElem?_ledger_step act hp
  delete_stale p hp receipt hreceipt hstale queue := by
    apply h.delete_eq_self
    intro q hq hstored hlatest
    obtain rfl : p = q := Ledger.eq_of_mem_receipts h.receipts_nodup hp hq hreceipt
      (Parcel.mem_receipts_of_receipt hlatest)
    rcases hstale with hremoved | hother
    · rw [(Parcel.storedOn_iff.mp hstored).2] at hremoved
      cases hremoved
    · exact hother hlatest
  delete_foreign p hp receipt hreceipt queue hne := by
    apply h.delete_eq_self
    intro q hq hstored hlatest
    obtain rfl : p = q := Ledger.eq_of_mem_receipts h.receipts_nodup hp hq hreceipt
      (Parcel.mem_receipts_of_receipt hlatest)
    exact hne (Parcel.storedOn_iff.mp hstored).1.symm
  delete_unknown queue receipt hunknown := by
    apply h.delete_eq_self
    intro q hq _ hlatest
    exact hunknown (List.mem_flatMap.mpr ⟨q, hq, Parcel.mem_receipts_of_receipt hlatest⟩)
  receipt_unique _ _ _ _ _ _ _ hv hw hvr hwr := h.receipt_unique hv hw hvr hwr
  delete_one := h.length_le_delete
  frame act _ hne := t.waiting_step_of_ne act hne

/-- In every run in which no receipt is given twice, the queues conserve what was sent. -/
theorem run_conserved (visibility : Duration) (acts : List Act)
    (hfresh : (acts.filterMap Act.receipt?).Nodup) :
    ((start visibility).run acts).Conserved :=
  have h := sound_run (Sound.start visibility) acts (by simpa using hfresh)
  conserved_of_agrees h.agrees

/-- Two messages on two queues: the first comes back under a second receipt, after which its first
receipt deletes nothing and its second one does. -/
theorem run_conserved_redelivery :
    let acts : List Act :=
      [.send "in" (.plain "a" "1"), .send "out" (.plain "b" "2"),
        .beginReceive "in" 0 false, .look 0 "r1", .pass 50, .beginReceive "in" 10 true,
        .look 1 "r2", .delete "in" "r1", .delete "out" "r2", .take 1, .close]
    (acts.filterMap Act.receipt?).Nodup ∧ ((start 40).run acts).Conserved ∧
      ((start 40).run acts).backlog.waiting "in" = [] :=
  ⟨by decide, run_conserved 40 _ (by decide), by decide⟩

end Traffic
end Switchboard
