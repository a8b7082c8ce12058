import Switchboard.Proofs.Queue.Traffic

/-!
# Hidden messages

A message that was handed out is hidden from everybody until its visibility timeout has passed, and
for good if that lies beyond the last instant.  Those who wait for messages get the earliest one
that can be seen.  What is said here of deliveries that are seen holds of the replies that calls
get, since the two are the same by {lit}`Traffic.handedTo_run`.  Nothing is asked of receipts: they
may be given twice.

Main results:

- Definition {lit}`Traffic.HandsOut`: an act hands out the message of a place.
- Theorem {lit}`Traffic.becomes_run`: what may become of a message in a run.
- Theorem {lit}`Traffic.delivered_spec`: what a delivery finds at the queues and what it changes.
- Theorem {lit}`Traffic.run_exclusive`: in every run a message is handed out to one at a time.
-/

namespace Switchboard

/-! ## What may become of a parcel -/

namespace Parcel

/-- What a parcel may become: it stays where and what it is, deliveries come to those it had, and
once it was removed it changes no more. -/
structure Becomes (p p' : Parcel) : Prop where
  queue : p'.queue = p.queue
  message : p'.message = p.message
  deliveries : p.deliveries <:+ p'.deliveries
  removed : p.removed = true → p' = p

namespace Becomes

variable {p p' p'' : Parcel}

theorem refl (p : Parcel) : p.Becomes p :=
  ⟨rfl, rfl, List.suffix_rfl, fun _ => rfl⟩

theorem trans (h : p.Becomes p') (h' : p'.Becomes p'') : p.Becomes p'' where
  queue := h'.queue.trans h.queue
  message := h'.message.trans h.message
  deliveries := h.deliveries.trans h'.deliveries
  removed hremoved := by
    obtain rfl := h.removed hremoved
    exact h'.removed hremoved

theorem handOut (hkept : p.removed = false) (now : Instant) (receipt : String) :
    p.Becomes (p.handOut now receipt) :=
  ⟨rfl, rfl, List.suffix_cons _ _, fun hremoved => by simp [hkept] at hremoved⟩

theorem remove (p : Parcel) : p.Becomes p.remove where
  queue := rfl
  message := rfl
  deliveries := List.suffix_rfl
  removed hremoved := by
    obtain ⟨queue, message, sentAt, deliveries, removed⟩ := p
    obtain rfl : removed = true := hremoved
    rfl

end Becomes

/-- One delivery comes so long after another that the timeout has passed. -/
def Apart (visibility : Duration) (later earlier : Instant × String) : Prop :=
  earlier.1 + visibility ≤ Instant.last ∧ earlier.1 + visibility ≤ later.1

instance (visibility : Duration) :
    Trans (Apart visibility) (Apart visibility) (Apart visibility) where
  trans h h' := ⟨h'.1, Nat.le_trans h'.2 (Nat.le_trans (Nat.le_add_right _ _) h.2)⟩

/-- Any two deliveries of a parcel that is never handed out too early are apart. -/
theorem Spaced.pairwise {p : Parcel} {visibility : Duration} (h : p.Spaced visibility) :
    p.deliveries.Pairwise (Apart visibility) := by
  rw [← List.isChain_iff_pairwise]
  refine List.IsChain.imp (fun later earlier hreached => ?_) h
  unfold Instant.reached at hreached
  split at hreached
  · cases hreached
  · rename_i t ht
    obtain ⟨rfl, hlast⟩ := Instant.after?_eq_some_iff.mp ht
    exact ⟨hlast, by simpa using hreached⟩

end Parcel

namespace Ledger

variable {l : Ledger} {i : Nat} {p : Parcel}

/-- What an occurrence makes of a parcel: it stays as it is, or is removed, or it is handed out. -/
theorem enter_cases (visibility : Duration) (o : Occurrence) (h : l[i]? = some p) :
    ∃ p', (l.enter visibility o)[i]? = some p' ∧ (p' = p ∨ p' = p.remove ∨
      ∃ queue delivery deliveredAt, o = .delivered queue delivery deliveredAt ∧
        p.removed = false ∧ p' = p.handOut deliveredAt delivery.receipt) := by
  have hremoveIf : ∀ gone : Parcel → Bool,
      ∃ p', (l.removeIf gone)[i]? = some p' ∧ (p' = p ∨ p' = p.remove) := by
    intro gone
    refine ⟨if gone p then p.remove else p, by rw [removeIf, List.getElem?_map, h]; rfl, ?_⟩
    split
    · exact .inr rfl
    · exact .inl rfl
  cases o with
  | sent queue message sentAt =>
    obtain ⟨hi, -⟩ := List.getElem?_eq_some_iff.mp h
    exact ⟨p, by rw [enter, send, List.getElem?_append_left hi, h], .inl rfl⟩
  | delivered queue delivery deliveredAt =>
    rcases getElem?_handOut visibility deliveredAt queue delivery.receipt h with h' | ⟨hready, h'⟩
    · exact ⟨p, h', .inl rfl⟩
    · exact ⟨_, h', .inr (.inr ⟨queue, delivery, deliveredAt, rfl,
        Parcel.removed_of_readyOn hready, rfl⟩)⟩
  | deleted queue receipt => exact (hremoveIf _).imp fun _ h => ⟨h.1, h.2.imp_right .inl⟩
  | purged queue => exact (hremoveIf _).imp fun _ h => ⟨h.1, h.2.imp_right .inl⟩

/-- So it becomes what a parcel may become. -/
theorem becomes_enter (visibility : Duration) (o : Occurrence) (h : l[i]? = some p) :
    ∃ p', (l.enter visibility o)[i]? = some p' ∧ p.Becomes p' := by
  obtain ⟨p', hp', rfl | rfl | ⟨queue, delivery, deliveredAt, -, hkept, rfl⟩⟩ :=
    enter_cases visibility o h
  · exact ⟨_, hp', .refl _⟩
  · exact ⟨_, hp', .remove p⟩
  · exact ⟨_, hp', .handOut hkept deliveredAt delivery.receipt⟩

/-- What several occurrences make of a parcel. -/
theorem becomes_enterAll (visibility : Duration) (new : List Occurrence) (h : l[i]? = some p) :
    ∃ p', (new.foldl (enter visibility) l)[i]? = some p' ∧ p.Becomes p' := by
  induction new generalizing l p with
  | nil => exact ⟨p, h, .refl p⟩
  | cons o rest ih =>
    obtain ⟨p', hp', hbecomes⟩ := becomes_enter visibility o h
    obtain ⟨p'', hp'', hbecomes'⟩ := ih hp'
    exact ⟨p'', hp'', hbecomes.trans hbecomes'⟩

end Ledger

/-! ## Deliveries from a queue -/

/-- A message is handed out from a place of a queue: none before it can be seen, it can be seen
itself, and it is hidden from now on under the receipt of the delivery.  All other messages, on this
queue and on the others, stay as and where they are. -/
def Backlog.HandsOutFrom (b b' : Backlog) (now : Instant) (queue : String) (place : Nat)
    (d : Delivery) : Prop :=
  ∃ before w after, b.waiting queue = before ++ w :: after ∧ before.length = place ∧
    (∀ v ∈ before, v.isVisible now = false) ∧ w.isVisible now = true ∧
    d = ⟨w.message, d.receipt, w.receiveCount + 1⟩ ∧
    b'.waiting queue = before ++ w.handOut now b.visibility d.receipt :: after ∧
    ∀ other, other ≠ queue → b'.waiting other = b.waiting other

namespace Traffic

variable {t : Traffic} {act : Act} {i : Nat} {p : Parcel} {d : Delivery}

/-- The visibility timeout never changes. -/
theorem visibility_step (t : Traffic) (act : Act) :
    (t.step act).backlog.visibility = t.backlog.visibility := by
  obtain ⟨new, hstep, -⟩ := t.step_spec act
  exact hstep.visibility_eq

theorem visibility_run (t : Traffic) (acts : List Act) :
    (t.run acts).backlog.visibility = t.backlog.visibility := by
  induction acts generalizing t with
  | nil => rfl
  | cons act acts ih => exact (ih (t.step act)).trans (t.visibility_step act)

/-- Every act keeps the queues as the history tells. -/
theorem matches_step (h : t.backlog.Matches t.ledger) (act : Act) :
    (t.step act).backlog.Matches (t.step act).ledger := by
  obtain ⟨new, hstep, hhistory, -⟩ := t.step_spec act
  rw [ledger_step hstep hhistory]
  exact h.step hstep

theorem matches_run (h : t.backlog.Matches t.ledger) (acts : List Act) :
    (t.run acts).backlog.Matches (t.run acts).ledger := by
  induction acts generalizing t with
  | nil => exact h
  | cons act acts ih => exact ih (matches_step h act)

/-- What an act makes of a message that was sent. -/
theorem becomes_step (act : Act) (h : t.ledger[i]? = some p) :
    ∃ p', (t.step act).ledger[i]? = some p' ∧ p.Becomes p' := by
  obtain ⟨new, hstep, hhistory, -⟩ := t.step_spec act
  rw [ledger_step hstep hhistory]
  exact Ledger.becomes_enterAll _ new h

/-- What may become of a message in a run. -/
theorem becomes_run (acts : List Act) (h : t.ledger[i]? = some p) :
    ∃ p', (t.run acts).ledger[i]? = some p' ∧ p.Becomes p' := by
  induction acts generalizing t p with
  | nil => exact ⟨p, h, .refl p⟩
  | cons act acts ih =>
    obtain ⟨p', hp', hbecomes⟩ := becomes_step act h
    obtain ⟨p'', hp'', hbecomes'⟩ := ih hp'
    exact ⟨p'', hp'', hbecomes.trans hbecomes'⟩

/-- What a delivery finds at the queues, and what it changes: it is entered for the earliest message
of its queue that is ready. -/
theorem delivered_spec (h : t.backlog.Matches t.ledger) {queue : String} {deliveredAt : Instant}
    (hhistory : (t.step act).history = t.history ++ [.delivered queue d deliveredAt]) :
    deliveredAt = t.now ∧ ∃ before p after, t.ledger = before ++ p :: after ∧
      (∀ q ∈ before, q.readyOn t.backlog.visibility t.now queue = false) ∧
      p.readyOn t.backlog.visibility t.now queue = true ∧
      d = ⟨p.message, d.receipt, UInt32.ofNat (p.deliveries.length + 1)⟩ ∧
      (t.step act).ledger = before ++ p.handOut t.now d.receipt :: after ∧
      ∀ other, (t.step act).backlog.waiting other =
        Ledger.waiting (before ++ p.handOut t.now d.receipt :: after) t.backlog.visibility
          other := by
  obtain ⟨new, hstep, hseen, -⟩ := t.step_spec act
  obtain rfl := List.append_cancel_left (hseen.symm.trans hhistory)
  rw [ledger_step hstep hseen]
  generalize (t.step act).backlog = b' at hstep
  cases hstep with
  | @delivered deadline _ receipt _ _ hpoll =>
    obtain ⟨before, p, after, hledger, hbefore, hready, hdelivery, hentered, -, -, hwaiting⟩ :=
      h.poll_delivered hpoll
    subst hdelivery
    exact ⟨rfl, before, p, after, hledger, hbefore, hready, rfl, hentered, hwaiting⟩

/-- An act hands out the message that was sent as the one of a place. -/
structure HandsOut (t : Traffic) (act : Act) (i : Nat) (p : Parcel) (d : Delivery) : Prop where
  place : t.ledger[i]? = some p
  seen : (t.step act).history = t.history ++ [.delivered p.queue d t.now]
  entered : (t.step act).ledger = t.ledger.set i (p.handOut t.now d.receipt)

namespace HandsOut

/-- What is handed out was ready, and the delivery shows it with its number. -/
theorem delivery_eq (h : t.HandsOut act i p d) (hmatches : t.backlog.Matches t.ledger) :
    p.readyOn t.backlog.visibility t.now p.queue = true ∧
      d = ⟨p.message, d.receipt, UInt32.ofNat (p.deliveries.length + 1)⟩ := by
  obtain ⟨-, before, q, after, hledger, -, hready, hdelivery, hentered, -⟩ :=
    delivered_spec hmatches h.seen
  have hset : (t.step act).ledger = t.ledger.set before.length (q.handOut t.now d.receipt) := by
    rw [hentered, hledger]
    simp
  obtain ⟨hi, -⟩ := List.getElem?_eq_some_iff.mp h.place
  have hplace : (t.step act).ledger[i]? = some (p.handOut t.now d.receipt) := by
    rw [h.entered, List.getElem?_set_self hi]
  by_cases hsame : before.length = i
  · subst hsame
    obtain rfl : q = p := by
      rw [← Option.some_inj, ← h.place, hledger]
      simp
    exact ⟨hready, hdelivery⟩
  · -- No parcel but the one that is entered has a delivery more than before.
    rw [hset, List.getElem?_set_ne hsame, h.place, Option.some_inj] at hplace
    have hlength := congrArg (fun r : Parcel => r.deliveries.length) hplace
    simp [Parcel.handOut] at hlength

/-- What is handed out was not removed. -/
theorem kept (h : t.HandsOut act i p d) (hmatches : t.backlog.Matches t.ledger) :
    p.removed = false :=
  Parcel.removed_of_readyOn (h.delivery_eq hmatches).1

/-- What was handed out has the delivery on its record at every later moment. -/
theorem place_run (h : t.HandsOut act i p d) (acts : List Act) :
    ∃ p', ((t.step act).run acts).ledger[i]? = some p' ∧
      (p.handOut t.now d.receipt).Becomes p' := by
  refine becomes_run acts ?_
  rw [h.entered, List.getElem?_set_self (List.getElem?_eq_some_iff.mp h.place).1]

/-- What was handed out is not handed out again before the visibility timeout has passed, which it
never has if it lies beyond the last instant. -/
theorem apart (h : t.HandsOut act i p d) {acts : List Act} {act' : Act} {p' : Parcel}
    {d' : Delivery} (h' : ((t.step act).run acts).HandsOut act' i p' d') :
    t.now + t.backlog.visibility ≤ Instant.last ∧
      t.now + t.backlog.visibility ≤ ((t.step act).run acts).now := by
  obtain ⟨q, hq, hbecomes⟩ := h.place_run acts
  obtain rfl : p' = q := Option.some_inj.mp (h'.place.symm.trans hq)
  obtain ⟨hi, -⟩ := List.getElem?_eq_some_iff.mp h'.place
  have hmem : p'.handOut ((t.step act).run acts).now d'.receipt ∈
      (((t.step act).run acts).step act').ledger := by
    rw [h'.entered]
    exact List.mem_set hi _
  have hspaced := (Ledger.spaced_ofHistory _ _ _ hmem).pairwise
  rw [visibility_step, visibility_run, visibility_step] at hspaced
  obtain ⟨between, hbetween⟩ := hbecomes.deliveries
  have hearlier : (t.now, d.receipt) ∈ p'.deliveries := by
    rw [← hbetween]
    exact List.mem_append_right _ List.mem_cons_self
  exact (List.pairwise_cons.mp hspaced).1 _ hearlier

end HandsOut

/-- If a delivery is entered for the earliest parcel that is ready, then that message is handed out
from its place on the queue. -/
theorem handsOutFrom_of_entered {b b' : Backlog} {before after : Ledger} {now : Instant}
    {queue : String} (hmatches : b.Matches (before ++ p :: after))
    (hbefore : ∀ q ∈ before, q.readyOn b.visibility now queue = false)
    (hready : p.readyOn b.visibility now queue = true)
    (hdelivery : d = ⟨p.message, d.receipt, UInt32.ofNat (p.deliveries.length + 1)⟩)
    (hwaiting : ∀ other, b'.waiting other =
      Ledger.waiting (before ++ p.handOut now d.receipt :: after) b.visibility other) :
    b.HandsOutFrom b' now queue (before.countP (Parcel.storedOn queue)) d := by
  obtain ⟨hstored, hvisible⟩ := Parcel.readyOn_iff.mp hready
  refine ⟨before.waiting b.visibility queue, p.waiting b.visibility,
    Ledger.waiting after b.visibility queue, ?_, ?_, fun v hv => ?_, hvisible, ?_, ?_,
    fun other hne => ?_⟩
  · rw [hmatches, Ledger.waiting_of_storedOn hstored]
  · simp [Ledger.waiting, List.countP_eq_length_filter]
  · obtain ⟨q, hq, rfl⟩ := List.mem_map.mp hv
    obtain ⟨hq, hqstored⟩ := List.mem_filter.mp hq
    have hhidden := hbefore q hq
    rw [Parcel.readyOn, hqstored, Bool.true_and] at hhidden
    exact hhidden
  · rw [hdelivery]
    simp [Parcel.waiting]
  · have hhandedOut := (Parcel.storedOn_handOut queue p now d.receipt).trans hstored
    rw [hwaiting, Ledger.waiting_of_storedOn hhandedOut, Parcel.waiting_handOut]
  · have hqueue : p.queue ≠ other := fun heq =>
      hne (heq.symm.trans (Parcel.queue_of_readyOn hready))
    have hhandedOut : (p.handOut now d.receipt).queue ≠ other := hqueue
    rw [hwaiting, hmatches, Ledger.waiting_of_queue_ne hhandedOut,
      Ledger.waiting_of_queue_ne hqueue]

/-- Whoever gets a message gets the earliest one of the queue that can be seen, and nothing else
changes. -/
theorem handsOut_of_delivered (h : t.backlog.Matches t.ledger) {queue : String}
    {deliveredAt : Instant}
    (hhistory : (t.step act).history = t.history ++ [.delivered queue d deliveredAt]) :
    deliveredAt = t.now ∧ ∃ i p, t.HandsOut act i p d ∧ p.queue = queue ∧
      t.backlog.HandsOutFrom (t.step act).backlog t.now queue
        ((t.ledger.take i).countP (Parcel.storedOn queue)) d := by
  obtain ⟨rfl, before, p, after, hledger, hbefore, hready, hdelivery, hentered, hwaiting⟩ :=
    delivered_spec h hhistory
  have hqueue := Parcel.queue_of_readyOn hready
  have hout : t.HandsOut act before.length p d :=
    ⟨by simp [hledger], by rw [hqueue, hhistory], by rw [hentered, hledger]; simp⟩
  have hplace : t.ledger.take before.length = before := by simp [hledger]
  refine ⟨rfl, before.length, p, hout, hqueue, ?_⟩
  rw [hledger] at h
  rw [hplace]
  exact handsOutFrom_of_entered h hbefore hready hdelivery hwaiting

/-- What holds at every moment of every run of the queues, whatever comes next. -/
structure Exclusive (visibility : Duration) (t : Traffic) : Prop where
  timeout : t.backlog.visibility = visibility
  /-- The places are those of the messages that were sent, in the order of sending. -/
  sends : t.ledger.sends = t.history.filterMap Occurrence.sent?
  /-- Each queue holds what was sent to it and not removed, in the order of sending. -/
  stored : ∀ queue, t.backlog.waiting queue = t.ledger.waiting visibility queue
  /-- Whoever gets a message gets, of those of the queue that can be seen, the one that was sent
  first, and all others stay as and where they are. -/
  first : ∀ (act : Act) (queue : String) (d : Delivery) (deliveredAt : Instant),
    (t.step act).history = t.history ++ [.delivered queue d deliveredAt] →
      deliveredAt = t.now ∧ ∃ i p, t.HandsOut act i p d ∧ p.queue = queue ∧
        t.backlog.HandsOutFrom (t.step act).backlog t.now queue
          ((t.ledger.take i).countP (Parcel.storedOn queue)) d
  /-- Two deliveries of a message are at least the visibility timeout apart. -/
  apart : ∀ (act : Act) (i : Nat) (p : Parcel) (d : Delivery), t.HandsOut act i p d →
    ∀ (between : List Act) (act' : Act) (p' : Parcel) (d' : Delivery),
      ((t.step act).run between).HandsOut act' i p' d' →
        t.now + visibility ≤ ((t.step act).run between).now
  /-- If the visibility timeout lies beyond the last instant, there is no other delivery of the
  message. -/
  once : ∀ (act : Act) (i : Nat) (p : Parcel) (d : Delivery), t.HandsOut act i p d →
    Instant.after? t.now visibility = none →
      ∀ (later : List Act) (act' : Act) (p' : Parcel) (d' : Delivery),
        ¬ ((t.step act).run later).HandsOut act' i p' d'
  /-- A message that was removed, or that a purge or a deletion removes, is never handed out
  again. -/
  gone : ∀ (act : Act) (i : Nat) (p : Parcel), t.ledger[i]? = some p →
    (p.removed = true ∨ act = .purge p.queue ∨
      ∃ receipt, t.deletion? act = some (p.queue, receipt) ∧ p.receipt = some receipt) →
    ∀ (later : List Act) (act' : Act) (p' : Parcel) (d' : Delivery),
      ¬ ((t.step act).run later).HandsOut act' i p' d'

/-- What the queues hold says all of this, as long as it is what the history tells. -/
theorem exclusive_of_matches (h : t.backlog.Matches t.ledger) :
    t.Exclusive t.backlog.visibility where
  timeout := rfl
  sends := Ledger.sends_ofHistory _ _
  stored := h
  first _ _ _ _ hhistory := handsOut_of_delivered h hhistory
  apart _ _ _ _ hout _ _ _ _ hagain := (hout.apart hagain).2
  once _ _ _ _ hout hnever _ _ _ _ hagain := by
    have hlast := (hout.apart hagain).1
    rw [Instant.after?, if_pos hlast] at hnever
    cases hnever
  gone act i p hp hgone later act' p' d' hagain := by
    obtain ⟨q, hq, -, -, hremoved⟩ := t.getElem?_ledger_step act hp
    obtain ⟨q', hq', hbecomes⟩ := becomes_run later hq
    obtain rfl : p' = q' := Option.some_inj.mp (hagain.place.symm.trans hq')
    have hkept := hagain.kept (matches_run (matches_step h act) later)
    have hq := hremoved.mpr hgone
    rw [← hbecomes.removed hq, hkept] at hq
    cases hq

/-- In every run, with however many receivers, the deliveries of a message are at least the
visibility timeout apart, and whoever gets a message gets the earliest one that can be seen. -/
theorem run_exclusive (visibility : Duration) (acts : List Act) :
    ((start visibility).run acts).Exclusive visibility := by
  have hmatches : (start visibility).backlog.Matches (start visibility).ledger := fun _ => rfl
  have hexclusive := exclusive_of_matches (matches_run hmatches acts)
  rw [visibility_run] at hexclusive
  exact hexclusive

end Traffic
end Switchboard
