import Switchboard.Proofs.Queue.AtLeastOnce
import Switchboard.Proofs.Queue.Crew

/-!
# The trace of a message

If no receipt is given twice, a receipt tells to which message a delivery belongs.  So the
deliveries of one message can be told from all others in a history: they stand there in their order,
each with the content of the message.

Main results:

- Definition {lit}`Parcel.trace`: the deliveries of a message, as a history tells of them.
- Theorem {lit}`Traffic.Traced.step`: a step of the backlog keeps all traces true.
- Theorem {lit}`Shift.Kept.traced_step`: so does every move of a consumer.
-/

namespace Switchboard

namespace Parcel

/-- The deliveries of a message, as a history tells of them. -/
def trace (p : Parcel) (history : List Occurrence) : List Delivery :=
  (history.filterMap (Occurrence.deliveredOn? p.queue)).filter fun d =>
    p.receipts.contains d.receipt

/-- A history tells all deliveries of a message in their order, with its content. -/
structure Traced (p : Parcel) (history : List Occurrence) : Prop where
  receipts : (p.trace history).map Delivery.receipt = p.receipts.reverse
  message : ∀ d ∈ p.trace history, d.message = p.message

namespace Traced

variable {p : Parcel} {history : List Occurrence}

/-- A message that was just sent has no trace yet. -/
theorem sent (queue : String) (message : Message) (sentAt : Instant) (history : List Occurrence) :
    (Parcel.sent queue message sentAt).Traced history := by
  have hempty : (Parcel.sent queue message sentAt).trace history = [] := by
    simp [trace, Parcel.sent, Parcel.receipts]
  refine ⟨by rw [hempty]; rfl, fun d hd => ?_⟩
  rw [hempty] at hd
  cases hd

/-- What is no delivery of the message leaves its trace as it is. -/
theorem append (h : p.Traced history) {o : Occurrence}
    (hother : ∀ receipt, o.receipt? = some receipt → receipt ∉ p.receipts) :
    p.Traced (history ++ [o]) := by
  have hsame : p.trace (history ++ [o]) = p.trace history := by
    have hnone : p.trace [o] = [] := by
      cases o with
      | delivered queue d deliveredAt =>
        have hd : d.receipt ∉ p.receipts := hother _ rfl
        by_cases hqueue : queue = p.queue <;> simp [trace, Occurrence.deliveredOn?, hqueue, hd]
      | sent | deleted | purged => rfl
    rw [trace, List.filterMap_append, List.filter_append]
    exact (congrArg _ hnone).trans (List.append_nil _)
  exact ⟨hsame ▸ h.receipts, hsame ▸ h.message⟩

/-- A delivery of the message under a fresh receipt comes last in its trace. -/
theorem handOut (h : p.Traced history) {d : Delivery} {deliveredAt : Instant}
    (hmessage : d.message = p.message)
    (hfresh : d.receipt ∉ history.filterMap Occurrence.receipt?) :
    (p.handOut deliveredAt d.receipt).Traced (history ++ [.delivered p.queue d deliveredAt]) := by
  have hbefore : (p.handOut deliveredAt d.receipt).trace history = p.trace history := by
    refine List.filter_congr fun d' hd' => ?_
    have hne : d'.receipt ≠ d.receipt := by
      obtain ⟨o, ho, hsome⟩ := List.mem_filterMap.mp hd'
      intro heq
      refine hfresh (List.mem_filterMap.mpr ⟨o, ho, ?_⟩)
      rw [← heq]
      exact Occurrence.receipt?_of_deliveredOn hsome
    simp [hne]
  have htrace : (p.handOut deliveredAt d.receipt).trace
      (history ++ [.delivered p.queue d deliveredAt]) = p.trace history ++ [d] := by
    rw [← hbefore, trace, List.filterMap_append, List.filter_append]
    refine congrArg _ ?_
    simp [Occurrence.deliveredOn?, Parcel.handOut, Parcel.receipts]
  refine ⟨?_, fun d' hd' => ?_⟩
  · rw [htrace, List.map_append, h.receipts, receipts_handOut, List.reverse_cons]
    rfl
  · rw [htrace, List.mem_append, List.mem_singleton] at hd'
    rcases hd' with hold | rfl
    · exact h.message d' hold
    · exact hmessage

/-- A message that is removed keeps its trace. -/
theorem remove (h : p.Traced history) : p.remove.Traced history :=
  ⟨h.receipts, h.message⟩

end Traced
end Parcel

/-- Removing messages leaves the traces of all of them as they are. -/
theorem Ledger.traced_removeIf {l : Ledger} {history : List Occurrence}
    (h : ∀ p ∈ l, p.Traced history) (gone : Parcel → Bool) :
    ∀ p' ∈ l.removeIf gone, p'.Traced history := by
  intro p' hp'
  obtain ⟨p, hp, rfl⟩ := List.mem_map.mp hp'
  split
  · exact (h p hp).remove
  · exact h p hp

namespace Traffic

/-- The history tells the deliveries of all messages. -/
def Traced (t : Traffic) : Prop :=
  ∀ p ∈ t.ledger, p.Traced t.history

/-- A delivery under a fresh receipt keeps all traces true: the message that it hands out has it in
its own, and no other message has. -/
theorem Traced.delivered {t : Traffic} {b' : Backlog} {deadline : Option Instant}
    {queue receipt : String} {d : Delivery} (h : t.Traced) (hmatches : t.backlog.Matches t.ledger)
    (hpoll : t.backlog.poll t.now deadline queue receipt = .delivered d b')
    (hfresh : receipt ∉ t.history.filterMap Occurrence.receipt?)
    (hother : ∀ p ∈ t.ledger, p.Traced (t.history ++ [.delivered queue d t.now])) :
    ∀ p' ∈ t.ledger.handOut t.backlog.visibility t.now queue receipt,
      p'.Traced (t.history ++ [.delivered queue d t.now]) := by
  intro p' hp'
  obtain ⟨before, p, after, hledger, -, hready, hd, hentered, -⟩ := hmatches.poll_delivered hpoll
  rw [hentered, List.mem_append, List.mem_cons] at hp'
  have hmem : ∀ q, q ∈ t.ledger ↔ q ∈ before ∨ q = p ∨ q ∈ after := by simp [hledger]
  rcases hp' with hbefore | rfl | hafter
  · exact hother p' ((hmem p').mpr (.inl hbefore))
  · have hp := h p ((hmem p).mpr (.inr (.inl rfl)))
    obtain rfl : d.receipt = receipt := by rw [hd]
    obtain rfl := Parcel.queue_of_readyOn hready
    exact hp.handOut (by rw [hd]) hfresh
  · exact hother p' ((hmem p').mpr (.inr (.inr hafter)))

/-- A step of the backlog keeps all traces true, as long as it gives only fresh receipts. -/
theorem Traced.step {t t' : Traffic} {given : List String} {new : List Occurrence} (h : t.Traced)
    (hsound : Sound t.backlog t.history given) (hstep : t.backlog.Step t.now t'.backlog new)
    (hhistory : t'.history = t.history ++ new)
    (hfresh : ∀ receipt ∈ new.filterMap Occurrence.receipt?, receipt ∉ given) : t'.Traced := by
  intro p' hp'
  rw [ledger_step hstep hhistory] at hp'
  rw [hhistory]
  rcases hstep.new_cases with rfl | ⟨o, rfl⟩
  · rw [List.append_nil]
    exact h p' hp'
  have hother : ∀ p ∈ t.ledger, p.Traced (t.history ++ [o]) := by
    refine fun p hp => (h p hp).append fun receipt hreceipt hmem => ?_
    refine hfresh receipt (by simp [hreceipt]) (hsound.given_mem receipt ?_)
    exact Ledger.mem_receipts_ofHistory (List.mem_flatMap.mpr ⟨p, hp, hmem⟩)
  generalize hb : t'.backlog = b' at hstep
  cases hstep with
  | sent hsend =>
    rcases List.mem_append.mp hp' with hold | hnew
    · exact hother p' hold
    · rw [List.mem_singleton.mp hnew]
      exact .sent ..
  | deleted queue receipt => exact Ledger.traced_removeIf hother _ p' hp'
  | purged queue => exact Ledger.traced_removeIf hother _ p' hp'
  | delivered hpoll =>
    have hreceipt := Backlog.receipt_of_poll hpoll
    rw [← hreceipt] at hpoll
    refine h.delivered hsound.agrees.waiting_eq hpoll (fun hgiven => ?_) hother p' hp'
    exact hfresh _ (by simp [Occurrence.receipt?]) (hsound.given_mem _ hgiven)

end Traffic

namespace Shift

/-- Every move is one step of the backlog, and gives no other receipt than its own. -/
theorem backlog_step (s : Shift) (move : Move) :
    ∃ new, s.traffic.backlog.Step s.traffic.now (s.step move).traffic.backlog new ∧
      (s.step move).traffic.history = s.traffic.history ++ new ∧
      ∀ receipt ∈ new.filterMap Occurrence.receipt?, move.receipt? = some receipt := by
  cases hown : move.isOwn with
  | true =>
    obtain ⟨new, hstep, hhistory, -, hgiven, -⟩ := s.step_spec hown
    exact ⟨new, hstep, hhistory, hgiven⟩
  | false =>
    cases move with
    | others act =>
      obtain ⟨new, hstep, hhistory, hexplains, -⟩ := s.traffic.step_spec act
      refine ⟨new, hstep, hhistory, fun receipt hreceipt => ?_⟩
      obtain ⟨o, ho, hgiven⟩ := List.mem_filterMap.mp hreceipt
      exact (hexplains o ho).receipt?_eq hgiven
    | begin | look | invoke | acknowledge => cases hown

/-- What a move makes of a message that was sent. -/
theorem becomes_step (s : Shift) (move : Move) {i : Nat} {p : Parcel}
    (hp : s.traffic.ledger[i]? = some p) :
    ∃ p', (s.step move).traffic.ledger[i]? = some p' ∧ p.Becomes p' := by
  obtain ⟨new, hstep, hhistory, -⟩ := s.backlog_step move
  rw [Traffic.ledger_step hstep hhistory]
  exact Ledger.becomes_enterAll _ new hp

/-- Where a message comes from that is there after a move: it was just sent, or it was there before,
and has at most one receipt more. -/
theorem mem_ledger_step {s : Shift} {move : Move} {p' : Parcel}
    (hp' : p' ∈ (s.step move).traffic.ledger) :
    p'.receipts = [] ∨ ∃ p ∈ s.traffic.ledger, p'.queue = p.queue ∧
      (p'.receipts = p.receipts ∨
        ∃ receipt, move.receipt? = some receipt ∧ p'.receipts = receipt :: p.receipts) := by
  obtain ⟨new, hstep, hhistory, hgiven⟩ := s.backlog_step move
  rw [Traffic.ledger_step hstep hhistory] at hp'
  rcases hstep.new_cases with rfl | ⟨o, rfl⟩
  · exact .inr ⟨p', hp', rfl, .inl rfl⟩
  · rcases Ledger.mem_enter hp' with ⟨p, hp, rfl | rfl⟩ | ⟨queue, message, sentAt, -, rfl⟩ |
      ⟨p, hp, queue, delivery, deliveredAt, rfl, -, rfl⟩
    · exact .inr ⟨_, hp, rfl, .inl rfl⟩
    · exact .inr ⟨p, hp, rfl, .inl rfl⟩
    · exact .inl rfl
    · have hfresh := hgiven delivery.receipt (by simp [Occurrence.receipt?])
      exact .inr ⟨p, hp, rfl, .inr ⟨delivery.receipt, hfresh, rfl⟩⟩

/-- Every move keeps all traces true, as long as no receipt is given twice. -/
theorem Kept.traced_step {s : Shift} {given : List String} (h : s.Kept given)
    (htraced : s.traffic.Traced) (move : Move)
    (hfresh : ∀ receipt, move.receipt? = some receipt → receipt ∉ given) :
    (s.step move).traffic.Traced := by
  obtain ⟨new, hstep, hhistory, hgiven⟩ := s.backlog_step move
  exact htraced.step h.sound hstep hhistory fun receipt hreceipt =>
    hfresh receipt (hgiven receipt hreceipt)

end Shift
end Switchboard
