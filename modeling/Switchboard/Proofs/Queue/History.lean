import Mathlib.Data.List.Induction
import Switchboard.Proofs.Queue.Ledger

/-!
# Histories of a backlog

What those who use the queues see happen, one occurrence after the other.  A history says by itself
what the ledger is, and a step of a backlog that produces occurrences keeps the agreement of the
two, as long as every delivery comes under a receipt that was not given before.

Main results:

- Definition {lit}`Ledger.ofHistory`: the ledger that a history tells.
- Theorem {lit}`Ledger.getElem?_enter`: what an occurrence makes of a parcel.
- Theorem {lit}`Sound.step`: a step of the backlog keeps it in agreement with its history.
- Theorem {lit}`Backlog.Step.waiting_of_ne`: a step leaves the queues alone that its occurrences do
  not name.
- Theorem {lit}`exists_moment_cons`: what happens at some moment happens at first or later.
-/

namespace Switchboard

/-- What happens at some moment, which is given by what came before and by what comes next, happens
at first or at a later moment. -/
theorem exists_moment_cons {α : Type} {first : α} {rest : List α} {happens : List α → α → Prop} :
    (∃ before next after, first :: rest = before ++ next :: after ∧ happens before next) ↔
      happens [] first ∨
        ∃ before next after, rest = before ++ next :: after ∧ happens (first :: before) next := by
  constructor
  · rintro ⟨before, next, after, heq, h⟩
    rcases List.cons_eq_append_iff.mp heq with ⟨rfl, hcons⟩ | ⟨before, rfl, rfl⟩
    · obtain ⟨rfl, rfl⟩ := List.cons.inj hcons
      exact .inl h
    · exact .inr ⟨before, next, after, rfl, h⟩
  · rintro (h | ⟨before, next, after, rfl, h⟩)
    · exact ⟨[], first, rest, rfl, h⟩
    · exact ⟨first :: before, next, after, rfl, h⟩

/-- Something that happened at the queues, as those who used them saw it. -/
inductive Occurrence where
  | sent (queue : String) (message : Message) (sentAt : Instant)
  | delivered (queue : String) (delivery : Delivery) (deliveredAt : Instant)
  | deleted (queue receipt : String)
  | purged (queue : String)

namespace Occurrence

/-- The queue where it happened. -/
def queue : Occurrence → String
  | sent queue _ _ => queue
  | delivered queue _ _ => queue
  | deleted queue _ => queue
  | purged queue => queue

/-- What was sent, and to which queue. -/
def sent? : Occurrence → Option (String × Message)
  | sent queue message _ => some (queue, message)
  | _ => none

/-- What was handed out from a queue. -/
def deliveredOn? (queue : String) : Occurrence → Option Delivery
  | delivered other delivery _ => if other = queue then some delivery else none
  | _ => none

/-- The receipt that was given. -/
def receipt? : Occurrence → Option String
  | delivered _ delivery _ => some delivery.receipt
  | _ => none

/-- What was handed out was given its receipt. -/
theorem receipt?_of_deliveredOn {o : Occurrence} {queue : String} {d : Delivery}
    (h : o.deliveredOn? queue = some d) : o.receipt? = some d.receipt := by
  cases o with
  | delivered other delivery deliveredAt =>
    simp only [deliveredOn?] at h
    split at h
    · cases h
      rfl
    · cases h
  | sent | deleted | purged => cases h

end Occurrence

/-! ## The ledger of a history -/

namespace Ledger

/-- Enter an occurrence. -/
def enter (visibility : Duration) (l : Ledger) : Occurrence → Ledger
  | .sent queue message sentAt => l.send queue message sentAt
  | .delivered queue delivery deliveredAt =>
    l.handOut visibility deliveredAt queue delivery.receipt
  | .deleted queue receipt => l.delete queue receipt
  | .purged queue => l.purge queue

/-- The ledger that a history tells. -/
def ofHistory (visibility : Duration) (history : List Occurrence) : Ledger :=
  history.foldl (enter visibility) []

@[simp]
theorem ofHistory_append (visibility : Duration) (history new : List Occurrence) :
    ofHistory visibility (history ++ new) =
      new.foldl (enter visibility) (ofHistory visibility history) := by
  simp [ofHistory]

/-- A delivery is entered for one parcel, and leaves the others as they are. -/
theorem getElem?_handOut {l : Ledger} {i : Nat} {p : Parcel} (visibility : Duration)
    (now : Instant) (queue receipt : String) (h : l[i]? = some p) :
    (l.handOut visibility now queue receipt)[i]? = some p ∨
      (p.readyOn visibility now queue = true ∧
        (l.handOut visibility now queue receipt)[i]? = some (p.handOut now receipt)) := by
  induction l generalizing i with
  | nil => simp at h
  | cons q rest ih =>
    rw [handOut]
    split
    · rename_i hready
      cases i with
      | zero =>
        obtain rfl : q = p := by simpa using h
        exact .inr ⟨hready, rfl⟩
      | succ i => exact .inl (by simpa using h)
    · cases i with
      | zero => exact .inl (by simpa using h)
      | succ i => simpa using ih (by simpa using h)

/-- What an occurrence makes of a parcel: it keeps its queue and its message, and it is removed by
a purge of its queue, or by a deletion there that names the receipt of its latest delivery. -/
theorem getElem?_enter {l : Ledger} {i : Nat} {p : Parcel} (visibility : Duration)
    (o : Occurrence) (h : l[i]? = some p) :
    ∃ p', (l.enter visibility o)[i]? = some p' ∧ p'.queue = p.queue ∧ p'.message = p.message ∧
      (p'.removed = true ↔ p.removed = true ∨ o = .purged p.queue ∨
        ∃ receipt, o = .deleted p.queue receipt ∧ p.receipt = some receipt) := by
  cases o with
  | sent queue message sentAt =>
    refine ⟨p, ?_, rfl, rfl, by simp⟩
    obtain ⟨hi, -⟩ := List.getElem?_eq_some_iff.mp h
    rw [enter, send, List.getElem?_append_left hi, h]
  | delivered queue delivery deliveredAt =>
    rcases getElem?_handOut visibility deliveredAt queue delivery.receipt h with h' | ⟨-, h'⟩
    · exact ⟨p, h', rfl, rfl, by simp⟩
    · exact ⟨_, h', rfl, rfl, by simp [Parcel.handOut]⟩
  | deleted queue receipt =>
    refine ⟨_, by rw [enter, delete, removeIf, List.getElem?_map, h]; rfl, ?_⟩
    by_cases hgone : p.queue = queue ∧ p.receipt = some receipt
    · obtain ⟨hqueue, hreceipt⟩ := hgone
      simp [hqueue, hreceipt, Parcel.remove]
    · simp only [hgone, decide_false, Bool.false_eq_true, if_false, true_and, reduceCtorEq,
        Occurrence.deleted.injEq, false_or]
      constructor
      · exact .inl
      · rintro (hremoved | ⟨r, ⟨rfl, rfl⟩, hreceipt⟩)
        · exact hremoved
        · exact absurd ⟨rfl, hreceipt⟩ hgone
  | purged queue =>
    refine ⟨_, by rw [enter, purge, removeIf, List.getElem?_map, h]; rfl, ?_⟩
    by_cases hqueue : p.queue = queue
    · simp [hqueue, Parcel.remove]
    · simp [hqueue, Ne.symm hqueue]

private theorem mem_handOut_of_ne {visibility : Duration} {now : Instant}
    {other receipt : String} {l : Ledger} {p : Parcel} (hne : p.queue ≠ other) :
    p ∈ l.handOut visibility now other receipt ↔ p ∈ l := by
  induction l with
  | nil => rfl
  | cons q rest ih =>
    rw [handOut]
    split
    · rename_i hready
      have hqueue := Parcel.queue_of_readyOn hready
      have hq : p ≠ q := by
        rintro rfl
        exact hne hqueue
      have hq' : p ≠ q.handOut now receipt := by
        rintro rfl
        exact hne hqueue
      simp [hq, hq']
    · simp [ih]

private theorem mem_removeIf_of_not {gone : Parcel → Bool} {l : Ledger} {p : Parcel}
    (hkept : ∀ q : Parcel, q.queue = p.queue → gone q = false) : p ∈ l.removeIf gone ↔ p ∈ l := by
  simp only [removeIf, List.mem_map]
  constructor
  · rintro ⟨q, hq, heq⟩
    split at heq
    · rename_i hgone
      have hqueue : q.queue = p.queue := by
        rw [← heq]
        rfl
      rw [hkept q hqueue] at hgone
      cases hgone
    · rwa [← heq]
  · intro hp
    exact ⟨p, hp, by simp [hkept p rfl]⟩

/-- An occurrence elsewhere, or a send, does to the parcels of a queue no more than add the one that
was sent. -/
theorem mem_enter_of_spares {visibility : Duration} {l : Ledger} {o : Occurrence} {p : Parcel}
    (hspares : o.queue ≠ p.queue ∨ o.sent? ≠ none) :
    p ∈ l.enter visibility o ↔
      p ∈ l ∨ ∃ message sentAt, o = .sent p.queue message sentAt ∧
        p = .sent p.queue message sentAt := by
  cases o with
  | sent queue message sentAt =>
    simp only [enter, send, List.mem_append, List.mem_singleton, Occurrence.sent.injEq]
    apply or_congr_right
    constructor
    · rintro rfl
      exact ⟨message, sentAt, ⟨rfl, rfl, rfl⟩, rfl⟩
    · rintro ⟨m, t, ⟨rfl, rfl, rfl⟩, heq⟩
      exact heq
  | delivered queue delivery deliveredAt =>
    have hne : p.queue ≠ queue := by
      simpa [Occurrence.queue, Occurrence.sent?, eq_comm] using hspares
    rw [enter, mem_handOut_of_ne hne]
    simp
  | deleted queue receipt =>
    have hne : p.queue ≠ queue := by
      simpa [Occurrence.queue, Occurrence.sent?, eq_comm] using hspares
    rw [enter, delete, mem_removeIf_of_not fun q hq => by simp [hq, hne]]
    simp
  | purged queue =>
    have hne : p.queue ≠ queue := by
      simpa [Occurrence.queue, Occurrence.sent?, eq_comm] using hspares
    rw [enter, purge, mem_removeIf_of_not fun q hq => by simp [hq, hne]]
    simp

/-- An occurrence adds to the ledger what was sent, and nothing else. -/
theorem sends_enter (visibility : Duration) (l : Ledger) (o : Occurrence) :
    (l.enter visibility o).sends = l.sends ++ o.sent?.toList := by
  cases o <;> simp [enter, Occurrence.sent?, delete, purge]

/-- The parcels of a ledger are the messages that were sent, in the order of sending. -/
theorem sends_ofHistory (visibility : Duration) (history : List Occurrence) :
    (ofHistory visibility history).sends = history.filterMap Occurrence.sent? := by
  induction history using List.reverseRecOn with
  | nil => rfl
  | append_singleton history o ih =>
    rw [ofHistory_append, List.filterMap_append, ← ih]
    simp only [List.foldl_cons, List.foldl_nil, sends_enter]
    cases h : o.sent? <;> simp [h]

private theorem mem_handOut {visibility : Duration} {now : Instant} {queue receipt : String}
    {l : Ledger} {p' : Parcel} (h : p' ∈ l.handOut visibility now queue receipt) :
    p' ∈ l ∨ ∃ p ∈ l, p.readyOn visibility now queue = true ∧ p' = p.handOut now receipt := by
  induction l with
  | nil => exact .inl h
  | cons q rest ih =>
    rw [handOut] at h
    split at h
    · rename_i hready
      rcases List.mem_cons.mp h with rfl | hrest
      · exact .inr ⟨q, List.mem_cons_self, hready, rfl⟩
      · exact .inl (List.mem_cons_of_mem _ hrest)
    · rcases List.mem_cons.mp h with rfl | hrest
      · exact .inl List.mem_cons_self
      · rcases ih hrest with hold | ⟨p, hp, hready, heq⟩
        · exact .inl (List.mem_cons_of_mem _ hold)
        · exact .inr ⟨p, List.mem_cons_of_mem _ hp, hready, heq⟩

/-- Where a parcel comes from: it was there before, perhaps without being removed, or it was just
sent, or just handed out. -/
theorem mem_enter {visibility : Duration} {l : Ledger} {o : Occurrence} {p' : Parcel}
    (h : p' ∈ l.enter visibility o) :
    (∃ p ∈ l, p' = p ∨ p' = p.remove) ∨
      (∃ queue message sentAt, o = .sent queue message sentAt ∧
        p' = .sent queue message sentAt) ∨
      ∃ p ∈ l, ∃ queue delivery deliveredAt, o = .delivered queue delivery deliveredAt ∧
        p.readyOn visibility deliveredAt queue = true ∧
          p' = p.handOut deliveredAt delivery.receipt := by
  have hremoveIf : ∀ gone : Parcel → Bool, p' ∈ l.removeIf gone →
      ∃ p ∈ l, p' = p ∨ p' = p.remove := by
    intro gone h
    obtain ⟨p, hp, rfl⟩ := List.mem_map.mp h
    refine ⟨p, hp, ?_⟩
    split
    · exact .inr rfl
    · exact .inl rfl
  cases o with
  | sent queue message sentAt =>
    rcases List.mem_append.mp h with hold | hnew
    · exact .inl ⟨p', hold, .inl rfl⟩
    · exact .inr (.inl ⟨queue, message, sentAt, rfl, List.mem_singleton.mp hnew⟩)
  | delivered queue delivery deliveredAt =>
    rcases mem_handOut h with hold | ⟨p, hp, hready, heq⟩
    · exact .inl ⟨p', hold, .inl rfl⟩
    · exact .inr (.inr ⟨p, hp, queue, delivery, deliveredAt, rfl, hready, heq⟩)
  | deleted queue receipt => exact .inl (hremoveIf _ h)
  | purged queue => exact .inl (hremoveIf _ h)

/-- The receipts of a ledger after an occurrence are those before and the one that was given. -/
theorem mem_receipts_enter {visibility : Duration} {l : Ledger} {o : Occurrence}
    {receipt : String} (h : receipt ∈ (l.enter visibility o).receipts) :
    receipt ∈ l.receipts ∨ o.receipt? = some receipt := by
  simp only [receipts, List.mem_flatMap] at h ⊢
  obtain ⟨p', hp', hreceipt⟩ := h
  rcases mem_enter hp' with ⟨p, hp, rfl | rfl⟩ | ⟨queue, message, sentAt, -, rfl⟩ |
    ⟨p, hp, queue, delivery, deliveredAt, rfl, -, rfl⟩
  · exact .inl ⟨_, hp, hreceipt⟩
  · exact .inl ⟨p, hp, hreceipt⟩
  · exact absurd hreceipt List.not_mem_nil
  · rcases List.mem_cons.mp hreceipt with rfl | hold
    · exact .inr rfl
    · exact .inl ⟨p, hp, hold⟩

/-- In a ledger that a history tells, no message is handed out before the visibility timeout of its
last delivery has passed. -/
theorem spaced_ofHistory (visibility : Duration) (history : List Occurrence) :
    ∀ p ∈ ofHistory visibility history, p.Spaced visibility := by
  induction history using List.reverseRecOn with
  | nil => exact fun p hp => absurd hp List.not_mem_nil
  | append_singleton history o ih =>
    rw [ofHistory_append]
    intro p' hp'
    rcases mem_enter hp' with ⟨p, hp, rfl | rfl⟩ | ⟨queue, message, sentAt, -, rfl⟩ |
      ⟨p, hp, queue, delivery, deliveredAt, -, hready, rfl⟩
    · exact ih _ hp
    · exact ih p hp
    · exact List.IsChain.nil
    · have hbefore := ih p hp
      simp only [Parcel.readyOn, Bool.and_eq_true, Parcel.visibleAt] at hready
      unfold Parcel.Spaced at hbefore ⊢
      rw [Parcel.handOut]
      cases hdeliveries : p.deliveries with
      | nil => exact List.IsChain.singleton _
      | cons latest older =>
        rw [hdeliveries] at hready hbefore
        exact List.isChain_cons_cons.mpr ⟨hready.2, hbefore⟩

/-- The receipts of a ledger are those that were seen to be given. -/
theorem mem_receipts_ofHistory {visibility : Duration} {history : List Occurrence}
    {receipt : String} (h : receipt ∈ (ofHistory visibility history).receipts) :
    receipt ∈ history.filterMap Occurrence.receipt? := by
  induction history using List.reverseRecOn with
  | nil => exact absurd h List.not_mem_nil
  | append_singleton history o ih =>
    rw [ofHistory_append] at h
    rw [List.filterMap_append, List.mem_append]
    rcases mem_receipts_enter h with hbefore | hgiven
    · exact .inl (ih hbefore)
    · exact .inr (List.mem_filterMap.mpr ⟨o, List.mem_cons_self, hgiven⟩)

end Ledger

/-! ## Steps of a backlog -/

/-- What an operation on the queues may do at an instant: the queues after it, and what is seen to
happen. -/
inductive Backlog.Step (now : Instant) (b : Backlog) : Backlog → List Occurrence → Prop where
  | quiet : Step now b b []
  | closed : Step now b b.close []
  | sent {queue : String} {message : Message} {b' : Backlog}
      (h : b.send now queue message = .ok b') : Step now b b' [.sent queue message now]
  | delivered {deadline : Option Instant} {queue receipt : String} {delivery : Delivery}
      {b' : Backlog} (h : b.poll now deadline queue receipt = .delivered delivery b') :
      Step now b b' [.delivered queue delivery now]
  | deleted (queue receipt : String) :
      Step now b (b.delete queue receipt) [.deleted queue receipt]
  | purged (queue : String) : Step now b (b.purge queue) [.purged queue]

namespace Backlog.Step

variable {now : Instant} {b b' : Backlog} {new : List Occurrence}

/-- At most one thing is seen to happen at a time. -/
theorem new_cases (h : Step now b b' new) : new = [] ∨ ∃ o, new = [o] := by
  cases h with
  | quiet | closed => exact .inl rfl
  | sent | delivered | deleted | purged => exact .inr ⟨_, rfl⟩

/-- The visibility timeout never changes. -/
theorem visibility_eq (h : Step now b b' new) : b'.visibility = b.visibility := by
  cases h with
  | quiet | closed | deleted | purged => rfl
  | sent h =>
    obtain ⟨-, rfl⟩ := send_eq_ok_iff.mp h
    rfl
  | delivered h =>
    obtain ⟨-, messages, -, rfl⟩ := poll_eq_delivered_iff.mp h
    rfl

/-- Queues that are closed stay so. -/
theorem closed_of_closed (h : Step now b b' new) (hclosed : b.closed = true) :
    b'.closed = true := by
  cases h with
  | closed => rfl
  | quiet | deleted | purged => exact hclosed
  | sent h =>
    obtain ⟨hopen, -⟩ := send_eq_ok_iff.mp h
    rw [hopen] at hclosed
    cases hclosed
  | delivered h =>
    obtain ⟨hopen, -⟩ := poll_eq_delivered_iff.mp h
    rw [hopen] at hclosed
    cases hclosed

/-- A step leaves the queues alone that its occurrences do not name. -/
theorem waiting_of_ne (h : Step now b b' new) {queue : String}
    (hne : ∀ o ∈ new, queue ≠ o.queue) : b'.waiting queue = b.waiting queue := by
  cases h with
  | quiet | closed => rfl
  | sent h => exact waiting_send_of_ne h (hne _ List.mem_cons_self)
  | delivered h =>
    obtain ⟨-, messages, -, rfl⟩ := poll_eq_delivered_iff.mp h
    have hne := hne _ List.mem_cons_self
    simp only [Occurrence.queue] at hne
    simp [waiting, Dictionary.find?_insert_of_ne _ hne]
  | deleted =>
    have hne := hne _ List.mem_cons_self
    simp only [Occurrence.queue] at hne
    rw [waiting_delete, if_neg hne]
  | purged =>
    have hne := hne _ List.mem_cons_self
    simp only [Occurrence.queue] at hne
    rw [waiting_purge, if_neg hne]

end Backlog.Step

/-! ## Agreement with a history -/

/-- A step is entered in the ledger by what is seen to happen. -/
theorem Backlog.Matches.step {now : Instant} {b b' : Backlog} {l : Ledger} {new : List Occurrence}
    (h : b.Matches l) (hstep : b.Step now b' new) :
    b'.Matches (new.foldl (Ledger.enter b.visibility) l) := by
  cases hstep with
  | quiet => exact h
  | closed => exact h
  | sent hsend => exact h.send hsend
  | deleted queue receipt => exact h.delete queue receipt
  | purged queue => exact h.purge queue
  | @delivered deadline queue receipt delivery _ hpoll =>
    obtain ⟨-, p, -, -, -, -, rfl, -⟩ := h.poll_delivered hpoll
    exact h.handOut hpoll

/-- A backlog is in agreement with what was seen to happen, and all receipts that were given are
among some texts. -/
structure Sound (b : Backlog) (history : List Occurrence) (given : List String) : Prop where
  agrees : b.Agrees (.ofHistory b.visibility history)
  given_mem : ∀ receipt ∈ history.filterMap Occurrence.receipt?, receipt ∈ given

namespace Sound

variable {now : Instant} {b b' : Backlog} {history new : List Occurrence} {given : List String}

theorem start (visibility : Duration) : Sound (.start visibility) [] [] where
  agrees := .start visibility
  given_mem _ h := h

/-- A step keeps a backlog in agreement with its history, if it gives only fresh receipts. -/
theorem step (h : Sound b history given) (hstep : b.Step now b' new) {fresh : List String}
    (hnew : ∀ receipt ∈ new.filterMap Occurrence.receipt?, receipt ∈ fresh)
    (hfresh : ∀ receipt ∈ fresh, receipt ∉ given) :
    Sound b' (history ++ new) (given ++ fresh) := by
  have hagrees : b'.Agrees (.ofHistory b.visibility (history ++ new)) := by
    rw [Ledger.ofHistory_append]
    cases hstep with
    | quiet => exact h.agrees
    | closed => exact h.agrees.close
    | sent hsend => exact h.agrees.send hsend
    | deleted queue receipt => exact h.agrees.delete queue receipt
    | purged queue => exact h.agrees.purge queue
    | @delivered deadline queue receipt delivery _ hpoll =>
      obtain ⟨before, p, after, -, -, -, hdelivery, -⟩ := h.agrees.poll_delivered hpoll
      have hreceipt : delivery.receipt = receipt := by rw [hdelivery]
      have hmem : receipt ∈ fresh := hnew receipt (by simp [Occurrence.receipt?, hreceipt])
      simp only [List.foldl_cons, List.foldl_nil, Ledger.enter, hreceipt]
      apply h.agrees.handOut hpoll
      intro hgiven
      exact hfresh receipt hmem (h.given_mem receipt (Ledger.mem_receipts_ofHistory hgiven))
  refine ⟨hstep.visibility_eq ▸ hagrees, fun receipt hreceipt => ?_⟩
  rw [List.filterMap_append] at hreceipt
  rcases List.mem_append.mp hreceipt with hbefore | hafter
  · exact List.mem_append_left _ (h.given_mem receipt hbefore)
  · exact List.mem_append_right _ (hnew receipt hafter)

end Sound
end Switchboard
