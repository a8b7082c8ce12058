import Mathlib.Data.List.Nodup
import Switchboard.Queue.Backlog

/-!
# The ledger of a backlog

A ledger keeps every message that was ever sent, in the order of sending, with the deliveries it
had and whether it was removed.  It is written from what those who use the queues see, and nothing
is ever taken out of it.  A backlog agrees with a ledger if each queue holds exactly the parcels of
the ledger that were sent to it and not removed, and no receipt was ever given twice.

Main results:

- Theorem {lit}`Ledger.takeFirst_waiting`: a look hands out the earliest parcel that is ready, and
  enters the delivery in its place.
- Theorems {lit}`Agrees.send`, {lit}`Agrees.handOut`, {lit}`Agrees.delete` and
  {lit}`Agrees.purge`: every operation keeps the agreement.
- Theorem {lit}`Agrees.receipt_unique`: in the whole backlog a receipt stands at one place at most.
- Theorem {lit}`Agrees.delete_eq_self`: only the latest receipt of a message of the queue deletes.
-/

namespace Switchboard

/-- A message that was sent, and what became of it. -/
structure Parcel where
  queue : String
  message : Message
  sentAt : Instant
  /-- When it was handed out and under which receipts, the latest delivery first. -/
  deliveries : List (Instant × String)
  /-- Whether it was taken off its queue. -/
  removed : Bool

namespace Parcel

/-- A message that was just sent. -/
def sent (queue : String) (message : Message) (now : Instant) : Parcel :=
  ⟨queue, message, now, [], false⟩

/-- The receipts of all deliveries, the latest first. -/
def receipts (p : Parcel) : List String :=
  p.deliveries.map Prod.snd

/-- The receipt of the latest delivery. -/
def receipt (p : Parcel) : Option String :=
  p.receipts.head?

/-- When it can be handed out: at once, or when the visibility timeout of its latest delivery has
passed. -/
def visibleAt (visibility : Duration) (p : Parcel) : Option Instant :=
  match p.deliveries with
  | [] => some p.sentAt
  | (deliveredAt, _) :: _ => Instant.after? deliveredAt visibility

/-- What a queue holds for it. -/
def waiting (visibility : Duration) (p : Parcel) : Waiting :=
  ⟨p.message, p.receipt, p.visibleAt visibility, UInt32.ofNat p.deliveries.length⟩

/-- Whether it is still on a queue. -/
def storedOn (queue : String) (p : Parcel) : Bool :=
  p.queue == queue && !p.removed

/-- Whether it is still on a queue and can be handed out. -/
def readyOn (visibility : Duration) (now : Instant) (queue : String) (p : Parcel) : Bool :=
  p.storedOn queue && Instant.reached (p.visibleAt visibility) now

/-- Enter a delivery. -/
def handOut (p : Parcel) (now : Instant) (receipt : String) : Parcel :=
  { p with deliveries := (now, receipt) :: p.deliveries }

/-- Note that it was taken off its queue. -/
def remove (p : Parcel) : Parcel :=
  { p with removed := true }

/-- Every delivery after the first one came when the visibility timeout of the one before it had
passed. -/
def Spaced (visibility : Duration) (p : Parcel) : Prop :=
  p.deliveries.IsChain fun later earlier =>
    Instant.reached (Instant.after? earlier.1 visibility) later.1 = true

theorem storedOn_iff {queue : String} {p : Parcel} :
    p.storedOn queue = true ↔ p.queue = queue ∧ p.removed = false := by
  simp [storedOn]

/-- What is ready is on its queue and can be seen there. -/
theorem readyOn_iff {visibility : Duration} {now : Instant} {queue : String} {p : Parcel} :
    p.readyOn visibility now queue = true ↔
      p.storedOn queue = true ∧ (p.waiting visibility).isVisible now = true :=
  Bool.and_eq_true_iff

theorem queue_of_readyOn {visibility : Duration} {now : Instant} {queue : String} {p : Parcel}
    (h : p.readyOn visibility now queue = true) : p.queue = queue :=
  (storedOn_iff.mp (readyOn_iff.mp h).1).1

/-- What is ready is still there. -/
theorem removed_of_readyOn {visibility : Duration} {now : Instant} {queue : String} {p : Parcel}
    (h : p.readyOn visibility now queue = true) : p.removed = false :=
  (storedOn_iff.mp (readyOn_iff.mp h).1).2

@[simp]
theorem waiting_sent (visibility : Duration) (queue : String) (message : Message)
    (now : Instant) : (sent queue message now).waiting visibility = .sent message now :=
  rfl

/-- Entering a delivery is what handing out does to the message on its queue. -/
theorem waiting_handOut (visibility : Duration) (p : Parcel) (now : Instant) (receipt : String) :
    (p.handOut now receipt).waiting visibility =
      (p.waiting visibility).handOut now visibility receipt := by
  simp [handOut, waiting, Waiting.handOut, Parcel.receipt, receipts, visibleAt]

@[simp]
theorem receipts_handOut (p : Parcel) (now : Instant) (receipt : String) :
    (p.handOut now receipt).receipts = receipt :: p.receipts :=
  rfl

@[simp]
theorem storedOn_handOut (queue : String) (p : Parcel) (now : Instant) (receipt : String) :
    (p.handOut now receipt).storedOn queue = p.storedOn queue :=
  rfl

@[simp]
theorem storedOn_remove (queue : String) (p : Parcel) : p.remove.storedOn queue = false := by
  simp [remove, storedOn]

/-- The latest receipt is one of all receipts. -/
theorem mem_receipts_of_receipt {p : Parcel} {receipt : String} (h : p.receipt = some receipt) :
    receipt ∈ p.receipts :=
  List.mem_of_mem_head? h

end Parcel

/-- All messages that were ever sent, in the order of sending. -/
abbrev Ledger := List Parcel

namespace Ledger

/-! ## What is entered -/

/-- Enter a message that was sent. -/
def send (l : Ledger) (queue : String) (message : Message) (now : Instant) : Ledger :=
  l ++ [.sent queue message now]

/-- Enter a delivery from a queue: the earliest parcel that is ready had it. -/
def handOut (visibility : Duration) (now : Instant) (queue receipt : String) : Ledger → Ledger
  | [] => []
  | p :: rest =>
    if p.readyOn visibility now queue then p.handOut now receipt :: rest
    else p :: handOut visibility now queue receipt rest

/-- Note that the parcels of some kind were taken off their queues. -/
def removeIf (l : Ledger) (gone : Parcel → Bool) : Ledger :=
  l.map fun p => if gone p then p.remove else p

/-- Enter a deletion: it removes the parcels of its queue whose latest delivery had the receipt. -/
def delete (l : Ledger) (queue receipt : String) : Ledger :=
  l.removeIf fun p => p.queue = queue ∧ p.receipt = some receipt

/-- Enter a purge: it removes all parcels of its queue. -/
def purge (l : Ledger) (queue : String) : Ledger :=
  l.removeIf fun p => p.queue = queue

/-- A deletion leaves the parcels as they are whose latest delivery had another receipt. -/
theorem mem_delete_of_ne {l : Ledger} {p : Parcel} {receipt : String} (queue : String) (hp : p ∈ l)
    (hne : p.receipt ≠ some receipt) : p ∈ l.delete queue receipt :=
  List.mem_map.mpr ⟨p, hp, by simp [hne]⟩

/-! ## What is read off -/

/-- What a queue holds: the parcels sent to it and not removed, in the order of sending. -/
def waiting (l : Ledger) (visibility : Duration) (queue : String) : List Waiting :=
  (l.filter (Parcel.storedOn queue)).map (Parcel.waiting visibility)

/-- All receipts that were ever given. -/
def receipts (l : Ledger) : List String :=
  l.flatMap Parcel.receipts

/-- What was sent where, in the order of sending. -/
def sends (l : Ledger) : List (String × Message) :=
  l.map fun p => (p.queue, p.message)

@[simp]
theorem waiting_nil (visibility : Duration) (queue : String) :
    waiting [] visibility queue = [] :=
  rfl

theorem waiting_cons (p : Parcel) (rest : Ledger) (visibility : Duration) (queue : String) :
    waiting (p :: rest) visibility queue =
      if p.storedOn queue then p.waiting visibility :: waiting rest visibility queue
      else waiting rest visibility queue := by
  unfold waiting
  rw [List.filter_cons]
  split <;> rfl

theorem waiting_append (l m : Ledger) (visibility : Duration) (queue : String) :
    waiting (l ++ m) visibility queue =
      l.waiting visibility queue ++ m.waiting visibility queue := by
  simp [waiting]

/-- A queue holds a parcel that is stored on it between those before and those after it. -/
theorem waiting_of_storedOn {queue : String} {p : Parcel} (hstored : p.storedOn queue = true)
    (before after : Ledger) (visibility : Duration) :
    waiting (before ++ p :: after) visibility queue = before.waiting visibility queue ++
      p.waiting visibility :: waiting after visibility queue := by
  rw [waiting_append, waiting_cons, if_pos hstored]

/-- A queue holds nothing of a parcel of another one. -/
theorem waiting_of_queue_ne {queue : String} {p : Parcel} (hne : p.queue ≠ queue)
    (before after : Ledger) (visibility : Duration) :
    waiting (before ++ p :: after) visibility queue =
      before.waiting visibility queue ++ waiting after visibility queue := by
  have hstored : p.storedOn queue ≠ true := fun h => hne (Parcel.storedOn_iff.mp h).1
  rw [waiting_append, waiting_cons, if_neg hstored]

/-- A parcel that is stored on a queue stands there behind those that were sent before it. -/
theorem getElem?_waiting {l : Ledger} {i : Nat} {p : Parcel} (visibility : Duration)
    {queue : String} (h : l[i]? = some p) (hstored : p.storedOn queue = true) :
    (l.waiting visibility queue)[(l.take i).countP (Parcel.storedOn queue)]? =
      some (p.waiting visibility) := by
  induction l generalizing i with
  | nil => simp at h
  | cons q rest ih =>
    rw [waiting_cons]
    cases i with
    | zero =>
      obtain rfl : q = p := by simpa using h
      simp [hstored]
    | succ i =>
      have hrest := ih (by simpa using h)
      by_cases hq : q.storedOn queue = true <;> simpa [hq] using hrest

/-- A message that was sent stands last on its queue, and on no other. -/
theorem waiting_send (l : Ledger) (visibility : Duration) (queue other : String)
    (message : Message) (now : Instant) :
    (l.send queue message now).waiting visibility other =
      l.waiting visibility other ++ if other = queue then [.sent message now] else [] := by
  have hstored : (Parcel.sent queue message now).storedOn other = decide (other = queue) := by
    simp [Parcel.sent, Parcel.storedOn, eq_comm, beq_eq_decide]
  rw [send, waiting_append, waiting_cons, hstored]
  by_cases h : other = queue <;> simp [h]

/-- Removing parcels takes them off their queues. -/
theorem waiting_removeIf (l : Ledger) (gone : Parcel → Bool) (visibility : Duration)
    (queue : String) :
    (l.removeIf gone).waiting visibility queue =
      waiting (l.filter fun p => !gone p) visibility queue := by
  induction l with
  | nil => rfl
  | cons p rest ih =>
    simp only [removeIf, List.map_cons, waiting_cons] at ih ⊢
    rw [ih]
    cases h : gone p <;> simp [h, waiting_cons]

/-- A deletion takes the messages with the receipt off its queue. -/
theorem waiting_delete (l : Ledger) (visibility : Duration) (queue receipt other : String) :
    (l.delete queue receipt).waiting visibility other =
      if other = queue then
        (l.waiting visibility queue).filter fun w => w.receipt ≠ some receipt
      else l.waiting visibility other := by
  rw [delete, waiting_removeIf]
  by_cases hother : other = queue
  · subst hother
    simp only [waiting, List.filter_filter, List.filter_map, if_true]
    congr 1
    apply List.filter_congr
    intro p _
    have hsame : (p.waiting visibility).receipt = p.receipt := rfl
    by_cases hqueue : p.queue = other <;> by_cases hreceipt : p.receipt = some receipt <;>
      simp [hqueue, hreceipt, hsame, Parcel.storedOn]
  · simp only [waiting, List.filter_filter, hother, if_false]
    congr 1
    apply List.filter_congr
    intro p _
    by_cases hqueue : p.queue = queue <;> simp [hqueue, Parcel.storedOn, Ne.symm hother]

/-- A purge empties its queue. -/
theorem waiting_purge (l : Ledger) (visibility : Duration) (queue other : String) :
    (l.purge queue).waiting visibility other =
      if other = queue then [] else l.waiting visibility other := by
  rw [purge, waiting_removeIf]
  by_cases hother : other = queue
  · subst hother
    simp only [waiting, List.filter_filter, if_true, List.map_eq_nil_iff, List.filter_eq_nil_iff]
    intro p _
    simp only [Bool.and_eq_true, Parcel.storedOn_iff]
    rintro ⟨⟨hqueue, -⟩, hkept⟩
    simp [hqueue] at hkept
  · simp only [waiting, List.filter_filter, hother, if_false]
    congr 1
    apply List.filter_congr
    intro p _
    by_cases hqueue : p.queue = queue <;> simp [hqueue, Parcel.storedOn, Ne.symm hother]

/-- The parcel that a delivery is entered for: the earliest one that is ready. -/
theorem handOut_append_cons {visibility : Duration} {now : Instant} {queue : String}
    {before : Ledger} {p : Parcel} (after : Ledger) (receipt : String)
    (hbefore : ∀ q ∈ before, q.readyOn visibility now queue = false)
    (hp : p.readyOn visibility now queue = true) :
    handOut visibility now queue receipt (before ++ p :: after) =
      before ++ p.handOut now receipt :: after := by
  induction before with
  | nil => simp [handOut, hp]
  | cons q rest ih =>
    have hq := hbefore q List.mem_cons_self
    have hrest := ih fun q' hq' => hbefore q' (List.mem_cons_of_mem _ hq')
    simp [handOut, hq, hrest]

/-- A look at a queue hands out the earliest parcel that is ready, and enters the delivery in its
place. -/
theorem takeFirst_waiting {l : Ledger} {visibility : Duration} {now : Instant}
    {queue receipt : String} {delivery : Delivery} {messages : List Waiting}
    (h : Backlog.takeFirst now visibility receipt (l.waiting visibility queue) =
      some (delivery, messages)) :
    ∃ before p after, l = before ++ p :: after ∧
      (∀ q ∈ before, q.readyOn visibility now queue = false) ∧
      p.readyOn visibility now queue = true ∧
      delivery = ⟨p.message, receipt, UInt32.ofNat (p.deliveries.length + 1)⟩ ∧
      messages = waiting (before ++ p.handOut now receipt :: after) visibility queue := by
  induction l generalizing delivery messages with
  | nil => simp [Backlog.takeFirst] at h
  | cons p rest ih =>
    rw [waiting_cons] at h
    by_cases hstored : p.storedOn queue = true
    · rw [if_pos hstored, Backlog.takeFirst] at h
      by_cases hvisible : (p.waiting visibility).isVisible now = true
      · -- the parcel at the front is ready itself
        rw [if_pos hvisible] at h
        simp only [Option.some.injEq, Prod.mk.injEq] at h
        obtain ⟨rfl, rfl⟩ := h
        refine ⟨[], p, rest, rfl, by simp, ?_, ?_, ?_⟩
        · simp only [Parcel.readyOn, hstored, Bool.true_and]
          exact hvisible
        · simp [Parcel.waiting, Waiting.handOut]
        · simp [waiting_cons, hstored, Parcel.waiting_handOut]
      · -- it is hidden, so the delivery comes from the rest
        rw [if_neg hvisible, Option.map_eq_some_iff] at h
        obtain ⟨⟨d, ms⟩, hfound, heq⟩ := h
        simp only [Prod.mk.injEq] at heq
        obtain ⟨rfl, rfl⟩ := heq
        obtain ⟨before, p', after, rfl, hbefore, hready, rfl, rfl⟩ := ih hfound
        refine ⟨p :: before, p', after, rfl, ?_, hready, rfl, ?_⟩
        · intro q hq
          rcases List.mem_cons.mp hq with rfl | hq
          · simpa [Parcel.readyOn, hstored, Waiting.isVisible, Parcel.waiting] using hvisible
          · exact hbefore q hq
        · simp [waiting_cons, hstored]
    · rw [if_neg hstored] at h
      obtain ⟨before, p', after, rfl, hbefore, hready, rfl, rfl⟩ := ih h
      refine ⟨p :: before, p', after, rfl, ?_, hready, rfl, ?_⟩
      · intro q hq
        rcases List.mem_cons.mp hq with rfl | hq
        · simp [Parcel.readyOn, hstored]
        · exact hbefore q hq
      · simp [waiting_cons, hstored]

/-- A look at a queue hands out something as soon as a parcel is ready. -/
theorem takeFirst_waiting_ne_none {l : Ledger} {visibility : Duration} {now : Instant}
    {queue : String} (receipt : String) {p : Parcel} (hp : p ∈ l)
    (hready : p.readyOn visibility now queue = true) :
    Backlog.takeFirst now visibility receipt (l.waiting visibility queue) ≠ none := by
  induction l with
  | nil => cases hp
  | cons q rest ih =>
    rw [waiting_cons]
    split
    · rw [Backlog.takeFirst]
      split
      · simp
      · rename_i hhidden
        have hrest : p ∈ rest := by
          rcases List.mem_cons.mp hp with rfl | hrest
          · exact absurd (Parcel.readyOn_iff.mp hready).2 hhidden
          · exact hrest
        simpa using ih hrest
    · rename_i hstored
      have hrest : p ∈ rest := by
        rcases List.mem_cons.mp hp with rfl | hrest
        · exact absurd (Parcel.readyOn_iff.mp hready).1 hstored
        · exact hrest
      exact ih hrest

/-- A delivery from one queue leaves the others alone. -/
theorem waiting_handOut_of_ne (l : Ledger) (visibility : Duration) (now : Instant)
    {queue other : String} (receipt : String) (hne : other ≠ queue) :
    (l.handOut visibility now queue receipt).waiting visibility other =
      l.waiting visibility other := by
  induction l with
  | nil => rfl
  | cons p rest ih =>
    simp only [handOut]
    split
    · rename_i hready
      have hqueue := Parcel.queue_of_readyOn hready
      have hstored : p.storedOn other = false := by
        simp [Parcel.storedOn, hqueue, hne.symm]
      simp [waiting_cons, hstored]
    · simp only [waiting_cons, ih]

/-! ## What was sent -/

@[simp]
theorem sends_send (l : Ledger) (queue : String) (message : Message) (now : Instant) :
    (l.send queue message now).sends = l.sends ++ [(queue, message)] := by
  simp [sends, send, Parcel.sent]

@[simp]
theorem sends_removeIf (l : Ledger) (gone : Parcel → Bool) : (l.removeIf gone).sends = l.sends := by
  rw [sends, removeIf, List.map_map]
  apply List.map_congr_left
  intro p _
  simp only [Function.comp_apply]
  split <;> rfl

@[simp]
theorem sends_handOut (l : Ledger) (visibility : Duration) (now : Instant)
    (queue receipt : String) : (l.handOut visibility now queue receipt).sends = l.sends := by
  induction l with
  | nil => rfl
  | cons p rest ih =>
    rw [handOut]
    split
    · rfl
    · simpa [sends] using ih

/-! ## Receipts -/

@[simp]
theorem receipts_send (l : Ledger) (queue : String) (message : Message) (now : Instant) :
    (l.send queue message now).receipts = l.receipts := by
  simp [send, receipts, Parcel.sent, Parcel.receipts]

@[simp]
theorem receipts_removeIf (l : Ledger) (gone : Parcel → Bool) :
    (l.removeIf gone).receipts = l.receipts := by
  induction l with
  | nil => rfl
  | cons p rest ih =>
    simp only [receipts, removeIf, List.map_cons, List.flatMap_cons] at ih ⊢
    rw [ih]
    split <;> rfl

/-- A delivery adds its receipt to all receipts. -/
theorem receipts_handOut_perm (before after : Ledger) (p : Parcel) (now : Instant)
    (receipt : String) :
    (receipts (before ++ p.handOut now receipt :: after)).Perm
      (receipt :: receipts (before ++ p :: after)) := by
  simp only [receipts, List.flatMap_append, List.flatMap_cons, Parcel.receipts_handOut,
    List.cons_append]
  exact List.perm_middle

/-- If no receipt was given twice, then a receipt tells its parcel from all others. -/
theorem index_unique {l : Ledger} (hnodup : l.receipts.Nodup) {i j : Nat} {p q : Parcel}
    {receipt : String} (hi : l[i]? = some p) (hj : l[j]? = some q)
    (hp : receipt ∈ p.receipts) (hq : receipt ∈ q.receipts) : i = j := by
  have hdisjoint := (List.nodup_flatMap.mp hnodup).2
  rw [List.pairwise_iff_getElem] at hdisjoint
  obtain ⟨hi', rfl⟩ := List.getElem?_eq_some_iff.mp hi
  obtain ⟨hj', rfl⟩ := List.getElem?_eq_some_iff.mp hj
  rcases Nat.lt_trichotomy i j with hlt | heq | hgt
  · exact absurd hq (hdisjoint i j hi' hj' hlt hp)
  · exact heq
  · exact absurd hp (hdisjoint j i hj' hi' hgt hq)

theorem eq_of_mem_receipts {l : Ledger} (hnodup : l.receipts.Nodup) {p q : Parcel}
    {receipt : String} (hp : p ∈ l) (hq : q ∈ l) (hpr : receipt ∈ p.receipts)
    (hqr : receipt ∈ q.receipts) : p = q := by
  obtain ⟨i, hi⟩ := List.mem_iff_getElem?.mp hp
  obtain ⟨j, hj⟩ := List.mem_iff_getElem?.mp hq
  have hij := index_unique hnodup hi hj hpr hqr
  subst hij
  exact Option.some.inj (hi.symm.trans hj)

end Ledger

/-! ## Agreement -/

namespace Backlog

/-- Each queue holds exactly the parcels that were sent to it and not removed. -/
def Matches (b : Backlog) (l : Ledger) : Prop :=
  ∀ queue, b.waiting queue = l.waiting b.visibility queue

namespace Matches

variable {b b' : Backlog} {l : Ledger} {now : Instant} {deadline : Option Instant}
  {queue receipt : String} {message : Message} {delivery : Delivery}

/-- A send is entered in the ledger. -/
theorem send (h : b.Matches l) (hsend : b.send now queue message = .ok b') :
    b'.Matches (l.send queue message now) := by
  obtain ⟨-, rfl⟩ := send_eq_ok_iff.mp hsend
  intro other
  rw [Ledger.waiting_send, ← h]
  by_cases hother : other = queue
  · subst hother
    simp [Backlog.waiting]
  · simp [Backlog.waiting, Dictionary.find?_insert_of_ne _ hother, hother]

/-- A look that finds something hands out the earliest parcel that is ready. -/
theorem poll_delivered (h : b.Matches l)
    (hpoll : b.poll now deadline queue receipt = .delivered delivery b') :
    ∃ before p after, l = before ++ p :: after ∧
      (∀ q ∈ before, q.readyOn b.visibility now queue = false) ∧
      p.readyOn b.visibility now queue = true ∧
      delivery = ⟨p.message, receipt, UInt32.ofNat (p.deliveries.length + 1)⟩ ∧
      l.handOut b.visibility now queue receipt = before ++ p.handOut now receipt :: after ∧
      b'.visibility = b.visibility ∧ b'.closed = b.closed ∧
      ∀ other, b'.waiting other =
        Ledger.waiting (before ++ p.handOut now receipt :: after) b.visibility other := by
  obtain ⟨-, messages, hfound, rfl⟩ := poll_eq_delivered_iff.mp hpoll
  rw [h] at hfound
  obtain ⟨before, p, after, rfl, hbefore, hready, rfl, rfl⟩ := Ledger.takeFirst_waiting hfound
  have hentered := Ledger.handOut_append_cons after receipt hbefore hready
  refine ⟨before, p, after, rfl, hbefore, hready, rfl, hentered, rfl, rfl, fun other => ?_⟩
  by_cases hother : other = queue
  · subst hother
    simp [Backlog.waiting]
  · rw [← hentered, Ledger.waiting_handOut_of_ne _ _ _ _ hother, ← h]
    simp [Backlog.waiting, Dictionary.find?_insert_of_ne _ hother]

/-- A delivery is entered in the ledger. -/
theorem handOut (h : b.Matches l)
    (hpoll : b.poll now deadline queue receipt = .delivered delivery b') :
    b'.Matches (l.handOut b.visibility now queue receipt) := by
  obtain ⟨before, p, after, -, -, -, -, hentered, hvisibility, -, hwaiting⟩ :=
    h.poll_delivered hpoll
  intro other
  rw [hentered, hwaiting other, hvisibility]

/-- A deletion is entered in the ledger. -/
theorem delete (h : b.Matches l) (queue receipt : String) :
    (b.delete queue receipt).Matches (l.delete queue receipt) := by
  intro other
  change _ = (l.delete queue receipt).waiting b.visibility other
  rw [waiting_delete, Ledger.waiting_delete, h, h]

/-- A purge is entered in the ledger. -/
theorem purge (h : b.Matches l) (queue : String) : (b.purge queue).Matches (l.purge queue) := by
  intro other
  change _ = (l.purge queue).waiting b.visibility other
  rw [waiting_purge, Ledger.waiting_purge, h]

end Matches

/-- Each queue holds exactly the parcels that were sent to it and not removed, and no receipt was
given twice. -/
structure Agrees (b : Backlog) (l : Ledger) : Prop where
  waiting_eq : ∀ queue, b.waiting queue = l.waiting b.visibility queue
  receipts_nodup : l.receipts.Nodup

namespace Agrees

variable {b b' : Backlog} {l : Ledger} {now : Instant} {deadline : Option Instant}
  {queue receipt : String} {message : Message} {delivery : Delivery}

/-- Queues without messages agree with the empty ledger. -/
theorem start (visibility : Duration) : (Backlog.start visibility).Agrees [] where
  waiting_eq _ := rfl
  receipts_nodup := List.nodup_nil

/-- A send keeps the agreement. -/
theorem send (h : b.Agrees l) (hsend : b.send now queue message = .ok b') :
    b'.Agrees (l.send queue message now) where
  waiting_eq := Matches.send h.waiting_eq hsend
  receipts_nodup := by simpa using h.receipts_nodup

/-- A look that finds something hands out the earliest parcel that is ready. -/
theorem poll_delivered (h : b.Agrees l)
    (hpoll : b.poll now deadline queue receipt = .delivered delivery b') :
    ∃ before p after, l = before ++ p :: after ∧
      (∀ q ∈ before, q.readyOn b.visibility now queue = false) ∧
      p.readyOn b.visibility now queue = true ∧
      delivery = ⟨p.message, receipt, UInt32.ofNat (p.deliveries.length + 1)⟩ ∧
      l.handOut b.visibility now queue receipt = before ++ p.handOut now receipt :: after ∧
      b'.visibility = b.visibility ∧ b'.closed = b.closed ∧
      ∀ other, b'.waiting other =
        Ledger.waiting (before ++ p.handOut now receipt :: after) b.visibility other :=
  Matches.poll_delivered h.waiting_eq hpoll

/-- A delivery under a fresh receipt keeps the agreement. -/
theorem handOut (h : b.Agrees l)
    (hpoll : b.poll now deadline queue receipt = .delivered delivery b')
    (hfresh : receipt ∉ l.receipts) :
    b'.Agrees (l.handOut b.visibility now queue receipt) where
  waiting_eq := Matches.handOut h.waiting_eq hpoll
  receipts_nodup := by
    obtain ⟨before, p, after, rfl, -, -, -, hentered, -⟩ := h.poll_delivered hpoll
    rw [hentered, (Ledger.receipts_handOut_perm before after p now receipt).nodup_iff]
    exact List.nodup_cons.mpr ⟨hfresh, h.receipts_nodup⟩

/-- A deletion keeps the agreement. -/
theorem delete (h : b.Agrees l) (queue receipt : String) :
    (b.delete queue receipt).Agrees (l.delete queue receipt) where
  waiting_eq := Matches.delete h.waiting_eq queue receipt
  receipts_nodup := by simpa [Ledger.delete] using h.receipts_nodup

/-- A purge keeps the agreement. -/
theorem purge (h : b.Agrees l) (queue : String) : (b.purge queue).Agrees (l.purge queue) where
  waiting_eq := Matches.purge h.waiting_eq queue
  receipts_nodup := by simpa [Ledger.purge] using h.receipts_nodup

/-- Closing keeps the agreement. -/
theorem close (h : b.Agrees l) : b.close.Agrees l where
  waiting_eq := h.waiting_eq
  receipts_nodup := h.receipts_nodup

/-! ## What the agreement says about receipts -/

/-- What a queue holds comes from a parcel that is stored there. -/
theorem mem_waiting (h : b.Agrees l) {w : Waiting} :
    w ∈ b.waiting queue ↔ ∃ p ∈ l, p.storedOn queue = true ∧ p.waiting b.visibility = w := by
  rw [h.waiting_eq, Ledger.waiting]
  simp [and_assoc]

/-- The receipts on a queue are pairwise different. -/
theorem waiting_receipts_nodup (h : b.Agrees l) (queue : String) :
    ((b.waiting queue).filterMap Waiting.receipt).Nodup := by
  rw [h.waiting_eq, Ledger.waiting, List.filterMap_map]
  have hsublist : ((l.filter (Parcel.storedOn queue)).filterMap Parcel.receipt).Sublist
      l.receipts := by
    have hlatest : ∀ m : Ledger, (m.filterMap Parcel.receipt).Sublist m.receipts := by
      intro m
      induction m with
      | nil => exact List.Sublist.refl _
      | cons p rest ih =>
        rw [List.filterMap_cons, Ledger.receipts, List.flatMap_cons]
        cases hp : p.receipts with
        | nil => simpa [Parcel.receipt, hp, Ledger.receipts] using ih
        | cons r older =>
          simp only [Parcel.receipt, hp, List.head?_cons, List.cons_append]
          exact (ih.trans (List.sublist_append_right _ _)).cons_cons r
    exact ((List.filter_sublist).filterMap _).trans (hlatest l)
  exact hsublist.nodup h.receipts_nodup

/-- In the whole backlog a receipt stands at one place at most. -/
theorem receipt_unique (h : b.Agrees l) {other : String} {i j : Nat} {v w : Waiting}
    (hv : (b.waiting queue)[i]? = some v) (hw : (b.waiting other)[j]? = some w)
    (hvr : v.receipt = some receipt) (hwr : w.receipt = some receipt) :
    queue = other ∧ i = j := by
  obtain ⟨p, hp, hpstored, rfl⟩ := h.mem_waiting.mp (List.mem_of_getElem? hv)
  obtain ⟨q, hq, hqstored, rfl⟩ := h.mem_waiting.mp (List.mem_of_getElem? hw)
  have hpq : p = q := Ledger.eq_of_mem_receipts h.receipts_nodup hp hq
    (Parcel.mem_receipts_of_receipt hvr) (Parcel.mem_receipts_of_receipt hwr)
  subst hpq
  have hqueue : queue = other :=
    (Parcel.storedOn_iff.mp hpstored).1.symm.trans (Parcel.storedOn_iff.mp hqstored).1
  subst hqueue
  refine ⟨rfl, ?_⟩
  have hpairwise := List.pairwise_iff_getElem.mp
    (List.pairwise_filterMap.mp (h.waiting_receipts_nodup queue))
  obtain ⟨hi, hvi⟩ := List.getElem?_eq_some_iff.mp hv
  obtain ⟨hj, hwj⟩ := List.getElem?_eq_some_iff.mp hw
  rcases Nat.lt_trichotomy i j with hlt | heq | hgt
  · exact absurd rfl (hpairwise i j hi hj hlt receipt (hvi ▸ hvr) receipt (hwj ▸ hwr))
  · exact heq
  · exact absurd rfl (hpairwise j i hj hi hgt receipt (hwj ▸ hwr) receipt (hvi ▸ hvr))

/-- Only the latest receipt of a message that is stored on the queue deletes anything. -/
theorem delete_eq_self (h : b.Agrees l)
    (hstale : ∀ p ∈ l, p.storedOn queue = true → p.receipt ≠ some receipt) :
    b.delete queue receipt = b := by
  apply Backlog.delete_eq_self
  intro w hw
  obtain ⟨p, hp, hstored, rfl⟩ := h.mem_waiting.mp hw
  exact hstale p hp hstored

/-- A deletion removes one message at most. -/
theorem length_le_delete (h : b.Agrees l) (queue receipt : String) :
    (b.waiting queue).length ≤ ((b.delete queue receipt).waiting queue).length + 1 := by
  have hone : (b.waiting queue).countP (fun w => w.receipt == some receipt) ≤ 1 := by
    rw [← List.count_filterMap]
    exact List.nodup_iff_count_le_one.mp (h.waiting_receipts_nodup queue) receipt
  rw [waiting_delete, if_pos rfl, ← List.countP_eq_length_filter]
  have hsplit := List.length_eq_countP_add_countP (fun w : Waiting => w.receipt == some receipt)
    (l := b.waiting queue)
  have hkept : (b.waiting queue).countP (fun w => decide ¬(w.receipt == some receipt) = true) =
      (b.waiting queue).countP fun w => w.receipt ≠ some receipt := by
    apply List.countP_congr
    intro w _
    simp
  omega

end Agrees
end Backlog
end Switchboard
