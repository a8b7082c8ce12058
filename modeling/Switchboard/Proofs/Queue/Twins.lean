import Mathlib.Data.List.Forall2
import Switchboard.Queue.Backlog

/-!
# Queues up to generated identifiers

A message has an id that is generated when it is composed, and a receipt that is generated when it
is handed out.  Two backlogs are twins if they are equal but for these.  Whoever sends, looks and
deletes by the receipts it was given keeps them so, as long as a receipt is new when it is drawn.

The messages of twins may be held to a condition, which is kept as well because messages are never
changed on a queue.

Main results:

- Definitions {lit}`Message.Twins` and {lit}`Backlog.Twins`: equality up to generated identifiers.
- Theorem {lit}`Backlog.Twins.send`: twins take twins.
- Theorem {lit}`Backlog.Twins.poll`: a look at twins gives the same, up to generated identifiers.
-/

namespace Switchboard

/-- Two messages that are equal up to their ids. -/
structure Message.Twins (m m' : Message) : Prop where
  body : m.body = m'.body
  attributes : m.attributes = m'.attributes

namespace Message.Twins

variable {m m' : Message}

theorem attributeValue_eq (h : m.Twins m') (key : String) :
    m.attributeValue key = m'.attributeValue key := by
  rw [attributeValue, attributeValue, h.attributes]

theorem typeInfo_eq (h : m.Twins m') : m.typeInfo = m'.typeInfo :=
  h.attributeValue_eq typeInfoKey

theorem organisation_eq (h : m.Twins m') : m.organisation = m'.organisation := by
  rw [organisation, organisation, h.attributeValue_eq]

theorem decode_eq {C : Catalogue} (h : m.Twins m') (kind : C.Kind) :
    m.decode kind = m'.decode kind := by
  rw [decode, decode, h.body]

end Message.Twins

/-- Two places on a queue that are equal up to the message's id and the receipt, with a message that
is admitted. -/
structure Waiting.Twins (admitted : Message → Prop) (w w' : Waiting) : Prop where
  message : w.message.Twins w'.message
  admits : admitted w.message
  visibleAt : w.visibleAt = w'.visibleAt
  receiveCount : w.receiveCount = w'.receiveCount

/-- Two deliveries that are equal up to the message's id and the receipt, with a message that is
admitted. -/
structure Delivery.Twins (admitted : Message → Prop) (d d' : Delivery) : Prop where
  message : d.message.Twins d'.message
  admits : admitted d.message
  receiveCount : d.receiveCount = d'.receiveCount

/-- Two backlogs that are equal up to the ids and receipts of their messages, all of which are
admitted. -/
structure Backlog.Twins (admitted : Message → Prop) (b b' : Backlog) : Prop where
  visibility : b.visibility = b'.visibility
  closed : b.closed = b'.closed
  waiting : ∀ queue, List.Forall₂ (Waiting.Twins admitted) (b.waiting queue) (b'.waiting queue)

/-- Two looks at a queue of twins that give the same up to generated identifiers.  If a message is
handed out, the queues are twins both with it and without it. -/
inductive Poll.Twins (admitted : Message → Prop) (queue : String) : Poll → Poll → Prop
  | closed : Twins admitted queue .closed .closed
  | timedOut : Twins admitted queue .timedOut .timedOut
  | blocked : Twins admitted queue .blocked .blocked
  | delivered {d d' : Delivery} {b b' : Backlog} (hd : d.Twins admitted d')
      (hleft : b.Twins admitted b')
      (hdeleted : (b.delete queue d.receipt).Twins admitted (b'.delete queue d'.receipt)) :
      Twins admitted queue (.delivered d b) (.delivered d' b')

/-- No message of a queue waits under a receipt. -/
def Backlog.Lacks (b : Backlog) (queue receipt : String) : Prop :=
  ∀ w ∈ b.waiting queue, w.receipt ≠ some receipt

namespace Backlog

variable {admitted : Message → Prop} {queue receipt receipt' : String} {b b' : Backlog}
  {l l' : List Waiting}

/-- Queues without messages are twins. -/
theorem Twins.start (admitted : Message → Prop) (visibility : Duration) :
    (start visibility).Twins admitted (start visibility) :=
  ⟨rfl, rfl, fun _ => .nil⟩

/-- The messages that a list is left with if those under a receipt are deleted. -/
private def without (receipt : String) (l : List Waiting) : List Waiting :=
  l.filter fun w => w.receipt ≠ some receipt

private theorem without_cons_self {w : Waiting} (h : w.receipt = some receipt) :
    without receipt (w :: l) = without receipt l :=
  List.filter_cons_of_neg (by simp [h])

private theorem without_cons_of_ne {w : Waiting} (h : w.receipt ≠ some receipt) :
    without receipt (w :: l) = w :: without receipt l :=
  List.filter_cons_of_pos (by simp [h])

private theorem without_eq_self (h : ∀ w ∈ l, w.receipt ≠ some receipt) : without receipt l = l :=
  List.filter_eq_self.mpr fun w hw => by simpa using h w hw

/-- Of twins, messages are handed out at the same place or not at all.  What is left are twins, with
the message and without it, since nothing else waits under its new receipt. -/
theorem takeFirst_twins (now : Instant) (visibility : Duration)
    (h : List.Forall₂ (Waiting.Twins admitted) l l')
    (hnew : ∀ w ∈ l, w.receipt ≠ some receipt) (hnew' : ∀ w ∈ l', w.receipt ≠ some receipt') :
    (takeFirst now visibility receipt l = none ∧ takeFirst now visibility receipt' l' = none) ∨
      ∃ d d' rest rest', takeFirst now visibility receipt l = some (d, rest) ∧
        takeFirst now visibility receipt' l' = some (d', rest') ∧ d.Twins admitted d' ∧
        d.receipt = receipt ∧ d'.receipt = receipt' ∧
        List.Forall₂ (Waiting.Twins admitted) rest rest' ∧
        List.Forall₂ (Waiting.Twins admitted) (without receipt rest) (without receipt' rest') := by
  induction h with
  | nil => exact .inl ⟨rfl, rfl⟩
  | @cons w w' tail tail' hw htail ih =>
    obtain ⟨hfirst, hrest⟩ := List.forall_mem_cons.mp hnew
    obtain ⟨hfirst', hrest'⟩ := List.forall_mem_cons.mp hnew'
    have hvisible : w'.isVisible now = w.isVisible now := by
      rw [Waiting.isVisible, Waiting.isVisible, hw.visibleAt]
    cases hready : w.isVisible now with
    | true =>
      rw [hready] at hvisible
      refine .inr ⟨_, _, _, _, by rw [takeFirst, if_pos hready],
        by rw [takeFirst, if_pos hvisible], ?_, rfl, rfl, .cons ?_ htail, ?_⟩
      · exact ⟨hw.message, hw.admits, congrArg (· + 1) hw.receiveCount⟩
      · exact ⟨hw.message, hw.admits, rfl, congrArg (· + 1) hw.receiveCount⟩
      · rw [without_cons_self rfl, without_cons_self rfl, without_eq_self hrest,
          without_eq_self hrest']
        exact htail
    | false =>
      rw [hready] at hvisible
      simp only [takeFirst, hready, hvisible, Bool.false_eq_true, if_false]
      rcases ih hrest hrest' with ⟨hnone, hnone'⟩ |
        ⟨d, d', rest, rest', htake, htake', hd, hreceipt, hreceipt', hleft, hdeleted⟩
      · exact .inl ⟨by rw [hnone]; rfl, by rw [hnone']; rfl⟩
      · refine .inr ⟨d, d', w :: rest, w' :: rest', by rw [htake]; rfl, by rw [htake']; rfl, hd,
          hreceipt, hreceipt', .cons hw hleft, ?_⟩
        rw [without_cons_of_ne hfirst, without_cons_of_ne hfirst']
        exact .cons hw hdeleted

namespace Twins

/-- A queue of twins may be replaced by twins. -/
theorem insert (h : b.Twins admitted b') (queue : String)
    (hl : List.Forall₂ (Waiting.Twins admitted) l l') :
    Twins admitted { b with queues := b.queues.insert queue l }
      { b' with queues := b'.queues.insert queue l' } where
  visibility := h.visibility
  closed := h.closed
  waiting other := by
    simp only [Backlog.waiting, Dictionary.find?_insert]
    split
    · exact hl
    · exact h.waiting other

/-- Twins refuse twins alike, or they take them. -/
theorem send (h : b.Twins admitted b') (now : Instant) (queue : String) {m m' : Message}
    (hm : m.Twins m') (hadmits : admitted m) :
    (b.send now queue m = .error .closed ∧ b'.send now queue m' = .error .closed) ∨
      ∃ c c', b.send now queue m = .ok c ∧ b'.send now queue m' = .ok c' ∧ c.Twins admitted c' := by
  cases hclosed : b.closed with
  | true => exact .inl ⟨by rw [Backlog.send, hclosed, if_pos rfl],
      by rw [Backlog.send, ← h.closed, hclosed, if_pos rfl]⟩
  | false =>
    refine .inr ⟨_, _, send_eq_ok_iff.mpr ⟨hclosed, rfl⟩,
      send_eq_ok_iff.mpr ⟨h.closed ▸ hclosed, rfl⟩, h.insert queue ?_⟩
    exact List.rel_append (h.waiting queue) (.cons ⟨hm, hadmits, rfl, rfl⟩ .nil)

/-- Twins that are closed are twins. -/
theorem close (h : b.Twins admitted b') : b.close.Twins admitted b'.close where
  visibility := h.visibility
  closed := rfl
  waiting queue := by
    rw [waiting_close, waiting_close]
    exact h.waiting queue

/-- What is deleted from a queue that was replaced is deleted from its new messages. -/
private theorem delete_insert (b : Backlog) (queue receipt : String) (l : List Waiting)
    (other : String) :
    (Backlog.delete { b with queues := b.queues.insert queue l } queue receipt).waiting other =
      if other = queue then without receipt l else b.waiting other := by
  rw [waiting_delete]
  split
  · simp [Backlog.waiting, without]
  · rename_i hne
    simp [Backlog.waiting, Dictionary.find?_insert_of_ne _ hne]

/-- A look at a queue of twins gives the same, if the receipts that are drawn are new there. -/
theorem poll (h : b.Twins admitted b') (now : Instant) (deadline : Option Instant)
    (hnew : b.Lacks queue receipt) (hnew' : b'.Lacks queue receipt') :
    Poll.Twins admitted queue (b.poll now deadline queue receipt)
      (b'.poll now deadline queue receipt') := by
  cases hclosed : b.closed with
  | true =>
    rw [poll_eq_closed_iff.mpr hclosed, poll_eq_closed_iff.mpr (h.closed ▸ hclosed)]
    exact .closed
  | false =>
    have hclosed' : b'.closed = false := h.closed ▸ hclosed
    have htaken := takeFirst_twins now b.visibility (h.waiting queue) hnew hnew'
    rcases htaken with ⟨hnone, hnone'⟩ |
      ⟨d, d', rest, rest', htake, htake', hd, hreceipt, hreceipt', hleft, hdeleted⟩
    · rw [h.visibility] at hnone'
      simp only [Backlog.poll, hclosed, hclosed', hnone, hnone', Bool.false_eq_true, if_false]
      split
      · exact .timedOut
      · exact .blocked
    · rw [h.visibility] at htake'
      rw [poll_eq_delivered_iff.mpr ⟨hclosed, rest, htake, rfl⟩,
        poll_eq_delivered_iff.mpr ⟨hclosed', rest', htake', rfl⟩]
      refine .delivered hd (h.insert queue hleft) ⟨h.visibility, h.closed, fun other => ?_⟩
      rw [delete_insert, delete_insert, hreceipt, hreceipt']
      split
      · exact hdeleted
      · exact h.waiting other

end Twins
end Backlog
end Switchboard
