import Switchboard.Proofs.Queue.Exclusion

/-!
# Counting deliveries

A delivery says how often its message was handed out, itself included.  The count has 32 bits, but
nothing limits how often a message is handed out that is never deleted: it comes back after every
visibility timeout.  So the count is exact as long as the number fits into 32 bits, and then it
starts again from zero.

Main results:

- Definition {lit}`Traffic.timesHandedOut`: how often a message is handed out in a run.
- Theorem {lit}`Traffic.run_counts`: what a delivery says in every run, and when it is exact.
- Theorem {lit}`Sample.exists_handsOut`: a message can be handed out any number of times.
- Theorem {lit}`Traffic.receiveCount_wraps`: a delivery of a message that was handed out as often as
  32 bits can count says that it never was.
-/

namespace Switchboard

/-! ## What is entered -/

namespace Ledger

variable {l : Ledger} {i : Nat} {p : Parcel}

@[simp]
theorem length_handOut (visibility : Duration) (now : Instant) (queue receipt : String) :
    (l.handOut visibility now queue receipt).length = l.length := by
  induction l with
  | nil => rfl
  | cons p rest ih =>
    rw [handOut]
    split <;> simp [ih]

/-- A parcel that comes has no deliveries yet. -/
theorem deliveries_of_enter (visibility : Duration) (o : Occurrence) (hnone : l[i]? = none)
    (hp : (l.enter visibility o)[i]? = some p) : p.deliveries = [] := by
  have hlength : l.length ≤ i := List.getElem?_eq_none_iff.mp hnone
  obtain ⟨hi, -⟩ := List.getElem?_eq_some_iff.mp hp
  cases o with
  | sent queue message sentAt =>
    rw [enter, send, List.getElem?_append_right hlength] at hp
    rw [List.mem_singleton.mp (List.mem_of_getElem? hp)]
    rfl
  | delivered queue delivery deliveredAt =>
    rw [enter, length_handOut] at hi
    exact absurd hi (Nat.not_lt_of_le hlength)
  | deleted queue receipt =>
    rw [enter, delete, removeIf, List.length_map] at hi
    exact absurd hi (Nat.not_lt_of_le hlength)
  | purged queue =>
    rw [enter, purge, removeIf, List.length_map] at hi
    exact absurd hi (Nat.not_lt_of_le hlength)

end Ledger

namespace Traffic

variable {t : Traffic} {act : Act} {i : Nat} {p p' : Parcel} {d : Delivery}

/-- An act leaves the ledger as it is, or one occurrence is seen and entered. -/
theorem ledger_step_cases (t : Traffic) (act : Act) :
    (t.step act).ledger = t.ledger ∨ ∃ o, (t.step act).history = t.history ++ [o] ∧
      (t.step act).ledger = t.ledger.enter t.backlog.visibility o := by
  obtain ⟨new, hstep, hhistory, -⟩ := t.step_spec act
  have hledger := ledger_step hstep hhistory
  rcases hstep.new_cases with rfl | ⟨o, rfl⟩
  · exact .inl hledger
  · exact .inr ⟨o, hhistory, hledger⟩

/-- The deliveries of a message change only if it is handed out. -/
theorem handsOut_of_ne (h : t.backlog.Matches t.ledger) (hp : t.ledger[i]? = some p)
    (hp' : (t.step act).ledger[i]? = some p') (hne : p'.deliveries ≠ p.deliveries) :
    ∃ d, t.HandsOut act i p d := by
  rcases t.ledger_step_cases act with hledger | ⟨o, hhistory, hledger⟩
  · rw [hledger, hp, Option.some_inj] at hp'
    exact absurd (congrArg Parcel.deliveries hp'.symm) hne
  obtain ⟨q, hq, hcases⟩ := Ledger.enter_cases t.backlog.visibility o hp
  obtain rfl : q = p' := by rw [← Option.some_inj, ← hq, ← hp', hledger]
  rcases hcases with rfl | rfl | ⟨queue, d, deliveredAt, rfl, -, rfl⟩
  · exact absurd rfl hne
  · exact absurd rfl hne
  obtain ⟨-, j, r, hout, -⟩ := handsOut_of_delivered h hhistory
  by_cases hij : j = i
  · subst hij
    obtain rfl : r = p := Option.some_inj.mp (hout.place.symm.trans hp)
    exact ⟨d, hout⟩
  · -- A delivery of another message leaves this one as it is.
    rw [hout.entered, List.getElem?_set_ne hij, hp, Option.some_inj] at hp'
    exact absurd (congrArg Parcel.deliveries hp'.symm) hne

/-! ## How often a message is handed out -/

/-- How many deliveries the message of a place has had, which are none if it was not sent yet. -/
def deliveryCount (t : Traffic) (i : Nat) : Nat :=
  (t.ledger[i]?.map fun p => p.deliveries.length).getD 0

open Classical in
/-- How often the message of a place is handed out in a run. -/
noncomputable def timesHandedOut (t : Traffic) (i : Nat) : List Act → Nat
  | [] => 0
  | act :: acts =>
    (if ∃ p d, t.HandsOut act i p d then 1 else 0) + timesHandedOut (t.step act) i acts

theorem deliveryCount_of_some (hp : t.ledger[i]? = some p) :
    t.deliveryCount i = p.deliveries.length := by
  rw [deliveryCount, hp, Option.map_some, Option.getD_some]

theorem deliveryCount_of_none (hp : t.ledger[i]? = none) : t.deliveryCount i = 0 := by
  rw [deliveryCount, hp, Option.map_none, Option.getD_none]

/-- An act that hands out a message counts as one delivery of it. -/
theorem HandsOut.deliveryCount_step (h : t.HandsOut act i p d) :
    (t.step act).deliveryCount i = t.deliveryCount i + 1 := by
  obtain ⟨hi, -⟩ := List.getElem?_eq_some_iff.mp h.place
  have hp' : (t.step act).ledger[i]? = some (p.handOut t.now d.receipt) := by
    rw [h.entered, List.getElem?_set_self hi]
  rw [deliveryCount_of_some hp', deliveryCount_of_some h.place]
  rfl

/-- All other acts leave the count as it is. -/
theorem deliveryCount_step_of_not (h : t.backlog.Matches t.ledger)
    (hnot : ¬ ∃ p d, t.HandsOut act i p d) :
    (t.step act).deliveryCount i = t.deliveryCount i := by
  cases hp : t.ledger[i]? with
  | some p =>
    obtain ⟨p', hp', -⟩ := becomes_step act hp
    have hsame : p'.deliveries = p.deliveries := by
      by_contra hne
      exact hnot ⟨p, handsOut_of_ne h hp hp' hne⟩
    rw [deliveryCount_of_some hp', deliveryCount_of_some hp, hsame]
  | none =>
    rw [deliveryCount_of_none hp]
    cases hp' : (t.step act).ledger[i]? with
    | none => exact deliveryCount_of_none hp'
    | some p' =>
      have hnew : p'.deliveries = [] := by
        rcases t.ledger_step_cases act with hledger | ⟨o, -, hledger⟩
        · rw [hledger, hp] at hp'
          cases hp'
        · rw [hledger] at hp'
          exact Ledger.deliveries_of_enter _ o hp hp'
      rw [deliveryCount_of_some hp', hnew, List.length_nil]

/-- After a run a message has had the deliveries that it had before and those of the run. -/
theorem deliveryCount_run (h : t.backlog.Matches t.ledger) (acts : List Act) (i : Nat) :
    (t.run acts).deliveryCount i = t.deliveryCount i + t.timesHandedOut i acts := by
  induction acts generalizing t with
  | nil => rfl
  | cons act acts ih =>
    have hrest := ih (matches_step h act)
    rw [timesHandedOut, ← Nat.add_assoc]
    by_cases hout : ∃ p d, t.HandsOut act i p d
    · rw [if_pos hout]
      obtain ⟨p, d, hout⟩ := hout
      rwa [hout.deliveryCount_step] at hrest
    · rw [if_neg hout]
      rwa [deliveryCount_step_of_not h hout] at hrest

theorem matches_start (visibility : Duration) (acts : List Act) :
    ((start visibility).run acts).backlog.Matches ((start visibility).run acts).ledger :=
  matches_run (fun _ => rfl) acts

/-- What the delivery says that comes after a run. -/
structure Counts (visibility : Duration) (acts : List Act) : Prop where
  /-- It says how often its message was handed out, itself included, in 32 bits. -/
  modulo : ∀ (act : Act) (i : Nat) (p : Parcel) (d : Delivery),
    ((start visibility).run acts).HandsOut act i p d →
      d.receiveCount.toNat =
        (start visibility).timesHandedOut i (acts ++ [act]) % UInt32.size
  /-- So it is exact if and only if this number fits into 32 bits. -/
  exact_iff : ∀ (act : Act) (i : Nat) (p : Parcel) (d : Delivery),
    ((start visibility).run acts).HandsOut act i p d →
      (d.receiveCount.toNat = (start visibility).timesHandedOut i (acts ++ [act]) ↔
        (start visibility).timesHandedOut i (acts ++ [act]) < UInt32.size)

namespace HandsOut

variable {visibility : Duration} {acts : List Act}

/-- With a delivery its message was handed out once more than it had been before. -/
theorem timesHandedOut_eq (h : ((start visibility).run acts).HandsOut act i p d) :
    (start visibility).timesHandedOut i (acts ++ [act]) = p.deliveries.length + 1 := by
  have hmatches : (start visibility).backlog.Matches (start visibility).ledger := fun _ => rfl
  have hrun := deliveryCount_run hmatches (acts ++ [act]) i
  have hbefore : (start visibility).deliveryCount i = 0 := deliveryCount_of_none rfl
  rw [hbefore, Nat.zero_add, run, List.foldl_append] at hrun
  rw [← hrun, ← deliveryCount_of_some h.place]
  exact h.deliveryCount_step

/-- A delivery shows its own number, in 32 bits. -/
theorem receiveCount_eq (h : ((start visibility).run acts).HandsOut act i p d) :
    d.receiveCount.toNat = (start visibility).timesHandedOut i (acts ++ [act]) % UInt32.size := by
  rw [h.timesHandedOut_eq, (h.delivery_eq (matches_start visibility acts)).2]
  exact UInt32.toNat_ofNat' ..

end HandsOut

/-- In every run a delivery says how often its message was handed out, as long as 32 bits can. -/
theorem run_counts (visibility : Duration) (acts : List Act) : Counts visibility acts where
  modulo _ _ _ _ hout := hout.receiveCount_eq
  exact_iff act i p d hout := by
    have hsize : 0 < UInt32.size := by decide
    rw [hout.receiveCount_eq]
    constructor
    · intro hexact
      rw [← hexact]
      exact Nat.mod_lt _ hsize
    · exact Nat.mod_eq_of_lt

/-! ## A message that is never deleted -/

/-- Somebody who waits at a queue with a message that is ready is handed one. -/
theorem look_of_ready (h : t.backlog.Matches t.ledger) (hopen : t.backlog.closed = false)
    {caller : Nat} {c : Caller} (hcaller : t.callers[caller]? = some c)
    (hwaits : c.receiver.reply = none) (hp : p ∈ t.ledger)
    (hready : p.readyOn t.backlog.visibility t.now c.receiver.queue = true) (receipt : String) :
    let next := t.step (.look caller receipt)
    (∃ d, next.history = t.history ++ [.delivered c.receiver.queue d t.now]) ∧
      next.now = t.now ∧ next.backlog.closed = false ∧ next.callers.length = t.callers.length := by
  obtain ⟨⟨d, messages⟩, hfound⟩ := Option.ne_none_iff_exists'.mp
    (Ledger.takeFirst_waiting_ne_none receipt hp hready)
  rw [← h] at hfound
  have hpoll : t.backlog.poll t.now c.receiver.deadline c.receiver.queue receipt =
      .delivered d _ := Backlog.poll_eq_delivered_iff.mpr ⟨hopen, messages, hfound, rfl⟩
  simp only [step, look, hcaller, Receiver.look, hwaits, Option.isSome_none, Bool.false_eq_true,
    if_false, hpoll, note]
  exact ⟨⟨d, rfl⟩, trivial, hopen, List.length_set⟩

end Traffic

namespace Sample

open Traffic

/-- Receive the message of the queue without deleting it, so many calls having been made before. -/
def receiveAgain (calls : Nat) : List Act :=
  [.beginReceive "q" 0 false, .look calls (Nat.repr calls)]

/-- Send a message and receive it so many times. -/
def receiveTimes : Nat → List Act
  | 0 => [.send "q" (.plain "1" "null")]
  | n + 1 => receiveTimes n ++ receiveAgain n

/-- A message that was handed out so often is the only one, and is ready to be handed out. -/
structure Ready (n : Nat) (t : Traffic) : Prop where
  now : t.now = 0
  opened : t.backlog.closed = false
  visibility : t.backlog.visibility = 0
  coherent : t.backlog.Matches t.ledger
  parcel : ∃ p, t.ledger = [p] ∧ p.deliveries.length = n ∧ p.readyOn 0 0 "q" = true

namespace Ready

variable {n : Nat} {t : Traffic}

theorem start : Ready 0 ((Traffic.start 0).run (receiveTimes 0)) where
  now := rfl
  opened := rfl
  visibility := rfl
  coherent := matches_start 0 (receiveTimes 0)
  parcel := ⟨_, rfl, rfl, by decide⟩

theorem beginReceive (h : Ready n t) (queue : String) (wait : Duration) (takes : Bool) :
    Ready n (t.step (.beginReceive queue wait takes)) :=
  ⟨h.now, h.opened, h.visibility, matches_step h.coherent _, h.parcel⟩

/-- Whoever waits for it is handed the message, which is ready again at once. -/
theorem look (h : Ready n t) {caller : Nat} {c : Caller} (hcaller : t.callers[caller]? = some c)
    (hwaits : c.receiver.reply = none) (hqueue : c.receiver.queue = "q") (receipt : String) :
    (∃ p d, t.HandsOut (.look caller receipt) 0 p d) ∧
      Ready (n + 1) (t.step (.look caller receipt)) ∧
        (t.step (.look caller receipt)).callers.length = t.callers.length := by
  obtain ⟨p, hledger, hcount, hready⟩ := h.parcel
  have hready' : p.readyOn t.backlog.visibility t.now c.receiver.queue = true := by
    rw [h.visibility, h.now, hqueue]
    exact hready
  have hmem : p ∈ t.ledger := by
    rw [hledger]
    exact List.mem_singleton_self p
  obtain ⟨⟨d, hhistory⟩, hnow, hopened, hcallers⟩ :=
    look_of_ready h.coherent h.opened hcaller hwaits hmem hready' receipt
  obtain ⟨-, i, q, hout, -⟩ := handsOut_of_delivered h.coherent hhistory
  -- There is no other message that it could be.
  obtain ⟨hi, hq⟩ := List.getElem?_eq_some_iff.mp hout.place
  have hzero : i = 0 := by
    rw [hledger, List.length_singleton] at hi
    omega
  subst hzero
  have hledger' := hout.entered
  simp only [hledger, List.getElem_cons_zero] at hq
  subst hq
  rw [hledger, h.now] at hledger'
  refine ⟨⟨p, d, hout⟩, ⟨hnow.trans h.now, hopened, (visibility_step t _).trans h.visibility,
    matches_step h.coherent _, _, hledger', congrArg (· + 1) hcount, ?_⟩, hcallers⟩
  have hagain : Instant.reached (Instant.after? 0 0) 0 = true := by decide
  rw [Parcel.readyOn, Bool.and_eq_true] at hready ⊢
  exact ⟨hready.1, hagain⟩

/-- So it can be received again and again. -/
theorem receiveAgain (h : Ready n t) (hcallers : t.callers.length = n) :
    (∃ p d, (t.step (.beginReceive "q" 0 false)).HandsOut (.look n (Nat.repr n)) 0 p d) ∧
      Ready (n + 1) (t.run (receiveAgain n)) ∧
        (t.run (Sample.receiveAgain n)).callers.length = n + 1 := by
  have hcaller : (t.step (.beginReceive "q" 0 false)).callers[n]? =
      some ⟨⟨"q", Instant.after? t.now 0, none⟩, false⟩ := by
    rw [← hcallers]
    exact List.getElem?_concat_length
  obtain ⟨hout, hready, hlength⟩ :=
    (h.beginReceive "q" 0 false).look hcaller rfl rfl (Nat.repr n)
  refine ⟨hout, hready, hlength.trans ?_⟩
  rw [step, List.length_append, List.length_singleton, hcallers]

end Ready

/-- After so many receptions as many calls have been made, and the message is ready again. -/
theorem ready_run (n : Nat) :
    Ready n ((Traffic.start 0).run (receiveTimes n)) ∧
      ((Traffic.start 0).run (receiveTimes n)).callers.length = n := by
  induction n with
  | zero => exact ⟨.start, rfl⟩
  | succ n ih =>
    have hsplit : (Traffic.start 0).run (receiveTimes (n + 1)) =
        ((Traffic.start 0).run (receiveTimes n)).run (receiveAgain n) := List.foldl_append
    rw [hsplit]
    exact (ih.1.receiveAgain ih.2).2

/-- A message that is never deleted can be handed out any number of times. -/
theorem exists_handsOut (n : Nat) :
    let acts := receiveTimes n ++ [.beginReceive "q" 0 false]
    let act := Act.look n (Nat.repr n)
    ∃ p d, ((Traffic.start 0).run acts).HandsOut act 0 p d ∧
      (Traffic.start 0).timesHandedOut 0 (acts ++ [act]) = n + 1 := by
  intro acts act
  obtain ⟨hready, hcallers⟩ := ready_run n
  obtain ⟨⟨p, d, hout⟩, -⟩ := hready.receiveAgain hcallers
  have hsplit : (Traffic.start 0).run acts =
      ((Traffic.start 0).run (receiveTimes n)).step (.beginReceive "q" 0 false) :=
    List.foldl_append
  rw [← hsplit] at hout
  refine ⟨p, d, hout, ?_⟩
  obtain ⟨q, hledger, hcount, -⟩ := hready.parcel
  have hplace := hout.place
  rw [hsplit] at hplace
  obtain rfl : q = p := Option.some_inj.mp ((congrArg (·[0]?) hledger).symm.trans hplace)
  rw [hout.timesHandedOut_eq, hcount]

end Sample

namespace Traffic

/-- The delivery that comes after as many as 32 bits can count says that it is the zeroth one. -/
theorem receiveCount_wraps :
    let acts := Sample.receiveTimes 4294967295 ++ [.beginReceive "q" 0 false]
    let act := Act.look 4294967295 (Nat.repr 4294967295)
    ∃ p d, ((start 0).run acts).HandsOut act 0 p d ∧
      (start 0).timesHandedOut 0 (acts ++ [act]) = 4294967296 ∧ d.receiveCount = 0 := by
  obtain ⟨p, d, hout, htimes⟩ := Sample.exists_handsOut 4294967295
  refine ⟨p, d, hout, htimes, ?_⟩
  have hcount := hout.receiveCount_eq
  rw [htimes] at hcount
  exact UInt32.toNat_inj.mp hcount

end Traffic
end Switchboard
