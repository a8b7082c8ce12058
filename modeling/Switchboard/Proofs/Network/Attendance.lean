import Switchboard.Proofs.Network.Course
import Switchboard.Proofs.Network.Reception

/-!
# Attendance at a queue

The consumer of a shared queue is there from the first handler on.  It comes to the messages one by
one, in the order in which they were sent, and gives each of them to the handlers that were taken in
by then.  Here this is told without a broker: who is known, what waits, and what was come to.

Main results:

- Definition {lit}`Attendance.of`: whom the consumer knew when it came to which message.
- Theorem {lit}`Attendance.handled_of_eq_iff`: when every message that somebody takes was handled.
- Theorem {lit}`Attendance.punctual_of_late`: a consumer that waits for all handlers is punctual.
-/

namespace Switchboard

variable {C : Catalogue}

/-! ## Messages of a queue -/

namespace Deed

/-- The message that is sent to a queue, if one is. -/
def message? (queue : String) : Deed C → Option Message
  | enlist _ => none
  | send other m => if other = queue then some m else none
  | round => none
  | pass _ => none

/-- The messages that are sent to a queue, in their order. -/
def messages (queue : String) (deeds : List (Deed C)) : List Message :=
  deeds.filterMap (message? queue)

theorem messages_cons (queue : String) (d : Deed C) (deeds : List (Deed C)) :
    messages queue (d :: deeds) = (d.message? queue).toList ++ messages queue deeds := by
  rw [messages, List.filterMap_cons]
  cases d.message? queue <;> rfl

end Deed

/-! ## Attendance -/

/-- Who is known at a queue, what waits there, and to what its consumer came, with those whom it
knew then. -/
structure Attendance (C : Catalogue) where
  known : List (Enlistment C)
  pending : List Message
  seen : List (List (Enlistment C) × Message)

namespace Attendance

/-- The beginning. -/
def start : Attendance C :=
  ⟨[], [], []⟩

/-- The consumer, if it is there, comes to the first message that waits. -/
def come (a : Attendance C) : Attendance C :=
  match a.known, a.pending with
  | [], _ => a
  | _ :: _, [] => a
  | e :: known, m :: pending => ⟨e :: known, pending, a.seen ++ [(e :: known, m)]⟩

/-- Something happens. -/
def step (queue : String) (a : Attendance C) : Deed C → Attendance C
  | .enlist e => { a with known := a.known ++ [e] }
  | .send other m => if other = queue then { a with pending := a.pending ++ [m] } else a
  | .round => a.come
  | .pass _ => a

/-- Things happen one after the other. -/
def run (queue : String) (a : Attendance C) (deeds : List (Deed C)) : Attendance C :=
  deeds.foldl (step queue) a

/-- The consumer, if it is there, comes to everything that waits. -/
def drain (a : Attendance C) : Attendance C :=
  if a.known = [] then a
  else { a with pending := [], seen := a.seen ++ a.pending.map fun m => (a.known, m) }

/-- Whom the consumer of a queue knew when it came to which message, in the end. -/
def of (queue : String) (deeds : List (Deed C)) : Attendance C :=
  (start.run queue deeds).drain

/-- What the handlers of a queue are given, of all messages in the order in which the consumer comes
to them. -/
def given (a : Attendance C) : List (Nat × Σ kind : C.Kind, C.Value kind) :=
  a.seen.flatMap fun visit => visit.1.filterMap (·.given? visit.2)

/-- The messages that were given to some handler. -/
def handled (a : Attendance C) : List Message :=
  (a.seen.filter fun visit => visit.1.any fun e => (e.given? visit.2).isSome).map Prod.snd

/-- The consumer does not come to a message before somebody who takes it is known, unless nobody
ever does. -/
def Punctual (a : Attendance C) : Prop :=
  ∀ visit ∈ a.seen, (∃ e ∈ a.known, e.Takes visit.2) → ∃ e ∈ visit.1, e.Takes visit.2

/-! ## Coming to a message -/

variable {a : Attendance C} {queue : String}

theorem come_of_known_eq_nil (h : a.known = []) : a.come = a := by
  obtain ⟨known, pending, seen⟩ := a
  subst h
  rfl

theorem come_of_pending_eq_nil (h : a.pending = []) : a.come = a := by
  obtain ⟨known, pending, seen⟩ := a
  subst h
  cases known <;> rfl

theorem come_of_cons (h : a.known ≠ []) {m : Message} {pending : List Message}
    (hpending : a.pending = m :: pending) :
    a.come = ⟨a.known, pending, a.seen ++ [(a.known, m)]⟩ := by
  obtain ⟨known, pending, seen⟩ := a
  subst hpending
  cases known with
  | nil => exact absurd rfl h
  | cons e known => rfl

/-- Coming to a message changes nothing, or the first message that waits is come to. -/
theorem come_cases (a : Attendance C) : a.come = a ∨ ∃ m pending,
    a.pending = m :: pending ∧ a.come = ⟨a.known, pending, a.seen ++ [(a.known, m)]⟩ := by
  by_cases hknown : a.known = []
  · exact .inl (come_of_known_eq_nil hknown)
  · cases hpending : a.pending with
    | nil => exact .inl (come_of_pending_eq_nil hpending)
    | cons m pending => exact .inr ⟨m, pending, rfl, come_of_cons hknown hpending⟩

@[simp]
theorem known_come (a : Attendance C) : a.come.known = a.known := by
  rcases a.come_cases with hcome | ⟨m, pending, -, hcome⟩ <;> rw [hcome]

/-- Whoever comes to the first message comes to all of them in the end. -/
theorem drain_come (a : Attendance C) : a.come.drain = a.drain := by
  by_cases hknown : a.known = []
  · rw [come_of_known_eq_nil hknown]
  · cases hpending : a.pending with
    | nil => rw [come_of_pending_eq_nil hpending]
    | cons m pending =>
      rw [come_of_cons hknown hpending, drain, drain, if_neg hknown, if_neg hknown, hpending]
      simp

theorem drain_of_pending_eq_nil (h : a.pending = []) : a.drain = a := by
  obtain ⟨known, pending, seen⟩ := a
  subst h
  unfold drain
  split <;> simp

/-! ## What a run keeps -/

theorem known_step (a : Attendance C) (d : Deed C) :
    (a.step queue d).known = a.known ++ d.enlistment?.toList := by
  cases d with
  | enlist e => rfl
  | send other m =>
    rw [step, Deed.enlistment?, Option.toList_none, List.append_nil]
    split <;> rfl
  | round => rw [step, known_come, Deed.enlistment?, Option.toList_none, List.append_nil]
  | pass duration => rw [step, Deed.enlistment?, Option.toList_none, List.append_nil]

/-- In the end everybody is known. -/
theorem known_run (a : Attendance C) (deeds : List (Deed C)) :
    (a.run queue deeds).known = a.known ++ Deed.enlistments deeds := by
  induction deeds generalizing a with
  | nil => exact (List.append_nil _).symm
  | cons d deeds ih =>
    rw [Deed.enlistments_cons, ← List.append_assoc, ← known_step]
    exact ih (a.step queue d)

/-- Messages that were come to were sent before those that wait. -/
theorem messages_step (a : Attendance C) (d : Deed C) :
    (a.step queue d).seen.map Prod.snd ++ (a.step queue d).pending =
      a.seen.map Prod.snd ++ a.pending ++ (d.message? queue).toList := by
  cases d with
  | enlist e => exact (List.append_nil _).symm
  | send other m =>
    rw [step, Deed.message?]
    split
    · exact (List.append_assoc _ _ _).symm
    · exact (List.append_nil _).symm
  | round =>
    rw [step, Deed.message?, Option.toList_none, List.append_nil]
    rcases a.come_cases with hcome | ⟨m, pending, hpending, hcome⟩
    · rw [hcome]
    · rw [hcome, hpending]
      simp
  | pass duration => exact (List.append_nil _).symm

theorem messages_run (a : Attendance C) (deeds : List (Deed C)) :
    (a.run queue deeds).seen.map Prod.snd ++ (a.run queue deeds).pending =
      a.seen.map Prod.snd ++ a.pending ++ Deed.messages queue deeds := by
  induction deeds generalizing a with
  | nil => exact (List.append_nil _).symm
  | cons d deeds ih =>
    rw [Deed.messages_cons, ← List.append_assoc, ← messages_step]
    exact ih (a.step queue d)

/-- Nobody was known earlier who is not known later. -/
def Faithful (a : Attendance C) : Prop :=
  ∀ visit ∈ a.seen, visit.1 ⊆ a.known

theorem Faithful.step (h : a.Faithful) (d : Deed C) : (a.step queue d).Faithful := by
  cases d with
  | enlist e =>
    intro visit hvisit
    exact List.Subset.trans (h visit hvisit) (List.subset_append_left _ _)
  | send other m =>
    rw [Attendance.step]
    split <;> exact h
  | round =>
    rw [Attendance.step]
    rcases a.come_cases with hcome | ⟨m, pending, -, hcome⟩
    · rwa [hcome]
    · rw [hcome]
      refine fun visit hvisit => ?_
      rcases List.mem_append.mp hvisit with hvisit | hvisit
      · exact h visit hvisit
      · rw [List.mem_singleton.mp hvisit]
        exact List.Subset.refl _
  | pass duration => exact h

theorem Faithful.run (h : a.Faithful) (deeds : List (Deed C)) : (a.run queue deeds).Faithful := by
  induction deeds generalizing a with
  | nil => exact h
  | cons d deeds ih => exact ih (h.step d)

theorem Faithful.drain (h : a.Faithful) : a.drain.Faithful := by
  unfold Attendance.drain
  split
  · exact h
  · refine fun visit hvisit => ?_
    rcases List.mem_append.mp hvisit with hvisit | hvisit
    · exact h visit hvisit
    · obtain ⟨m, -, rfl⟩ := List.mem_map.mp hvisit
      exact List.Subset.refl _

theorem faithful_of (queue : String) (deeds : List (Deed C)) : (of queue deeds).Faithful :=
  Faithful.drain (Faithful.run (a := start) (List.forall_mem_nil _) deeds)

/-- In the end everybody is known. -/
@[simp]
theorem known_of (queue : String) (deeds : List (Deed C)) :
    (of queue deeds).known = Deed.enlistments deeds := by
  have hrun : (start.run queue deeds).known = Deed.enlistments deeds := known_run start deeds
  rw [of, drain]
  split <;> exact hrun

/-- If there are handlers at all, every message is come to, in the order of sending. -/
theorem seen_of {deeds : List (Deed C)} (h : Deed.enlistments deeds ≠ []) :
    (of queue deeds).seen.map Prod.snd = Deed.messages queue deeds := by
  have hrun : (start.run queue deeds).known = Deed.enlistments deeds := known_run start deeds
  rw [of, drain, if_neg (by rwa [hrun]), List.map_append, List.map_map, Function.comp_def,
    List.map_id']
  exact messages_run start deeds

/-- Then nothing is left. -/
theorem pending_of {deeds : List (Deed C)} (h : Deed.enlistments deeds ≠ []) :
    (of queue deeds).pending = [] := by
  have hrun : (start.run queue deeds).known = Deed.enlistments deeds := known_run start deeds
  rw [of, drain, if_neg (by rwa [hrun])]

/-! ## Coming in time -/

/-- Everybody who takes a message of a list can read it. -/
def Readable (known : List (Enlistment C)) (messages : List Message) : Prop :=
  ∀ e ∈ known, ∀ m ∈ messages, e.Takes m → (m.decode e.kind).isSome = true

/-- What can be read is given to whoever takes it. -/
theorem isSome_given?_iff {e : Enlistment C} {m : Message}
    (h : e.Takes m → (m.decode e.kind).isSome = true) :
    (e.given? m).isSome = true ↔ e.Takes m := by
  unfold Enlistment.given?
  split
  · rename_i htakes
    rw [Option.isSome_map]
    exact ⟨fun _ => htakes, h⟩
  · rename_i htakes
    exact ⟨nofun, fun h => absurd h htakes⟩

/-- A message was given to somebody when the consumer came to it, exactly if somebody who was known
then takes it. -/
theorem Faithful.any_given?_iff (h : a.Faithful)
    (hreadable : Readable a.known (a.seen.map Prod.snd))
    {visit : List (Enlistment C) × Message} (hvisit : visit ∈ a.seen) :
    (visit.1.any fun e => (e.given? visit.2).isSome) = true ↔ ∃ e ∈ visit.1, e.Takes visit.2 := by
  rw [List.any_eq_true]
  refine exists_congr fun e => and_congr_right fun hmem => isSome_given?_iff ?_
  exact hreadable e (h visit hvisit hmem) visit.2 (List.mem_map_of_mem hvisit)

/-- The messages of a list that somebody takes. -/
def expected (known : List (Enlistment C)) (messages : List Message) : List Message :=
  messages.filter fun m => known.any fun e => e.Takes m

/-- Of the messages that were come to, those that somebody takes were handled exactly if the
consumer came to none of them too early. -/
theorem Faithful.handled_eq_iff (h : a.Faithful)
    (hreadable : Readable a.known (a.seen.map Prod.snd)) :
    a.handled = expected a.known (a.seen.map Prod.snd) ↔ a.Punctual := by
  have hexpected : ∀ visit : List (Enlistment C) × Message,
      (a.known.any fun e => e.Takes visit.2) = true ↔ ∃ e ∈ a.known, e.Takes visit.2 := by
    intro visit
    simp only [List.any_eq_true, decide_eq_true_eq]
  rw [handled, expected, List.filter_map]
  constructor
  · intro hequal visit hvisit hexists
    -- What was handled is a part of what could be, and of the same length.
    have hpart : a.seen.filter (fun visit => visit.1.any fun e => (e.given? visit.2).isSome) =
        (a.seen.filter ((fun m => a.known.any fun e => e.Takes m) ∘ Prod.snd)).filter
          fun visit => visit.1.any fun e => (e.given? visit.2).isSome := by
      rw [List.filter_filter]
      refine List.filter_congr fun visit hvisit => ?_
      rw [Bool.eq_iff_iff, Bool.and_eq_true, iff_self_and, h.any_given?_iff hreadable hvisit]
      rintro ⟨e, hmem, htakes⟩
      exact (hexpected visit).mpr ⟨e, h visit hvisit hmem, htakes⟩
    have hlength := congrArg List.length hequal
    rw [List.length_map, List.length_map, hpart, List.length_filter_eq_length_iff] at hlength
    refine (h.any_given?_iff hreadable hvisit).mp (hlength visit ?_)
    exact List.mem_filter.mpr ⟨hvisit, (hexpected visit).mpr hexists⟩
  · intro hpunctual
    refine congrArg _ (List.filter_congr fun visit hvisit => ?_)
    rw [Bool.eq_iff_iff, h.any_given?_iff hreadable hvisit]
    refine Iff.trans ⟨?_, hpunctual visit hvisit⟩ (hexpected visit).symm
    rintro ⟨e, hmem, htakes⟩
    exact ⟨e, h visit hvisit hmem, htakes⟩

/-- The consumer came to nothing before everybody was known. -/
def Assembled (a : Attendance C) : Prop :=
  ∀ visit ∈ a.seen, visit.1 = a.known

theorem Assembled.punctual (h : a.Assembled) : a.Punctual := by
  intro visit hvisit hexists
  rwa [h visit hvisit]

theorem Assembled.run (h : a.Assembled) {deeds : List (Deed C)}
    (hnone : Deed.enlistments deeds = []) : (a.run queue deeds).Assembled := by
  induction deeds generalizing a with
  | nil => exact h
  | cons d deeds ih =>
    rw [Deed.enlistments_cons, List.append_eq_nil_iff] at hnone
    refine ih ?_ hnone.2
    cases d with
    | enlist e => cases hnone.1
    | send other m =>
      rw [step]
      split <;> exact h
    | round =>
      rw [step]
      rcases a.come_cases with hcome | ⟨m, pending, -, hcome⟩
      · rwa [hcome]
      · rw [hcome]
        exact List.forall_mem_append.mpr ⟨h, List.forall_mem_singleton.mpr rfl⟩
    | pass duration => exact h

theorem Assembled.drain (h : a.Assembled) : a.drain.Assembled := by
  unfold Attendance.drain
  split
  · exact h
  · refine List.forall_mem_append.mpr ⟨h, fun visit hvisit => ?_⟩
    obtain ⟨m, -, rfl⟩ := List.mem_map.mp hvisit
    rfl

/-- Without turns nothing is come to. -/
theorem seen_run_of_no_round (a : Attendance C) {deeds : List (Deed C)}
    (hnone : ∀ d ∈ deeds, d ≠ .round) : (a.run queue deeds).seen = a.seen := by
  induction deeds generalizing a with
  | nil => rfl
  | cons d deeds ih =>
    obtain ⟨hfirst, hrest⟩ := List.forall_mem_cons.mp hnone
    refine (ih (a.step queue d) hrest).trans ?_
    cases d with
    | enlist e => rfl
    | send other m =>
      rw [step]
      split <;> rfl
    | round => exact absurd rfl hfirst
    | pass duration => rfl

variable {deeds deeds' : List (Deed C)}

/-- Every message that somebody takes is handled exactly if the consumer does not come to it too
early. -/
theorem handled_of_eq_iff (hsome : Deed.enlistments deeds ≠ [])
    (hreadable : Readable (Deed.enlistments deeds) (Deed.messages queue deeds)) :
    (of queue deeds).handled = expected (Deed.enlistments deeds) (Deed.messages queue deeds) ↔
      (of queue deeds).Punctual := by
  rw [← known_of queue deeds, ← seen_of hsome] at hreadable ⊢
  exact (faithful_of queue deeds).handled_eq_iff hreadable

/-- The consumer comes to nothing too early if it takes no turn before the last handler is taken
in. -/
theorem punctual_of_late (before : List (Deed C)) {after : List (Deed C)}
    (hbefore : ∀ d ∈ before, d ≠ .round) (hafter : Deed.enlistments after = []) :
    (of queue (before ++ after)).Punctual := by
  have hstart : (start.run queue before).Assembled := by
    intro visit hvisit
    rw [seen_run_of_no_round start hbefore] at hvisit
    cases hvisit
  have hrun : start.run queue (before ++ after) = (start.run queue before).run queue after :=
    List.foldl_append
  rw [of, hrun]
  exact (hstart.run hafter).drain.punctual

/-- The order in which handlers are taken in does not matter to what is expected. -/
theorem expected_eq_of_perm {known known' : List (Enlistment C)} (h : known.Perm known')
    (messages : List Message) : expected known messages = expected known' messages := by
  refine List.filter_congr fun m _ => ?_
  rw [Bool.eq_iff_iff, List.any_eq_true, List.any_eq_true]
  exact exists_congr fun e => and_congr_left fun _ => h.mem_iff

end Attendance
end Switchboard
