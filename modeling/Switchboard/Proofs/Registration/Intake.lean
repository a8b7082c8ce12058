import Switchboard.Error

/-!
# Handing things in

A registry answers whatever is handed in and goes on from what it is then.  This module looks at
histories of that: which things were taken in, what became of the registry, and what the refused
ones had to do with it.

Main results:

- Definition {lit}`Intake.Discreet`: a refusal leaves the registry as it was.
- Theorem {lit}`Intake.settled_after`: then only what was taken in matters.
- Theorem {lit}`Intake.after_induction`: an invariant of a registry and what it took in.
- Theorem {lit}`Intake.Mirrors.after_eq`: a registry seen through a function of its state.
-/

namespace Switchboard

/-- How a registry takes what is handed in: what it answers, and what it is then. -/
abbrev Intake (ρ ι : Type) :=
  ρ → ι → Except DispatchError Unit × ρ

namespace Intake

variable {ρ ρ' ι : Type}

/-- A registry after things were handed in one after the other. -/
def after (take : Intake ρ ι) (r : ρ) (offers : List ι) : ρ :=
  offers.foldl (fun r offer => (take r offer).2) r

/-- What was taken in of the things that were handed in one after the other. -/
def admitted (take : Intake ρ ι) (r : ρ) : List ι → List ι
  | [] => []
  | offer :: rest =>
    match (take r offer).1 with
    | .ok _ => offer :: take.admitted (take r offer).2 rest
    | .error _ => take.admitted (take r offer).2 rest

/-- A refusal leaves the registry as it was. -/
def Discreet (take : Intake ρ ι) : Prop :=
  ∀ r offer e, (take r offer).1 = .error e → (take r offer).2 = r

/-- A registry owes all that it is to what it took in: it is the one that was handed nothing else,
and that took in all of it. -/
structure Settled (take : Intake ρ ι) (start : ρ) (taken : List ι) (r : ρ) : Prop where
  after_taken : take.after start taken = r
  admitted_taken : take.admitted start taken = taken

/-- The intake of a registry that answers an error or what it is then. -/
def ofRegister (register : ρ → ι → Except DispatchError ρ) : Intake ρ ι := fun r offer =>
  match register r offer with
  | .ok r' => (.ok (), r')
  | .error e => (.error e, r)

variable {take : Intake ρ ι}

/-! ## Histories -/

@[simp]
theorem after_nil (r : ρ) : take.after r [] = r :=
  rfl

@[simp]
theorem after_cons (r : ρ) (offer : ι) (rest : List ι) :
    take.after r (offer :: rest) = take.after (take r offer).2 rest :=
  rfl

theorem admitted_of_ok {r : ρ} {offer : ι} (h : (take r offer).1 = .ok ()) (rest : List ι) :
    take.admitted r (offer :: rest) = offer :: take.admitted (take r offer).2 rest := by
  rw [admitted, h]

theorem admitted_of_error {r : ρ} {offer : ι} {e : DispatchError}
    (h : (take r offer).1 = .error e) (rest : List ι) :
    take.admitted r (offer :: rest) = take.admitted (take r offer).2 rest := by
  rw [admitted, h]

/-- Handing in only what was taken in leads to the same registry. -/
theorem after_admitted (hdiscreet : take.Discreet) (r : ρ) (offers : List ι) :
    take.after r (take.admitted r offers) = take.after r offers := by
  induction offers generalizing r with
  | nil => rfl
  | cons offer rest ih =>
    cases hanswer : (take r offer).1 with
    | ok _ =>
      rw [admitted_of_ok hanswer, after_cons, after_cons]
      exact ih (take r offer).2
    | error e =>
      rw [admitted_of_error hanswer, after_cons, hdiscreet r offer e hanswer]
      exact ih r

/-- What was taken in is taken in again if nothing else is handed in. -/
theorem admitted_admitted (hdiscreet : take.Discreet) (r : ρ) (offers : List ι) :
    take.admitted r (take.admitted r offers) = take.admitted r offers := by
  induction offers generalizing r with
  | nil => rfl
  | cons offer rest ih =>
    cases hanswer : (take r offer).1 with
    | ok _ =>
      rw [admitted_of_ok hanswer, admitted_of_ok hanswer]
      exact congrArg (offer :: ·) (ih (take r offer).2)
    | error e =>
      rw [admitted_of_error hanswer, hdiscreet r offer e hanswer]
      exact ih r

/-- After every history a registry whose refusals leave it as it was is settled. -/
theorem settled_after (hdiscreet : take.Discreet) (r : ρ) (offers : List ι) :
    take.Settled r (take.admitted r offers) (take.after r offers) :=
  ⟨after_admitted hdiscreet r offers, admitted_admitted hdiscreet r offers⟩

/-- What holds of a registry that took nothing in, and is kept by whatever is taken in, holds of the
registry and what it took in over every history. -/
theorem after_induction {P : ρ → List ι → Prop} (hdiscreet : take.Discreet) {r : ρ}
    (hstart : P r [])
    (hstep : ∀ r taken offer, P r taken → (take r offer).1 = .ok () →
      P (take r offer).2 (taken ++ [offer])) (offers : List ι) :
    P (take.after r offers) (take.admitted r offers) := by
  -- The induction is on what is still to be handed in, after some was taken in.
  suffices hrun : ∀ taken, P r taken → P (take.after r offers) (taken ++ take.admitted r offers) by
    exact hrun [] hstart
  clear hstart
  induction offers generalizing r with
  | nil =>
    intro taken h
    rw [admitted, List.append_nil]
    exact h
  | cons offer rest ih =>
    intro taken h
    cases hanswer : (take r offer).1 with
    | ok _ =>
      have hnext := ih (taken ++ [offer]) (hstep r taken offer h hanswer)
      rw [List.append_assoc] at hnext
      rw [admitted_of_ok hanswer]
      exact hnext
    | error e =>
      have hsame : (take r offer).2 = r := hdiscreet r offer e hanswer
      rw [admitted_of_error hanswer, after_cons, hsame]
      exact ih taken h

theorem ofRegister_of_ok {register : ρ → ι → Except DispatchError ρ} {r r' : ρ} {offer : ι}
    (h : register r offer = .ok r') : ofRegister register r offer = (.ok (), r') := by
  rw [ofRegister, h]

theorem ofRegister_of_error {register : ρ → ι → Except DispatchError ρ} {r : ρ} {offer : ι}
    {e : DispatchError} (h : register r offer = .error e) :
    ofRegister register r offer = (.error e, r) := by
  rw [ofRegister, h]

/-- To hand things in one after the other is to go on from what each registration answers, and from
what there was if it answers an error. -/
theorem after_ofRegister {register : ρ → ι → Except DispatchError ρ} {step : ρ → ι → ρ}
    (hok : ∀ r offer r', register r offer = .ok r' → step r offer = r')
    (herror : ∀ r offer e, register r offer = .error e → step r offer = r) (r : ρ)
    (offers : List ι) : (ofRegister register).after r offers = offers.foldl step r := by
  induction offers generalizing r with
  | nil => rfl
  | cons offer rest ih =>
    rw [after_cons, ih, List.foldl_cons]
    cases hregister : register r offer with
    | ok r' => rw [ofRegister_of_ok hregister, hok r offer r' hregister]
    | error e => rw [ofRegister_of_error hregister, herror r offer e hregister]

theorem discreet_ofRegister (register : ρ → ι → Except DispatchError ρ) :
    (ofRegister register).Discreet := by
  intro r offer e herror
  cases hregister : register r offer with
  | ok r' =>
    rw [ofRegister_of_ok hregister] at herror
    cases herror
  | error e' => rw [ofRegister_of_error hregister]

/-- A registry answers with no error exactly if it has something to go on with. -/
theorem ofRegister_eq_ok_iff {register : ρ → ι → Except DispatchError ρ} {r : ρ} {offer : ι} :
    (ofRegister register r offer).1 = .ok () ↔
      register r offer = .ok (ofRegister register r offer).2 := by
  cases hregister : register r offer with
  | ok r' =>
    rw [ofRegister_of_ok hregister]
    exact ⟨fun _ => rfl, fun _ => rfl⟩
  | error e =>
    rw [ofRegister_of_error hregister]
    constructor
    · intro h
      cases h
    · intro h
      cases h

/-! ## One registry seen as another -/

/-- One registry takes in what another does, and is then what becomes of the other through a
function of its state. -/
def Mirrors (f : ρ → ρ') (take : Intake ρ ι) (take' : Intake ρ' ι) : Prop :=
  ∀ r offer, take' (f r) offer = ((take r offer).1, f (take r offer).2)

namespace Mirrors

variable {f : ρ → ρ'} {take' : Intake ρ' ι}

/-- A mirror shows a registry through every history. -/
theorem after_eq (h : Mirrors f take take') (r : ρ) (offers : List ι) :
    take'.after (f r) offers = f (take.after r offers) := by
  induction offers generalizing r with
  | nil => rfl
  | cons offer rest ih => rw [after_cons, after_cons, h r offer, ih]

/-- A mirror takes in the same. -/
theorem admitted_eq (h : Mirrors f take take') (r : ρ) (offers : List ι) :
    take'.admitted (f r) offers = take.admitted r offers := by
  induction offers generalizing r with
  | nil => rfl
  | cons offer rest ih => rw [admitted, admitted, h r offer, ih]

end Mirrors
end Intake
end Switchboard
