import Switchboard.Event.Registry
import Switchboard.Proofs.Registration.Intake

/-!
# Which handlers an event type has

Handlers of events are handed in at a registry one after the other.  Under each tag stand those that
were taken in for it, in their order, all for one payload type; a tag without handlers has no slot.

Main results:

- Definition {lit}`EventRegistry.roster`: the handlers under a tag.
- Theorem {lit}`EventRegistry.keeps_after`: they are those that were taken in for it.
- Theorem {lit}`EventRegistry.Keeps.slot_of_mem`: the slot of a payload type that has handlers.
-/

namespace Switchboard

variable {C : Catalogue}

/-- A handler that is handed in, under its payload type. -/
abbrev EventOffer (C : Catalogue) :=
  Σ kind : C.Kind, EventHandler (C.Value kind)

/-- The tag that a handler is handed in for. -/
def EventOffer.tag (offer : EventOffer C) : String :=
  C.tag offer.1

namespace EventRegistry

/-- How a registry takes handlers. -/
def intake : Intake (EventRegistry C) (EventOffer C) :=
  .ofRegister fun r offer => r.register offer.1 offer.2

/-- The handlers under a tag, each with its payload type. -/
def roster (r : EventRegistry C) (tag : String) : List (EventOffer C) :=
  match r.slots.find? tag with
  | none => []
  | some slot => slot.handlers.map fun handler => ⟨slot.kind, handler⟩

/-- The names of the handlers are told in the order of the handlers. -/
theorem handlerNames_eq (r : EventRegistry C) (tag : String) :
    r.handlerNames tag = (r.roster tag).map fun offer => offer.2.name := by
  unfold handlerNames roster
  cases r.slots.find? tag with
  | none => rfl
  | some slot =>
    rw [List.map_map]
    rfl

/-- A handler that is taken in stands behind those that its tag had. -/
theorem roster_of_register {r r' : EventRegistry C} {offer : EventOffer C}
    (h : r.register offer.1 offer.2 = .ok r') (tag : String) :
    r'.roster tag = r.roster tag ++ if offer.tag = tag then [offer] else [] := by
  obtain ⟨kind, handler⟩ := offer
  obtain ⟨before, hbefore, rfl⟩ := register_eq_ok_iff.mp h
  unfold roster EventOffer.tag
  rw [Dictionary.find?_insert]
  by_cases htag : C.tag kind = tag
  · subst htag
    rw [if_pos rfl, if_pos rfl]
    rcases hbefore with ⟨hnone, hnew⟩ | hsome
    · rw [hnone, hnew]
      rfl
    · rw [hsome]
      exact List.map_append
  · rw [if_neg (Ne.symm htag), if_neg htag, List.append_nil]

/-- A registry keeps the handlers that it took in: those of a tag stand under it in their order, in
a slot of their payload type, and there is no slot without handlers. -/
structure Keeps (r : EventRegistry C) (taken : List (EventOffer C)) : Prop where
  roster : ∀ tag, r.roster tag = taken.filter fun offer => offer.tag = tag
  tag : ∀ tag slot, r.slots.find? tag = some slot → C.tag slot.kind = tag
  nonempty : ∀ tag slot, r.slots.find? tag = some slot → slot.handlers ≠ []

theorem keeps_empty : Keeps (empty : EventRegistry C) [] where
  roster _ := rfl
  tag _ _ h := by cases h
  nonempty _ _ h := by cases h

/-- A registry that takes one more handler in keeps it too. -/
theorem Keeps.register {r r' : EventRegistry C} {taken : List (EventOffer C)}
    {offer : EventOffer C} (hkeeps : r.Keeps taken)
    (h : r.register offer.1 offer.2 = .ok r') : r'.Keeps (taken ++ [offer]) := by
  have hslot : ∀ tag slot, r'.slots.find? tag = some slot →
      r.slots.find? tag = some slot ∨ C.tag slot.kind = tag ∧ slot.handlers ≠ [] := by
    intro tag slot hfind
    obtain ⟨before, -, rfl⟩ := register_eq_ok_iff.mp h
    rw [Dictionary.find?_insert] at hfind
    split at hfind
    · rename_i htag
      cases hfind
      exact .inr ⟨htag.symm, List.concat_ne_nil _ _⟩
    · exact .inl hfind
  constructor
  · intro tag
    rw [roster_of_register h, hkeeps.roster, List.filter_append]
    simp only [List.filter_cons, List.filter_nil, decide_eq_true_eq]
  · intro tag slot hfind
    rcases hslot tag slot hfind with hold | ⟨htag, -⟩
    · exact hkeeps.tag tag slot hold
    · exact htag
  · intro tag slot hfind
    rcases hslot tag slot hfind with hold | ⟨-, hnonempty⟩
    · exact hkeeps.nonempty tag slot hold
    · exact hnonempty

/-- Whatever is handed in at a registry, it keeps what it took in. -/
theorem keeps_after (offers : List (EventOffer C)) :
    Keeps (intake.after empty offers) (intake.admitted empty offers) := by
  refine Intake.after_induction (Intake.discreet_ofRegister _) keeps_empty ?_ offers
  intro r taken offer hkeeps hanswer
  exact hkeeps.register (Intake.ofRegister_eq_ok_iff.mp hanswer)

namespace Keeps

variable {r : EventRegistry C} {taken : List (EventOffer C)}

/-- A tag is known exactly if a handler was taken in for it. -/
theorem isRegistered_iff (h : r.Keeps taken) (tag : String) :
    r.isRegistered tag = true ↔ ∃ offer ∈ taken, offer.tag = tag := by
  have hroster : (∃ offer ∈ taken, offer.tag = tag) ↔ r.roster tag ≠ [] := by
    rw [h.roster, ne_eq, List.filter_eq_nil_iff]
    simp
  rw [hroster, isRegistered, Dictionary.contains, EventRegistry.roster]
  cases hslot : r.slots.find? tag with
  | none => simp
  | some slot => simp [h.nonempty tag slot hslot]

/-- A payload type for which a handler was taken in has a slot with all the handlers that were taken
in for its tag. -/
theorem slot_of_mem (h : r.Keeps taken) {offer : EventOffer C} (hmem : offer ∈ taken) :
    ∃ handlers : List (EventHandler (C.Value offer.1)),
      r.slots.find? (C.tag offer.1) = some ⟨offer.1, handlers⟩ ∧
        handlers.map (fun handler => (⟨offer.1, handler⟩ : EventOffer C)) =
          taken.filter fun other => other.tag = C.tag offer.1 := by
  have hoffer : offer ∈ r.roster (C.tag offer.1) := by
    rw [h.roster, List.mem_filter]
    exact ⟨hmem, decide_eq_true rfl⟩
  have hroster := h.roster (C.tag offer.1)
  unfold EventRegistry.roster at hoffer hroster
  cases hslot : r.slots.find? (C.tag offer.1) with
  | none =>
    rw [hslot] at hoffer
    cases hoffer
  | some slot =>
    rw [hslot] at hoffer hroster
    obtain ⟨handler, -, rfl⟩ := List.mem_map.mp hoffer
    exact ⟨slot.handlers, rfl, hroster⟩

end Keeps
end EventRegistry
end Switchboard
