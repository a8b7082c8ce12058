import Switchboard.Proofs.Containment.Registries
import Switchboard.Proofs.Event.Roster
import Switchboard.Proofs.Query.Shelving

/-!
# Registering in place

A registry that works in place puts the shelf or slot of a tag up before it looks whether it may
take something in, and a slot of event handlers keeps the names in a column of their own.  So a
refusal could leave an empty shelf behind, and the two columns could get out of line.  Neither
happens: registering in place does what {lit}`QueryRegistry.register` and
{lit}`EventRegistry.register` do.

Main results:

- Theorem {lit}`QueryRegistry.takeInPlace_eq`: queries are taken in place as they are otherwise.
- Theorem {lit}`EventBoard.mirrors_takeInPlace`: so are handlers of events.
- Theorem {lit}`EventBoard.aligned_after`: the names stay in line with the handlers.
-/

namespace Switchboard

variable {C : Catalogue}

/-! ## Queries -/

namespace QueryRegistry

/-- How a registry takes queries. -/
def intake : Intake (QueryRegistry C) (QueryOffer C) :=
  .ofRegister offer

/-- Take in a query in place: the shelf of its tag is put up first. -/
def takeInPlace : Intake (QueryRegistry C) (QueryOffer C) := fun r o =>
  let shelf := r.shelf o.tag
  let r : QueryRegistry C := ⟨r.shelves.insert o.tag shelf⟩
  if (shelf.find? o.1).isSome then
    (.error (.registration (.queryTaken o.tag (C.answerName o.1))), r)
  else
    (.ok (), ⟨r.shelves.insert o.tag (shelf.insert o.1 o.2)⟩)

/-- A taken pair has its shelf, so putting it up changes nothing. -/
theorem insert_shelf_of_taken {r : QueryRegistry C} {tag : String} {answer : C.Answer}
    (htaken : ((r.shelf tag).find? answer).isSome = true) :
    r.shelves.insert tag (r.shelf tag) = r.shelves := by
  unfold QueryRegistry.shelf at htaken ⊢
  cases hshelf : r.shelves.find? tag with
  | none =>
    rw [hshelf] at htaken
    cases htaken
  | some shelf => exact Dictionary.insert_eq_self hshelf

/-- Queries are taken in place as they are otherwise. -/
theorem takeInPlace_eq : (takeInPlace : Intake (QueryRegistry C) (QueryOffer C)) = intake := by
  funext r o
  unfold takeInPlace intake
  by_cases htaken : ((r.shelf o.tag).find? o.1).isSome = true
  · rw [Intake.ofRegister_of_error (register_eq_error_iff.mpr ⟨htaken, rfl⟩)]
    simp only [if_pos htaken, insert_shelf_of_taken htaken]
  · rw [Intake.ofRegister_of_ok (offer_of_free (Option.not_isSome_iff_eq_none.mp htaken))]
    simp only [if_neg htaken, Dictionary.insert_insert]

/-- Taking queries in one after the other. -/
theorem intake_after (r : QueryRegistry C) (offers : List (QueryOffer C)) :
    intake.after r offers = r.registerAll offers := by
  unfold registerAll
  refine Intake.after_ofRegister (fun r o r' h => ?_) (fun r o e h => ?_) r offers
  all_goals
    unfold QueryRegistry.offer at h
    rw [h]

end QueryRegistry

/-! ## Events -/

/-- A slot of event handlers in two columns, one for the handlers and one for their names. -/
structure EventColumns (C : Catalogue) where
  /-- The payload type that the handlers take. -/
  kind : C.Kind
  handlers : List (EventHandler (C.Value kind))
  names : List String

/-- The handlers of events in columns, by tag. -/
structure EventBoard (C : Catalogue) where
  slots : Dictionary (EventColumns C)

namespace EventBoard

/-- The board without handlers. -/
def empty : EventBoard C :=
  ⟨∅⟩

/-- Take in a handler in place: the slot of its tag is put up first, for its payload type, and the
two columns grow one after the other. -/
def takeInPlace : Intake (EventBoard C) (EventOffer C) := fun b offer =>
  let columns := (b.slots.find? offer.tag).getD ⟨offer.1, [], []⟩
  let b : EventBoard C := ⟨b.slots.insert offer.tag columns⟩
  if h : offer.1 = columns.kind then
    let named := { columns with names := columns.names ++ [offer.2.name] }
    (.ok (), ⟨b.slots.insert offer.tag
      { named with handlers := columns.handlers ++ [h ▸ offer.2] }⟩)
  else
    (.error (.registration (.eventType offer.tag)), b)

/-- The registry that a board shows if the names are left out. -/
def registry (b : EventBoard C) : EventRegistry C :=
  ⟨b.slots.mapWithKey fun _ columns => ⟨columns.kind, columns.handlers⟩⟩

/-- Whether a tag has a slot. -/
def isRegistered (b : EventBoard C) (tag : String) : Bool :=
  b.slots.contains tag

/-- The tags that have slots, in increasing order. -/
def eventTypes (b : EventBoard C) : List String :=
  b.slots.keys

/-- The column of names under a tag. -/
def handlerNames (b : EventBoard C) (tag : String) : List String :=
  match b.slots.find? tag with
  | none => []
  | some columns => columns.names

/-- The length of the column of names under a tag. -/
def handlerCount (b : EventBoard C) (tag : String) : Nat :=
  (b.handlerNames tag).length

/-- The columns of every slot are in line. -/
def Aligned (b : EventBoard C) : Prop :=
  ∀ tag columns, b.slots.find? tag = some columns →
    columns.names = columns.handlers.map EventHandler.name

/-- What becomes of a board: a handler that is taken in stands, with its name, behind those of its
tag, all of which take the same payload type; a refusal changes nothing. -/
theorem takeInPlace_cases (b : EventBoard C) (offer : EventOffer C) :
    (∃ handlers names, (b.slots.find? offer.tag = none ∧ handlers = [] ∧ names = [] ∨
          b.slots.find? offer.tag = some ⟨offer.1, handlers, names⟩) ∧
        takeInPlace b offer = (.ok (), ⟨b.slots.insert offer.tag
          ⟨offer.1, handlers ++ [offer.2], names ++ [offer.2.name]⟩⟩)) ∨
    ∃ columns, b.slots.find? offer.tag = some columns ∧ offer.1 ≠ columns.kind ∧
      takeInPlace b offer = (.error (.registration (.eventType offer.tag)), b) := by
  unfold takeInPlace
  cases hslot : b.slots.find? offer.tag with
  | none =>
    left
    refine ⟨[], [], .inl ⟨rfl, rfl, rfl⟩, ?_⟩
    simp only [Option.getD_none, dif_pos, Dictionary.insert_insert, List.nil_append]
  | some columns =>
    obtain ⟨kind, handlers, names⟩ := columns
    by_cases hkind : offer.1 = kind
    · subst hkind
      left
      refine ⟨handlers, names, .inr rfl, ?_⟩
      simp only [Option.getD_some, dif_pos, Dictionary.insert_insert]
    · right
      refine ⟨_, rfl, hkind, ?_⟩
      simp only [Option.getD_some, hkind, dif_neg, not_false_eq_true,
        Dictionary.insert_eq_self hslot]

/-- A refusal changes nothing on a board. -/
theorem discreet_takeInPlace :
    (takeInPlace : Intake (EventBoard C) (EventOffer C)).Discreet := by
  intro b offer e herror
  rcases b.takeInPlace_cases offer with ⟨_, _, -, heq⟩ | ⟨_, -, -, heq⟩
  · rw [heq] at herror
    cases herror
  · rw [heq]

/-- Handlers are taken in place as they are otherwise. -/
theorem mirrors_takeInPlace :
    Intake.Mirrors registry (takeInPlace : Intake (EventBoard C) (EventOffer C))
      EventRegistry.intake := by
  intro b offer
  have hfind : b.registry.slots.find? (C.tag offer.1) =
      (b.slots.find? offer.tag).map fun columns => ⟨columns.kind, columns.handlers⟩ :=
    Dictionary.find?_mapWithKey _ b.slots offer.tag
  rcases b.takeInPlace_cases offer with
    ⟨handlers, names, hbefore, heq⟩ | ⟨columns, hslot, hkind, heq⟩
  · have hhandlers : b.registry.slots.find? (C.tag offer.1) = none ∧ handlers = [] ∨
        b.registry.slots.find? (C.tag offer.1) = some ⟨offer.1, handlers⟩ := by
      rw [hfind]
      rcases hbefore with ⟨hnone, hnil, -⟩ | hsome
      · exact .inl ⟨by rw [hnone]; rfl, hnil⟩
      · exact .inr (by rw [hsome]; rfl)
    have hregister : b.registry.register offer.1 offer.2 = .ok _ :=
      EventRegistry.register_eq_ok_iff.mpr ⟨handlers, hhandlers, rfl⟩
    refine (Intake.ofRegister_of_ok hregister).trans ?_
    simp only [heq, registry, Dictionary.mapWithKey_insert]
    rfl
  · have hregister : b.registry.register offer.1 offer.2 =
        .error (.registration (.eventType (C.tag offer.1))) := by
      unfold EventRegistry.register
      rw [hfind, hslot]
      exact dif_neg hkind
    refine (Intake.ofRegister_of_error hregister).trans ?_
    rw [heq]
    rfl

/-- A handler that is taken in keeps the columns in line. -/
theorem Aligned.takeInPlace {b : EventBoard C} (h : b.Aligned) (offer : EventOffer C) :
    (takeInPlace b offer).2.Aligned := by
  rcases b.takeInPlace_cases offer with ⟨handlers, names, hbefore, heq⟩ | ⟨_, -, -, heq⟩
  · rw [heq]
    intro tag columns hfind
    rw [Dictionary.find?_insert] at hfind
    split at hfind
    · cases hfind
      have hnames : names = handlers.map EventHandler.name := by
        rcases hbefore with ⟨-, rfl, rfl⟩ | hsome
        · rfl
        · exact h offer.tag _ hsome
      rw [hnames, List.map_append]
      rfl
    · exact h tag columns hfind
  · rw [heq]
    exact h

/-- Whatever is handed in, the names stay in line with the handlers. -/
theorem aligned_after (offers : List (EventOffer C)) :
    (EventBoard.takeInPlace.after empty offers).Aligned := by
  refine Intake.after_induction (P := fun b _ => b.Aligned) discreet_takeInPlace ?_ ?_ offers
  · intro tag columns hfind
    cases hfind
  · intro b _ offer haligned _
    exact haligned.takeInPlace offer

/-- On a board with its columns in line, the names are those of the handlers. -/
theorem Aligned.handlerNames_eq {b : EventBoard C} (h : b.Aligned) (tag : String) :
    b.handlerNames tag = b.registry.handlerNames tag := by
  unfold handlerNames EventRegistry.handlerNames registry
  rw [Dictionary.find?_mapWithKey]
  cases hslot : b.slots.find? tag with
  | none => rfl
  | some columns => exact h tag columns hslot

theorem isRegistered_registry (b : EventBoard C) (tag : String) :
    b.registry.isRegistered tag = b.isRegistered tag :=
  Dictionary.contains_mapWithKey _ b.slots tag

theorem eventTypes_registry (b : EventBoard C) : b.registry.eventTypes = b.eventTypes :=
  Dictionary.keys_mapWithKey _ b.slots

end EventBoard
end Switchboard
