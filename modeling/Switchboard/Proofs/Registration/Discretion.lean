import Switchboard.Proofs.Facade.Refusals
import Switchboard.Proofs.Registration.InPlace

/-!
# Refusals leave no trace

Whatever is handed in at the three registries, in whatever order, and with tags that several payload
types share: what was refused makes no difference.  The registry is the one that was only handed
what it took in, so nothing that is asked of it later, and nothing that is executed or dispatched
on it, can tell.

Main results:

- Definitions {lit}`CommandRegistry.Discreet`, {lit}`QueryRegistry.Discreet` and
  {lit}`EventBoard.Discreet`: what a registry shows of its history.
- Theorem {lit}`refusals_leave_no_trace`: every history of the three registries is discreet.
-/

namespace Switchboard

variable {C : Catalogue}

/-! ## Commands -/

namespace CommandRegistry

/-- How a registry takes handlers. -/
def intake : Intake (CommandRegistry C) (CommandEntry C) :=
  .ofRegister fun r entry => r.register entry.kind entry.handler entry.authorizer

/-- Taking handlers in one after the other. -/
theorem intake_after (r : CommandRegistry C) (entries : List (CommandEntry C)) :
    intake.after r entries = r.registerAll entries := by
  unfold registerAll
  refine Intake.after_ofRegister (fun r entry r' h => ?_) (fun r entry e h => ?_) r entries
  all_goals rw [h]

/-- What a registry finds under a tag is the first entry that was handed in for it. -/
theorem find?_after (entries : List (CommandEntry C)) (tag : String) :
    (intake.after empty entries).entries.find? tag = CommandEntry.firstOf entries tag := by
  rw [intake_after, find?_registerAll]
  exact Option.none_or

/-- An execution goes by what is found under the tag. -/
theorem execute_congr {r r' : CommandRegistry C} {kind : C.Kind}
    (h : r.entries.find? (C.tag kind) = r'.entries.find? (C.tag kind)) (ctx : Context)
    (organisation : Option Uuid) (command : C.Value kind) :
    r.execute ctx organisation command = r'.execute ctx organisation command := by
  unfold execute
  rw [h]

/-- What a registry that was handed entries one after the other, and took some of them in, shows of
that history. -/
structure Discreet (offers taken : List (CommandEntry C)) (r : CommandRegistry C) : Prop where
  /-- It is the registry that was handed nothing else than what it took in. -/
  settled : intake.Settled empty taken r
  /-- A tag is known exactly if an entry was taken in for it, -/
  isRegistered : ∀ tag, r.isRegistered tag = true ↔ ∃ entry ∈ taken, C.tag entry.kind = tag
  /-- and listed exactly if it is known. -/
  commandTypes : ∀ tag, tag ∈ r.commandTypes ↔ r.isRegistered tag = true
  /-- The first entry that was handed in for a tag was the first that was taken in for it. -/
  first : ∀ tag, CommandEntry.firstOf taken tag = CommandEntry.firstOf offers tag
  /-- Its dependencies are told, -/
  dependencies : ∀ tag, r.dependencies tag =
    (CommandEntry.firstOf offers tag).map fun entry => entry.handler.dependencies
  /-- and it is what runs, as if nothing else had been handed in. -/
  runs : ∀ (kind : C.Kind) (entry : CommandEntry C),
    CommandEntry.firstOf offers (C.tag kind) = some entry →
      ∀ (ctx : Context) (organisation : Option Uuid) (command : C.Value kind),
        r.execute ctx organisation command =
          (intake.after empty [entry]).execute ctx organisation command

/-- A tag has a first entry among those that were handed in exactly if it has one. -/
theorem isSome_firstOf_iff {entries : List (CommandEntry C)} {tag : String} :
    (CommandEntry.firstOf entries tag).isSome = true ↔
      ∃ entry ∈ entries, C.tag entry.kind = tag := by
  unfold CommandEntry.firstOf
  simp only [List.find?_isSome, decide_eq_true_eq]

/-- Every history of a registry of commands is discreet. -/
theorem discreet_after (offers : List (CommandEntry C)) :
    Discreet offers (intake.admitted empty offers) (intake.after empty offers) := by
  have hdiscreet : (intake : Intake (CommandRegistry C) (CommandEntry C)).Discreet :=
    Intake.discreet_ofRegister _
  have hfirst : ∀ tag, CommandEntry.firstOf (intake.admitted empty offers) tag =
      CommandEntry.firstOf offers tag := by
    intro tag
    rw [← find?_after, ← find?_after, Intake.after_admitted hdiscreet]
  constructor
  case settled => exact Intake.settled_after hdiscreet empty offers
  case isRegistered =>
    intro tag
    unfold isRegistered Dictionary.contains
    rw [find?_after, ← hfirst, isSome_firstOf_iff]
  case commandTypes =>
    intro tag
    exact Dictionary.mem_keys_iff
  case first => exact hfirst
  case dependencies =>
    intro tag
    unfold dependencies
    rw [find?_after]
  case runs =>
    intro kind entry hentry ctx organisation command
    have hown : CommandEntry.firstOf [entry] (C.tag kind) = some entry := by
      have htag : C.tag entry.kind = C.tag kind := by
        simpa using List.find?_some hentry
      simp [CommandEntry.firstOf, htag]
    apply execute_congr
    rw [find?_after, find?_after, hentry, hown]

end CommandRegistry

/-! ## Queries -/

namespace QueryRegistry

/-- An execution goes by the shelf under the tag, and there by the result type. -/
theorem execute_congr {r r' : QueryRegistry C} {kind : C.Kind} {answer : C.Answer}
    {entry : QueryEntry C answer} (h : (r.shelf (C.tag kind)).find? answer = some entry)
    (h' : (r'.shelf (C.tag kind)).find? answer = some entry) (ctx : Context)
    (criteria : C.Value kind) :
    r.execute ctx criteria answer = r'.execute ctx criteria answer := by
  unfold QueryRegistry.shelf at h h'
  unfold execute
  cases hshelf : r.shelves.find? (C.tag kind) with
  | none =>
    rw [hshelf] at h
    cases h
  | some shelf =>
    cases hshelf' : r'.shelves.find? (C.tag kind) with
    | none =>
      rw [hshelf'] at h'
      cases h'
    | some shelf' =>
      rw [hshelf, Option.getD_some] at h
      rw [hshelf', Option.getD_some] at h'
      simp only [h, h']

/-- What a registry that was handed queries one after the other, and took some of them in, shows of
that history. -/
structure Discreet (offers taken : List (QueryOffer C)) (r : QueryRegistry C) : Prop where
  /-- It is the registry that was handed nothing else than what it took in. -/
  settled : takeInPlace.Settled empty taken r
  /-- That it works in place makes no difference. -/
  in_place : r = intake.after empty offers ∧ taken = intake.admitted empty offers
  /-- Criteria are accepted exactly if a query was taken in for their tag. -/
  accepts : ∀ tag, r.accepts tag = true ↔ ∃ o ∈ taken, o.tag = tag
  /-- The first query that was handed in for a pair was the first that was taken in for it, -/
  first : ∀ tag answer, QueryOffer.firstFor taken tag answer = QueryOffer.firstFor offers tag answer
  /-- and it is what runs, as if nothing else had been handed in. -/
  runs : ∀ (kind : C.Kind) (answer : C.Answer) (entry : QueryEntry C answer),
    QueryOffer.firstFor offers (C.tag kind) answer = some entry →
      ∀ (ctx : Context) (criteria : C.Value kind),
        r.execute ctx criteria answer =
          (takeInPlace.after empty [⟨answer, entry⟩]).execute ctx criteria answer

/-- A tag has a shelf exactly if a query was taken in for it. -/
theorem accepts_after_iff (offers : List (QueryOffer C)) (tag : String) :
    (intake.after empty offers).accepts tag = true ↔
      ∃ o ∈ intake.admitted empty offers, o.tag = tag := by
  refine Intake.after_induction
    (P := fun (r : QueryRegistry C) taken => r.accepts tag = true ↔ ∃ o ∈ taken, o.tag = tag)
    (Intake.discreet_ofRegister _) ?_ ?_ offers
  · constructor
    · intro h
      cases h
    · rintro ⟨o, hmem, -⟩
      cases hmem
  · intro r taken o hiff hanswer
    obtain ⟨-, hafter⟩ := register_eq_ok_iff.mp (Intake.ofRegister_eq_ok_iff.mp hanswer)
    rw [hafter]
    simp only [accepts, Dictionary.contains, Dictionary.find?_insert, List.mem_append,
      List.mem_singleton] at hiff ⊢
    by_cases htag : tag = C.tag o.2.kind
    · simp only [htag, if_pos, Option.isSome_some, true_iff]
      exact ⟨o, .inr rfl, rfl⟩
    · rw [if_neg htag, hiff]
      constructor
      · rintro ⟨other, hmem, hother⟩
        exact ⟨other, .inl hmem, hother⟩
      · rintro ⟨other, hmem | rfl, hother⟩
        · exact ⟨other, hmem, hother⟩
        · exact absurd hother.symm htag

/-- What a registry finds under a pair is the first query that was handed in for it. -/
theorem find?_after (offers : List (QueryOffer C)) (tag : String) (answer : C.Answer) :
    ((intake.after empty offers).shelf tag).find? answer =
      QueryOffer.firstFor offers tag answer := by
  rw [intake_after, find?_registerAll_empty]

/-- An entry that stands first for a pair is an offer for that pair. -/
theorem tag_of_firstFor {offers : List (QueryOffer C)} {tag : String} {answer : C.Answer}
    {entry : QueryEntry C answer} (h : QueryOffer.firstFor offers tag answer = some entry) :
    QueryOffer.tag ⟨answer, entry⟩ = tag := by
  obtain ⟨o, -, ho⟩ := List.exists_of_findSome?_eq_some h
  by_cases hpair : o.tag = tag ∧ o.1 = answer
  · obtain ⟨rfl, rfl⟩ := hpair
    rw [QueryOffer.entryFor?_self] at ho
    cases ho
    rfl
  · rw [QueryOffer.entryFor?_eq_none fun htag hanswer => hpair ⟨htag, hanswer⟩] at ho
    cases ho

/-- Every history of a registry of queries is discreet. -/
theorem discreet_after (offers : List (QueryOffer C)) :
    Discreet offers (takeInPlace.admitted empty offers) (takeInPlace.after empty offers) := by
  rw [takeInPlace_eq]
  have hdiscreet : (intake : Intake (QueryRegistry C) (QueryOffer C)).Discreet :=
    Intake.discreet_ofRegister _
  constructor
  case settled =>
    rw [takeInPlace_eq]
    exact Intake.settled_after hdiscreet empty offers
  case in_place => exact ⟨rfl, rfl⟩
  case accepts => exact accepts_after_iff offers
  case first =>
    intro tag answer
    rw [← find?_after, ← find?_after, Intake.after_admitted hdiscreet]
  case runs =>
    intro kind answer entry hentry ctx criteria
    have hown : QueryOffer.firstFor [⟨answer, entry⟩] (C.tag kind) answer = some entry := by
      have hself := QueryOffer.entryFor?_self (⟨answer, entry⟩ : QueryOffer C)
      rw [tag_of_firstFor hentry] at hself
      rw [QueryOffer.firstFor, List.findSome?_cons, hself]
    have hfound := (find?_after offers (C.tag kind) answer).trans hentry
    have hfound' := (find?_after [⟨answer, entry⟩] (C.tag kind) answer).trans hown
    rw [takeInPlace_eq]
    exact execute_congr hfound hfound' ctx criteria

end QueryRegistry

/-! ## Events -/

namespace EventBoard

/-- What a registry that was handed event handlers one after the other, and took some of them in,
shows of that history. -/
structure Discreet (offers taken : List (EventOffer C)) (b : EventBoard C) : Prop where
  /-- It is the registry that was handed nothing else than what it took in. -/
  settled : takeInPlace.Settled empty taken b
  /-- That it works in place makes no difference. -/
  in_place : b.registry = EventRegistry.intake.after .empty offers ∧
    taken = EventRegistry.intake.admitted .empty offers
  /-- The handlers of a tag are those that were taken in for it, in their order. -/
  handlers : ∀ tag, b.registry.roster tag = taken.filter fun offer => offer.tag = tag
  /-- A tag is known exactly if a handler was taken in for it, -/
  isRegistered : ∀ tag, b.isRegistered tag = true ↔ ∃ offer ∈ taken, offer.tag = tag
  /-- and listed exactly if it is known. -/
  eventTypes : ∀ tag, tag ∈ b.eventTypes ↔ b.isRegistered tag = true
  /-- The names are those of the handlers, in their order, -/
  handlerNames : ∀ tag, b.handlerNames tag = (b.registry.roster tag).map fun offer => offer.2.name
  /-- and there are as many. -/
  handlerCount : ∀ tag, b.handlerCount tag = (b.registry.roster tag).length
  /-- What the columns of names and handlers show is what the registry shows. -/
  observed : (∀ tag, b.registry.isRegistered tag = b.isRegistered tag) ∧
    b.registry.eventTypes = b.eventTypes ∧
    (∀ tag, b.registry.handlerNames tag = b.handlerNames tag) ∧
    ∀ tag, b.registry.handlerCount tag = b.handlerCount tag

/-- Every history of a registry of event handlers is discreet. -/
theorem discreet_after (offers : List (EventOffer C)) :
    Discreet offers (takeInPlace.admitted empty offers) (takeInPlace.after empty offers) := by
  have hregistry : EventRegistry.intake.after .empty offers =
      (takeInPlace.after empty offers).registry :=
    mirrors_takeInPlace.after_eq empty offers
  have hadmitted : EventRegistry.intake.admitted .empty offers =
      takeInPlace.admitted empty offers :=
    mirrors_takeInPlace.admitted_eq empty offers
  have hkeeps := EventRegistry.keeps_after offers
  rw [hregistry, hadmitted] at hkeeps
  have hnames : ∀ tag, (takeInPlace.after empty offers).handlerNames tag =
      (takeInPlace.after empty offers).registry.handlerNames tag :=
    (aligned_after offers).handlerNames_eq
  constructor
  case settled => exact Intake.settled_after discreet_takeInPlace empty offers
  case in_place => exact ⟨hregistry.symm, hadmitted.symm⟩
  case handlers => exact hkeeps.roster
  case isRegistered =>
    intro tag
    rw [← isRegistered_registry]
    exact hkeeps.isRegistered_iff tag
  case eventTypes =>
    intro tag
    exact Dictionary.mem_keys_iff
  case handlerNames =>
    intro tag
    rw [hnames, EventRegistry.handlerNames_eq]
  case handlerCount =>
    intro tag
    rw [handlerCount, hnames, EventRegistry.handlerNames_eq, List.length_map]
  case observed =>
    refine ⟨isRegistered_registry _, eventTypes_registry _, fun tag => (hnames tag).symm, ?_⟩
    intro tag
    rw [handlerCount, EventRegistry.handlerCount, hnames]

end EventBoard

/-- Every history of registrations leaves a registry that has no trace of what it refused.  It is
the registry that was only handed what it took in; it knows the tags for which something was taken
in; of a command's tag, and of a query's pair of tag and result type, the first handler stays the
one that runs; and of an event's tag the names match the handlers in number and order. -/
theorem refusals_leave_no_trace (C : Catalogue) :
    (∀ offers : List (CommandEntry C), CommandRegistry.Discreet offers
      (CommandRegistry.intake.admitted .empty offers)
      (CommandRegistry.intake.after .empty offers)) ∧
    (∀ offers : List (QueryOffer C), QueryRegistry.Discreet offers
      (QueryRegistry.takeInPlace.admitted .empty offers)
      (QueryRegistry.takeInPlace.after .empty offers)) ∧
    ∀ offers : List (EventOffer C), EventBoard.Discreet offers
      (EventBoard.takeInPlace.admitted .empty offers)
      (EventBoard.takeInPlace.after .empty offers) :=
  ⟨CommandRegistry.discreet_after, QueryRegistry.discreet_after, EventBoard.discreet_after⟩

/-- A handler for another type with the same tag comes between two others and is refused. -/
example :
    let C := Sample.bank
    let audits (kind : C.Kind) (name : String) : EventOffer C :=
      ⟨kind, 1, name, .plain fun _ _ => .ok ()⟩
    let offers := [audits .createInvoice "first", audits .legacyCreateInvoice "second",
      audits .createInvoice "third"]
    (EventBoard.takeInPlace.after .empty offers).handlerNames "api.CreateInvoice" =
      ["first", "third"] := by
  decide

end Switchboard
