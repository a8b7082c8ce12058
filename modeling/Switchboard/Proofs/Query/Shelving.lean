import Mathlib.Data.List.Induction
import Mathlib.Tactic.ByContra
import Switchboard.Proofs.Query.Confinement

/-!
# Which query stands under a pair

Queries are handed in at a registry one after the other.  Of those for one pair of tag and result
type the first stays and the others are refused, and nothing else about a tag is looked at.  So two
criteria types get along under one tag as long as neither asks for a result type of the other: the
registry keeps to one criteria type per tag exactly if every attempt of a second one happens to meet
a pair that is taken.

Main results:

- Theorem {lit}`QueryRegistry.find?_registerAll_or`: the first query of a pair stays.
- Theorem {lit}`QueryRegistry.register_eq_error_iff`: a query is refused exactly if its pair is
  taken.
- Theorem {lit}`QueryRegistry.oneCriteria_iff`: when all queries under a tag take criteria of one
  type.
-/

namespace Switchboard

variable {C : Catalogue}

/-! ## The first query of a pair -/

/-- A query that is handed in, under its result type. -/
abbrev QueryOffer (C : Catalogue) :=
  Σ answer : C.Answer, QueryEntry C answer

namespace QueryOffer

/-- The tag that a query is handed in for. -/
def tag (offer : QueryOffer C) : String :=
  C.tag offer.2.kind

/-- What is registered for a pair if the offer is one for that pair. -/
def entryFor? (offer : QueryOffer C) (tag : String) (answer : C.Answer) :
    Option (QueryEntry C answer) :=
  if h : offer.1 = answer then if offer.tag = tag then some (h ▸ offer.2) else none else none

/-- What is registered for a pair by the first offer for it. -/
def firstFor (offers : List (QueryOffer C)) (tag : String) (answer : C.Answer) :
    Option (QueryEntry C answer) :=
  offers.findSome? fun offer => offer.entryFor? tag answer

/-- An offer is one for its own pair. -/
theorem entryFor?_self (offer : QueryOffer C) :
    offer.entryFor? offer.tag offer.1 = some offer.2 := by
  simp [entryFor?]

/-- An offer is one for no other pair. -/
theorem entryFor?_eq_none {offer : QueryOffer C} {tag : String} {answer : C.Answer}
    (h : offer.tag = tag → offer.1 ≠ answer) : offer.entryFor? tag answer = none := by
  unfold entryFor?
  split
  · rename_i hanswer
    exact if_neg fun htag => h htag hanswer
  · rfl

/-- Something is registered for a pair exactly if there is an offer for it. -/
theorem isSome_firstFor_iff {offers : List (QueryOffer C)} {tag : String} {answer : C.Answer} :
    (firstFor offers tag answer).isSome = true ↔
      ∃ offer ∈ offers, offer.tag = tag ∧ offer.1 = answer := by
  unfold firstFor
  rw [List.findSome?_isSome_iff]
  constructor
  · rintro ⟨offer, hmem, hsome⟩
    refine ⟨offer, hmem, ?_⟩
    by_contra hne
    rw [entryFor?_eq_none fun htag hanswer => hne ⟨htag, hanswer⟩] at hsome
    cases hsome
  · rintro ⟨offer, hmem, rfl, rfl⟩
    exact ⟨offer, hmem, by rw [entryFor?_self]; rfl⟩

end QueryOffer

namespace QueryRegistry

/-- Hand in a query. -/
def offer (r : QueryRegistry C) (offer : QueryOffer C) :
    Except DispatchError (QueryRegistry C) :=
  r.register offer.2.kind offer.1 offer.2.query offer.2.filter

/-- A query is refused exactly if its pair is taken, whoever holds it. -/
theorem register_eq_error_iff {r : QueryRegistry C} {o : QueryOffer C} {e : DispatchError} :
    r.offer o = .error e ↔
      ((r.shelf o.tag).find? o.1).isSome = true ∧
        e = .registration (.queryTaken o.tag (C.answerName o.1)) := by
  unfold QueryRegistry.offer register QueryOffer.tag
  dsimp only
  split
  · rename_i htaken
    constructor
    · intro h
      cases h
      exact ⟨htaken, rfl⟩
    · rintro ⟨-, rfl⟩
      rfl
  · rename_i hfree
    constructor
    · intro h
      cases h
    · intro h
      exact absurd h.1 hfree

/-- A query under a free pair is taken in, and then stands under it. -/
theorem offer_of_free {r : QueryRegistry C} {o : QueryOffer C}
    (hfree : (r.shelf o.tag).find? o.1 = none) :
    r.offer o = .ok ⟨r.shelves.insert o.tag ((r.shelf o.tag).insert o.1 o.2)⟩ := by
  unfold QueryRegistry.offer
  exact register_eq_ok_iff.mpr ⟨hfree, rfl⟩

/-- A query that is taken in leaves the registry that registration made. -/
theorem registerAll_singleton_of_ok {r r' : QueryRegistry C} {o : QueryOffer C}
    (h : r.offer o = .ok r') : r.registerAll [o] = r' := by
  unfold QueryRegistry.offer at h
  simp only [registerAll, List.foldl_cons, List.foldl_nil, h]

/-- A query that is refused leaves the registry as it was. -/
theorem registerAll_singleton_of_error {r : QueryRegistry C} {o : QueryOffer C}
    {e : DispatchError} (h : r.offer o = .error e) : r.registerAll [o] = r := by
  unfold QueryRegistry.offer at h
  simp only [registerAll, List.foldl_cons, List.foldl_nil, h]

/-- A query is found once it was handed in, unless its pair had another. -/
theorem find?_registerAll_singleton (r : QueryRegistry C) (o : QueryOffer C) (tag : String)
    (answer : C.Answer) :
    ((r.registerAll [o]).shelf tag).find? answer =
      ((r.shelf tag).find? answer).or (o.entryFor? tag answer) := by
  by_cases hpair : o.tag = tag ∧ o.1 = answer
  · obtain ⟨rfl, rfl⟩ := hpair
    rw [QueryOffer.entryFor?_self]
    cases hheld : (r.shelf o.tag).find? o.1 with
    | none =>
      rw [registerAll_singleton_of_ok (offer_of_free hheld)]
      rw [shelf_insert, if_pos rfl, QueryShelf.insert_self, Option.none_or]
    | some entry =>
      rw [registerAll_singleton_of_error
        (register_eq_error_iff.mpr ⟨by rw [hheld]; rfl, rfl⟩)]
      simp only [hheld, Option.some_or]
  · have hother : o.entryFor? tag answer = none :=
      QueryOffer.entryFor?_eq_none fun htag hanswer => hpair ⟨htag, hanswer⟩
    rw [hother, Option.or_none]
    cases hheld : (r.shelf o.tag).find? o.1 with
    | some entry =>
      rw [registerAll_singleton_of_error
        (register_eq_error_iff.mpr ⟨by rw [hheld]; rfl, rfl⟩)]
    | none =>
      rw [registerAll_singleton_of_ok (offer_of_free hheld)]
      simp only [shelf_insert]
      by_cases htag : tag = o.tag
      · subst htag
        have hne : answer ≠ o.1 := fun h => hpair ⟨rfl, h.symm⟩
        rw [if_pos rfl, QueryShelf.insert_of_ne _ hne]
      · rw [if_neg htag]

/-- Whatever is handed in, the first query of a pair stays. -/
theorem find?_registerAll_or (r : QueryRegistry C) (offers : List (QueryOffer C)) (tag : String)
    (answer : C.Answer) :
    ((r.registerAll offers).shelf tag).find? answer =
      ((r.shelf tag).find? answer).or (QueryOffer.firstFor offers tag answer) := by
  induction offers generalizing r with
  | nil => exact Option.or_none.symm
  | cons o rest ih =>
    have hstep : r.registerAll (o :: rest) = (r.registerAll [o]).registerAll rest := rfl
    rw [hstep, ih, find?_registerAll_singleton, Option.or_assoc, QueryOffer.firstFor,
      QueryOffer.firstFor, List.findSome?_cons]
    cases o.entryFor? tag answer <;> rfl

/-- What a registry that started empty holds under a pair was handed in for it first. -/
theorem find?_registerAll_empty (offers : List (QueryOffer C)) (tag : String)
    (answer : C.Answer) :
    (((empty : QueryRegistry C).registerAll offers).shelf tag).find? answer =
      QueryOffer.firstFor offers tag answer := by
  rw [find?_registerAll_or]
  exact Option.none_or

/-! ## Criteria types under a tag -/

/-- A query stands under a tag. -/
def Holds (r : QueryRegistry C) (tag : String) (o : QueryOffer C) : Prop :=
  (r.shelf tag).find? o.1 = some o.2

/-- All queries under a tag take criteria of one type. -/
def OneCriteria (r : QueryRegistry C) (tag : String) : Prop :=
  ∀ o o' : QueryOffer C, r.Holds tag o → r.Holds tag o' → o.2.kind = o'.2.kind

/-- A tag is in use for other criteria than those of an offer. -/
def UsedOtherwise (r : QueryRegistry C) (o : QueryOffer C) : Prop :=
  ∃ held : QueryOffer C, r.Holds o.tag held ∧ held.2.kind ≠ o.2.kind

/-- After one more query was handed in, everything stands where it stood, and a query that was
taken in stands too. -/
theorem holds_registerAll_singleton {r : QueryRegistry C} {o : QueryOffer C} {tag : String}
    {other : QueryOffer C} :
    (r.registerAll [o]).Holds tag other ↔
      r.Holds tag other ∨ o.tag = tag ∧ other = o ∧ (r.shelf tag).find? o.1 = none := by
  unfold Holds
  rw [find?_registerAll_singleton]
  constructor
  · intro hfound
    cases hheld : (r.shelf tag).find? other.1 with
    | some entry =>
      rw [hheld, Option.some_or] at hfound
      exact .inl hfound
    | none =>
      rw [hheld, Option.none_or] at hfound
      by_cases hpair : o.tag = tag ∧ o.1 = other.1
      · obtain ⟨answer, entry⟩ := o
        obtain ⟨other, entry'⟩ := other
        obtain ⟨rfl, rfl⟩ := hpair
        rw [QueryOffer.entryFor?_self, Option.some_inj] at hfound
        subst hfound
        exact .inr ⟨rfl, rfl, hheld⟩
      · rw [QueryOffer.entryFor?_eq_none fun htag hanswer => hpair ⟨htag, hanswer⟩] at hfound
        cases hfound
  · rintro (hheld | ⟨rfl, rfl, hfree⟩)
    · rw [hheld, Option.some_or]
    · rw [hfree, Option.none_or, QueryOffer.entryFor?_self]

/-- A tag with one criteria type keeps to it over one more offer exactly if an offer of another one
is refused. -/
theorem oneCriteria_registerAll_singleton {r : QueryRegistry C} {o : QueryOffer C} {tag : String}
    (hone : r.OneCriteria tag) :
    (r.registerAll [o]).OneCriteria tag ↔
      (o.tag = tag → r.UsedOtherwise o → ∃ e, r.offer o = .error e) := by
  constructor
  · rintro hafter rfl ⟨held, hheld, hkind⟩
    cases hpair : (r.shelf o.tag).find? o.1 with
    | some entry => exact ⟨_, register_eq_error_iff.mpr ⟨by rw [hpair]; rfl, rfl⟩⟩
    | none =>
      have hsame : held.2.kind = o.2.kind :=
        hafter held o (holds_registerAll_singleton.mpr (.inl hheld))
          (holds_registerAll_singleton.mpr (.inr ⟨rfl, rfl, hpair⟩))
      exact absurd hsame hkind
  · intro hrefused
    -- A query that was taken in agrees with those that stood under the tag before.
    have hagrees : ∀ held, r.Holds tag held → o.tag = tag →
        (r.shelf tag).find? o.1 = none → held.2.kind = o.2.kind := by
      rintro held hheld rfl hfree
      by_contra hkind
      obtain ⟨e, he⟩ := hrefused rfl ⟨held, hheld, hkind⟩
      rw [offer_of_free hfree] at he
      cases he
    intro first second hfirst hsecond
    rcases holds_registerAll_singleton.mp hfirst with hold | ⟨htag, hnew, hfree⟩
    · rcases holds_registerAll_singleton.mp hsecond with hold' | ⟨htag, hnew, hfree⟩
      · exact hone first second hold hold'
      · rw [hnew]
        exact hagrees first hold htag hfree
    · rw [hnew]
      rcases holds_registerAll_singleton.mp hsecond with hold | ⟨-, hnew, -⟩
      · exact (hagrees second hold htag hfree).symm
      · rw [hnew]

/-- What was handed in so far decides about the next. -/
theorem registerAll_append (r : QueryRegistry C) (offers later : List (QueryOffer C)) :
    r.registerAll (offers ++ later) = (r.registerAll offers).registerAll later :=
  List.foldl_append

/-- A tag with one criteria type had one all the time. -/
theorem OneCriteria.of_registerAll {r : QueryRegistry C} {tag : String}
    {later : List (QueryOffer C)} (h : (r.registerAll later).OneCriteria tag) :
    r.OneCriteria tag :=
  fun o o' hheld hheld' => h o o' (find?_registerAll hheld later) (find?_registerAll hheld' later)

/-- A query is refused exactly if one was handed in for its pair before, by whatever criteria type,
and is taken in otherwise.  So all queries under a tag take criteria of one type exactly if every
query that was to use the tag for other criteria was refused, which happens exactly if it asked for
a result type that had its query under the tag. -/
theorem oneCriteria_iff (offers : List (QueryOffer C)) :
    (∀ o : QueryOffer C,
      let r := (empty : QueryRegistry C).registerAll offers
      (r.offer o = .error (.registration (.queryTaken o.tag (C.answerName o.1))) ↔
        ∃ earlier ∈ offers, earlier.tag = o.tag ∧ earlier.1 = o.1) ∧
      ((∃ r', r.offer o = .ok r') ↔
        ∀ earlier ∈ offers, earlier.tag = o.tag → earlier.1 ≠ o.1)) ∧
    ∀ tag, ((empty : QueryRegistry C).registerAll offers).OneCriteria tag ↔
      ∀ (before : List (QueryOffer C)) (o : QueryOffer C) (after : List (QueryOffer C)),
        offers = before ++ o :: after → o.tag = tag →
          ((empty : QueryRegistry C).registerAll before).UsedOtherwise o →
            ∃ earlier ∈ before, earlier.tag = o.tag ∧ earlier.1 = o.1 := by
  have hrefused : ∀ (offers : List (QueryOffer C)) (o : QueryOffer C),
      (∃ e, ((empty : QueryRegistry C).registerAll offers).offer o = .error e) ↔
        ∃ earlier ∈ offers, earlier.tag = o.tag ∧ earlier.1 = o.1 := by
    intro offers o
    simp only [register_eq_error_iff, find?_registerAll_empty, QueryOffer.isSome_firstFor_iff,
      exists_and_left, exists_eq, and_true]
  refine ⟨fun o => ⟨?_, ?_⟩, fun tag => ?_⟩
  · rw [register_eq_error_iff, find?_registerAll_empty, QueryOffer.isSome_firstFor_iff]
    exact and_iff_left rfl
  · have hnot : (∃ r', ((empty : QueryRegistry C).registerAll offers).offer o = .ok r') ↔
        ¬ ∃ e, ((empty : QueryRegistry C).registerAll offers).offer o = .error e := by
      cases ((empty : QueryRegistry C).registerAll offers).offer o <;> simp
    rw [hnot, hrefused]
    simp only [not_exists, not_and, ne_eq]
  · constructor
    · rintro hone before o after rfl htag hused
      rw [registerAll_append] at hone
      have hstep : ((empty : QueryRegistry C).registerAll before).registerAll (o :: after) =
          (((empty : QueryRegistry C).registerAll before).registerAll [o]).registerAll after := rfl
      rw [hstep] at hone
      have hnext := hone.of_registerAll
      exact (hrefused before o).mp
        ((oneCriteria_registerAll_singleton hnext.of_registerAll).mp hnext htag hused)
    · intro hall
      induction offers using List.reverseRecOn with
      | nil =>
        intro o o' hheld _
        cases hheld
      | append_singleton before o ih =>
        rw [registerAll_append]
        have hbefore := ih fun first other after hsplit => by
          refine hall first other (after ++ [o]) ?_
          rw [hsplit, List.append_assoc, List.cons_append]
        refine (oneCriteria_registerAll_singleton hbefore).mpr fun htag hused => ?_
        exact (hrefused before o).mpr (hall before o [] rfl htag hused)

/-- A second criteria type is taken in under the tag of the first, as it asks for another result
type. -/
theorem two_criteria_under_tag :
    let C := Sample.bank
    let invoices : QueryOffer C :=
      ⟨.number, ⟨.createInvoice, ⟨1, "invoices", .plain fun _ _ => .ok none⟩, .none⟩⟩
    let legacy : QueryOffer C :=
      ⟨.text, ⟨.legacyCreateInvoice, ⟨2, "legacy", .plain fun _ _ => .ok none⟩, .none⟩⟩
    legacy.tag = invoices.tag ∧ legacy.2.kind ≠ invoices.2.kind ∧
      ∃ r r' : QueryRegistry C, (empty : QueryRegistry C).offer invoices = .ok r ∧
        r.offer legacy = .ok r' ∧ ¬ r'.OneCriteria "api.CreateInvoice" := by
  intro C invoices legacy
  have hinvoices : (empty : QueryRegistry C).offer invoices = .ok _ := offer_of_free rfl
  have hfree : (QueryRegistry.shelf ⟨(empty : QueryRegistry C).shelves.insert invoices.tag
      (((empty : QueryRegistry C).shelf invoices.tag).insert invoices.1 invoices.2)⟩
        legacy.tag).find? legacy.1 = none := by
    have htag : legacy.tag = invoices.tag := rfl
    rw [shelf_insert, if_pos htag, QueryShelf.insert_of_ne _ (by decide)]
    rfl
  have hlegacy := offer_of_free hfree
  refine ⟨rfl, by decide, _, _, hinvoices, hlegacy, fun hone => ?_⟩
  have hsame : legacy.2.kind = invoices.2.kind :=
    hone legacy invoices (find?_of_register hlegacy)
      (find?_of_register_of_find? (find?_of_register hinvoices) hlegacy)
  exact absurd hsame (by decide)

end QueryRegistry
end Switchboard
