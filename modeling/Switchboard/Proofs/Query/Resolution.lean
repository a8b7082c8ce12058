import Switchboard.Proofs.Registration.Discretion

/-!
# Which query answers

Criteria are resolved by two look-ups and a comparison of payload types, and only then user code
runs: the query, and the filter of the same registration if the query found something.  What a
registry took in decides all of this.  There are four cases, and each of them can be told from the
outside: three refusals that leave the session as it was, and a run.

Main results:

- Theorem {lit}`QueryRegistry.holds_after_iff`: what stands under a pair was taken in for it.
- Theorem {lit}`QueryRegistry.refuses_or_isOwn`: the four cases.
- Theorem {lit}`QueryEntry.ran_runEntry`: what a query that runs calls and answers.
- Theorem {lit}`QueryRegistry.execute_resolved`: how criteria are resolved after every history.
-/

namespace Switchboard

variable {C : Catalogue}

/-! ## Calls of queries and filters -/

/-- A call by which a query was asked about criteria, with a context if it asked for it. -/
structure Call.Asks (call : Call C) (callee : Nat) (ctx : Context) {kind : C.Kind}
    (criteria : C.Value kind) : Prop where
  callee : call.callee = callee
  input : ∃ context store, (∀ c ∈ context, c = ctx) ∧
    call.input = .query kind criteria context store

/-- A call by which a filter was shown a result, with a context. -/
structure Call.Filters (call : Call C) {answer : C.Answer} (filter : ResultFilter (C.Item answer))
    (ctx : Context) (found : Result (C.Item answer)) : Prop where
  callee : call.callee = filter.callee
  name : call.name = filter.name
  input : call.input = .filter answer found ctx

/-- Whether a call was one of a query. -/
def Call.isQuery (call : Call C) : Bool :=
  match call.input with
  | .query .. => true
  | _ => false

theorem Call.Asks.isQuery {call : Call C} {callee : Nat} {ctx : Context} {kind : C.Kind}
    {criteria : C.Value kind} (h : call.Asks callee ctx criteria) : call.isQuery = true := by
  obtain ⟨context, store, -, hinput⟩ := h.input
  rw [Call.isQuery, hinput]

theorem Call.Filters.isQuery {call : Call C} {answer : C.Answer}
    {filter : ResultFilter (C.Item answer)} {ctx : Context} {found : Result (C.Item answer)}
    (h : call.Filters filter ctx found) : call.isQuery = false := by
  rw [Call.isQuery, h.input]

/-- A filter is called once, with the result and the context, and answers by the number of the
call. -/
theorem ResultFilter.calls_call {answer : C.Answer} (f : ResultFilter (C.Item answer))
    (ctx : Context) (found : Result (C.Item answer)) (s : Session C) :
    ∃ call, (f.call ctx found s).2.calls = s.calls ++ [call] ∧ call.Filters f ctx found ∧
      (f.call ctx found s).1 = f.apply call.number ctx found :=
  ⟨_, rfl, ⟨rfl, rfl, rfl⟩, rfl⟩

/-- The queries that were asked between two sessions. -/
def Session.asked (before after : Session C) : List (Call C) :=
  (after.calls.drop before.calls.length).filter Call.isQuery

@[simp]
theorem Session.asked_self (s : Session C) : s.asked s = [] := by
  simp [asked]

/-! ## A query that runs -/

/-- What a query that runs makes of its criteria: its answer, and all calls that were made for it.
The query is asked once, and the filter of its registration is called exactly if the query found
something, once, on that. -/
inductive QueryEntry.Ran {answer : C.Answer} (entry : QueryEntry C answer) (ctx : Context)
    (criteria : C.Value entry.kind)
    (outcome : Outcome HandlerError (Option (Result (C.Item answer)))) :
    Except DispatchError (Option (Result (C.Item answer))) → List (Call C) → Prop
  /-- The query failed or panicked. -/
  | failed {asked : Call C} {e : HandlerError}
      (asks : asked.Asks entry.query.callee (ctx.withHandler entry.query.name) criteria)
      (fails : contain (C.tag entry.kind) outcome = .error e) :
      Ran entry ctx criteria outcome (.error (.handler e)) [asked]
  /-- The query found nothing. -/
  | nothing {asked : Call C}
      (asks : asked.Asks entry.query.callee (ctx.withHandler entry.query.name) criteria)
      (finds : outcome = .ok none) : Ran entry ctx criteria outcome (.ok none) [asked]
  /-- The query found something, which the filter shows, denies, or panics over. -/
  | found {asked filtered : Call C} {value : Result (C.Item answer)}
      (asks : asked.Asks entry.query.callee (ctx.withHandler entry.query.name) criteria)
      (finds : outcome = .ok (some value))
      (filters : filtered.Filters entry.filter (ctx.withHandler entry.query.name) value) :
      Ran entry ctx criteria outcome
        ((containCheck (C.tag entry.kind) (entry.filter.apply filtered.number
          (ctx.withHandler entry.query.name) value)).map some) [asked, filtered]

namespace QueryEntry

variable {answer : C.Answer} {entry : QueryEntry C answer} {ctx : Context}
  {criteria : C.Value entry.kind}

/-- What a query makes of its criteria when it is asked about them in a context. -/
def outcome (entry : QueryEntry C answer) (ctx : Context) (criteria : C.Value entry.kind)
    (s : Session C) : Outcome HandlerError (Option (Result (C.Item answer))) :=
  (entry.query.call (.query entry.kind criteria) (ctx.withHandler entry.query.name) criteria s).1

/-- Whatever comes of it, the query is asked once. -/
theorem Ran.exists_filter_eq {outcome : Outcome HandlerError (Option (Result (C.Item answer)))}
    {result : Except DispatchError (Option (Result (C.Item answer)))} {calls : List (Call C)}
    (h : entry.Ran ctx criteria outcome result calls) :
    ∃ call, calls.filter Call.isQuery = [call] := by
  cases h with
  | failed asks | nothing asks =>
    exact ⟨_, List.filter_cons_of_pos asks.isQuery⟩
  | found asks finds filters =>
    rename_i asked filtered value
    refine ⟨asked, ?_⟩
    rw [List.filter_cons_of_pos asks.isQuery, List.filter_cons_of_neg (by simp [filters.isQuery]),
      List.filter_nil]

/-- An entry that runs asks its query, and shows its filter what was found. -/
theorem ran_runEntry (entry : QueryEntry C answer) (ctx : Context)
    (criteria : C.Value entry.kind) (s : Session C) :
    ∃ calls, (QueryRegistry.runEntry entry ctx criteria s).2.calls = s.calls ++ calls ∧
      entry.Ran ctx criteria (entry.outcome ctx criteria s)
        (QueryRegistry.runEntry entry ctx criteria s).1 calls := by
  obtain ⟨asked, hcalls, -, hcallee, hinput⟩ := entry.query.calls_call
    (.query entry.kind criteria) (ctx.withHandler entry.query.name) criteria s
  have hasks : asked.Asks entry.query.callee (ctx.withHandler entry.query.name) criteria :=
    ⟨hcallee, hinput⟩
  simp only [QueryRegistry.runEntry, bind_apply]
  cases houtcome : (entry.query.call (.query entry.kind criteria)
    (ctx.withHandler entry.query.name) criteria s).1 with
  | panicked value =>
    exact ⟨[asked], hcalls, .failed hasks (by rw [outcome, houtcome]; rfl)⟩
  | returned result =>
    cases result with
    | error e => exact ⟨[asked], hcalls, .failed hasks (by rw [outcome, houtcome]; rfl)⟩
    | ok found? =>
      cases found? with
      | none => exact ⟨[asked], hcalls, .nothing hasks houtcome⟩
      | some value =>
        obtain ⟨filtered, hfiltered, hfilters, hanswer⟩ := entry.filter.calls_call
          (ctx.withHandler entry.query.name) value (entry.query.call (.query entry.kind criteria)
            (ctx.withHandler entry.query.name) criteria s).2
        refine ⟨[asked, filtered], ?_, ?_⟩
        · rw [hcalls, List.append_assoc] at hfiltered
          exact hfiltered
        · have hran := Ran.found hasks (show entry.outcome ctx criteria s = .ok (some value) from
            houtcome) hfilters
          rw [← hanswer] at hran
          exact hran

end QueryEntry

/-! ## What a registry took in -/

namespace QueryOffer

/-- Of what was taken in, nothing has the tag. -/
def NoneUnder (taken : List (QueryOffer C)) (tag : String) : Prop :=
  ∀ o ∈ taken, o.tag ≠ tag

/-- Of what was taken in, something has the tag, but nothing has the tag and the result type. -/
def NoneReturning (taken : List (QueryOffer C)) (tag : String) (answer : C.Answer) : Prop :=
  (∃ o ∈ taken, o.tag = tag) ∧ ∀ o ∈ taken, o.tag = tag → o.1 ≠ answer

/-- What was taken in for the tag and the result type takes criteria of another type. -/
def HeldByOther (taken : List (QueryOffer C)) (kind : C.Kind) (answer : C.Answer) : Prop :=
  ∃ entry : QueryEntry C answer,
    ⟨answer, entry⟩ ∈ taken ∧ C.tag entry.kind = C.tag kind ∧ entry.kind ≠ kind

/-- What was taken in for the result type and criteria of the type. -/
def IsOwn (taken : List (QueryOffer C)) (kind : C.Kind) (answer : C.Answer)
    (query : Handler C.Store (C.Value kind) (Option (Result (C.Item answer))))
    (filter : ResultFilter (C.Item answer)) : Prop :=
  ⟨answer, kind, query, filter⟩ ∈ taken

/-- The refusals that criteria of a type meet when they are asked for a result type. -/
inductive Refuses (taken : List (QueryOffer C)) (kind : C.Kind) (answer : C.Answer) :
    DispatchError → Prop
  | unknown (h : NoneUnder taken (C.tag kind)) :
      Refuses taken kind answer (.lookup (.noQuery (C.tag kind)))
  | missing (h : NoneReturning taken (C.tag kind) answer) :
      Refuses taken kind answer (.lookup (.noQueryReturning (C.tag kind) (C.answerName answer)))
  | foreign (h : HeldByOther taken kind answer) :
      Refuses taken kind answer (.registration (.criteriaType (C.tag kind)))

end QueryOffer

namespace QueryRegistry

open QueryOffer

/-- What stands under a pair was taken in for it, and what was taken in stands under its pair. -/
theorem holds_after_iff (offers : List (QueryOffer C)) (tag : String) (o : QueryOffer C) :
    (intake.after empty offers).Holds tag o ↔
      o ∈ intake.admitted empty offers ∧ o.tag = tag := by
  refine Intake.after_induction
    (P := fun (r : QueryRegistry C) taken => r.Holds tag o ↔ o ∈ taken ∧ o.tag = tag)
    (Intake.discreet_ofRegister _) ?_ ?_ offers
  · constructor
    · intro h
      cases h
    · rintro ⟨hmem, -⟩
      cases hmem
  · intro r taken offer hiff hanswer
    have hafter : (Intake.ofRegister QueryRegistry.offer r offer).2 = r.registerAll [offer] :=
      intake_after r [offer]
    obtain ⟨hfree, -⟩ := register_eq_ok_iff.mp (Intake.ofRegister_eq_ok_iff.mp hanswer)
    rw [hafter, holds_registerAll_singleton, hiff, List.mem_append, List.mem_singleton]
    constructor
    · rintro (⟨hmem, htag⟩ | ⟨htag, rfl, -⟩)
      · exact ⟨.inl hmem, htag⟩
      · exact ⟨.inr rfl, htag⟩
    · rintro ⟨hmem | rfl, htag⟩
      · exact .inl ⟨hmem, htag⟩
      · subst htag
        exact .inr ⟨rfl, rfl, hfree⟩

/-- Criteria meet a refusal, unless a query for the result type and for them was taken in. -/
theorem refuses_or_isOwn (offers : List (QueryOffer C)) (kind : C.Kind) (answer : C.Answer) :
    (∃ e, Refuses (intake.admitted empty offers) kind answer e) ∨
      ∃ query filter, IsOwn (intake.admitted empty offers) kind answer query filter := by
  have haccepts := accepts_after_iff offers (C.tag kind)
  have hholds := holds_after_iff offers (C.tag kind)
  cases hknown : (intake.after empty offers).accepts (C.tag kind) with
  | false =>
    refine .inl ⟨_, .unknown fun o hmem htag => ?_⟩
    rw [haccepts.mpr ⟨o, hmem, htag⟩] at hknown
    cases hknown
  | true =>
    cases hfind : ((intake.after empty offers).shelf (C.tag kind)).find? answer with
    | none =>
      refine .inl ⟨_, .missing ⟨haccepts.mp hknown, ?_⟩⟩
      rintro o hmem htag rfl
      have hheld := (hholds o).mpr ⟨hmem, htag⟩
      rw [Holds, hfind] at hheld
      cases hheld
    | some entry =>
      obtain ⟨hmem, htag⟩ := (hholds ⟨answer, entry⟩).mp hfind
      by_cases hkind : entry.kind = kind
      · subst hkind
        exact .inr ⟨entry.query, entry.filter, hmem⟩
      · exact .inl ⟨_, .foreign ⟨entry, hmem, htag, hkind⟩⟩

/-! ## Resolving criteria -/

section
variable {r : QueryRegistry C} {kind : C.Kind} {answer : C.Answer}

/-- Criteria of an unknown tag find no query. -/
theorem execute_of_unknown (h : r.accepts (C.tag kind) = false) (ctx : Context)
    (criteria : C.Value kind) (answer : C.Answer) :
    r.execute ctx criteria answer = pure (.error (.lookup (.noQuery (C.tag kind)))) := by
  unfold accepts Dictionary.contains at h
  unfold execute
  rw [Option.isSome_eq_false_iff, Option.isNone_iff_eq_none] at h
  rw [h]

/-- Criteria of a known tag go by what stands under the tag and the result type. -/
theorem execute_of_accepts (h : r.accepts (C.tag kind) = true) (ctx : Context)
    (criteria : C.Value kind) (answer : C.Answer) :
    r.execute ctx criteria answer =
      match (r.shelf (C.tag kind)).find? answer with
      | none => pure (.error (.lookup (.noQueryReturning (C.tag kind) (C.answerName answer))))
      | some entry =>
        if h : kind = entry.kind then runEntry entry ctx (h ▸ criteria)
        else pure (.error (.registration (.criteriaType (C.tag kind)))) := by
  unfold accepts Dictionary.contains at h
  unfold execute QueryRegistry.shelf
  obtain ⟨shelf, hshelf⟩ := Option.isSome_iff_exists.mp h
  rw [hshelf]
  rfl

end

/-- How a registry resolves criteria for a result type, by what it took in.  A filter may state an
error in the words of a refusal, but then a query was asked before; a refusal leaves the session as
it was. -/
structure Resolved (taken : List (QueryOffer C)) (r : QueryRegistry C) (ctx : Context)
    {kind : C.Kind} (criteria : C.Value kind) (answer : C.Answer) (s : Session C) : Prop where
  /-- No query is found, and nothing happens, exactly if nothing was taken in for the tag. -/
  unknown : r.execute ctx criteria answer s = (.error (.lookup (.noQuery (C.tag kind))), s) ↔
    NoneUnder taken (C.tag kind)
  /-- None returns the result, and nothing happens, exactly if something was taken in for the tag,
  but not with the result type. -/
  missing : r.execute ctx criteria answer s =
      (.error (.lookup (.noQueryReturning (C.tag kind) (C.answerName answer))), s) ↔
    NoneReturning taken (C.tag kind) answer
  /-- The criteria are refused, and nothing happens, exactly if what was taken in for the tag and
  the result type takes criteria of another type. -/
  foreign : r.execute ctx criteria answer s =
      (.error (.registration (.criteriaType (C.tag kind))), s) ↔
    HeldByOther taken kind answer
  /-- A query is asked exactly if one was taken in for the result type and criteria of the type,
  and then one is asked once. -/
  runs : (∃ call, s.asked (r.execute ctx criteria answer s).2 = [call]) ↔
    ∃ query filter, IsOwn taken kind answer query filter
  /-- It is that one, with the filter that was taken in with it. -/
  ran : ∀ query filter, IsOwn taken kind answer query filter →
    ∃ calls, (r.execute ctx criteria answer s).2.calls = s.calls ++ calls ∧
      QueryEntry.Ran ⟨kind, query, filter⟩ ctx criteria
        (QueryEntry.outcome ⟨kind, query, filter⟩ ctx criteria s)
        (r.execute ctx criteria answer s).1 calls
  /-- There is no other query for the pair. -/
  unique : ∀ o ∈ taken, ∀ o' ∈ taken, o.tag = o'.tag → o.1 = o'.1 → o = o'
  /-- An output holds what is answered, and nothing after an error, whatever it held before. -/
  output : ∀ before, r.executeInto ctx criteria answer before s =
    (written (r.execute ctx criteria answer s).1, (r.execute ctx criteria answer s).2)

section
variable {offers : List (QueryOffer C)} {kind : C.Kind} {answer : C.Answer}

/-- What meets a refusal is answered so, and nothing happens. -/
theorem execute_of_refuses {e : DispatchError}
    (h : Refuses (intake.admitted empty offers) kind answer e) (ctx : Context)
    (criteria : C.Value kind) (s : Session C) :
    (intake.after empty offers).execute ctx criteria answer s = (.error e, s) := by
  have haccepts := accepts_after_iff offers (C.tag kind)
  have hholds := holds_after_iff offers (C.tag kind)
  cases h with
  | unknown hnone =>
    have hknown : (intake.after empty offers).accepts (C.tag kind) = false := by
      refine Bool.eq_false_iff.mpr fun hknown => ?_
      obtain ⟨o, hmem, htag⟩ := haccepts.mp hknown
      exact hnone o hmem htag
    rw [execute_of_unknown hknown, pure_apply]
  | missing hmissing =>
    have hfind : ((intake.after empty offers).shelf (C.tag kind)).find? answer = none := by
      cases hfind : ((intake.after empty offers).shelf (C.tag kind)).find? answer with
      | none => rfl
      | some entry =>
        obtain ⟨hmem, htag⟩ := (hholds ⟨answer, entry⟩).mp hfind
        exact absurd rfl (hmissing.2 _ hmem htag)
    rw [execute_of_accepts (haccepts.mpr hmissing.1), hfind]
    rfl
  | foreign hother =>
    obtain ⟨entry, hmem, htag, hkind⟩ := hother
    have hfind : ((intake.after empty offers).shelf (C.tag kind)).find? answer = some entry :=
      (hholds ⟨answer, entry⟩).mpr ⟨hmem, htag⟩
    rw [execute_of_accepts (haccepts.mpr ⟨_, hmem, htag⟩), hfind]
    simp only [dif_neg (Ne.symm hkind), pure_apply]

variable {query : Handler C.Store (C.Value kind) (Option (Result (C.Item answer)))}
  {filter : ResultFilter (C.Item answer)}

/-- A query for the result type and for criteria of the type runs. -/
theorem execute_of_isOwn (h : IsOwn (intake.admitted empty offers) kind answer query filter)
    (ctx : Context) (criteria : C.Value kind) :
    (intake.after empty offers).execute ctx criteria answer =
      runEntry ⟨kind, query, filter⟩ ctx criteria :=
  execute_of_find ((holds_after_iff offers (C.tag kind) ⟨answer, _⟩).mpr ⟨h, rfl⟩) ctx criteria

/-- It asks its query, and shows its filter what was found. -/
theorem exists_ran_of_isOwn (h : IsOwn (intake.admitted empty offers) kind answer query filter)
    (ctx : Context) (criteria : C.Value kind) (s : Session C) :
    ∃ calls, ((intake.after empty offers).execute ctx criteria answer s).2.calls =
        s.calls ++ calls ∧
      QueryEntry.Ran ⟨kind, query, filter⟩ ctx criteria
        (QueryEntry.outcome ⟨kind, query, filter⟩ ctx criteria s)
        ((intake.after empty offers).execute ctx criteria answer s).1 calls := by
  rw [execute_of_isOwn h]
  exact QueryEntry.ran_runEntry ⟨kind, query, filter⟩ ctx criteria s

/-- It is seen in the record of calls that one query was asked. -/
theorem exists_asked_of_isOwn (h : IsOwn (intake.admitted empty offers) kind answer query filter)
    (ctx : Context) (criteria : C.Value kind) (s : Session C) :
    ∃ call, s.asked ((intake.after empty offers).execute ctx criteria answer s).2 = [call] := by
  obtain ⟨calls, hcalls, hran⟩ := exists_ran_of_isOwn h ctx criteria s
  rw [Session.asked, hcalls, List.drop_left]
  exact hran.exists_filter_eq

/-- An error without a trace is a refusal: a query that runs is seen in the record of calls, which a
refusal leaves as it was. -/
theorem execute_eq_refusal_iff {e : DispatchError} {ctx : Context} {criteria : C.Value kind}
    {s : Session C} :
    (intake.after empty offers).execute ctx criteria answer s = (.error e, s) ↔
      Refuses (intake.admitted empty offers) kind answer e := by
  refine ⟨fun heq => ?_, fun h => execute_of_refuses h ctx criteria s⟩
  rcases refuses_or_isOwn offers kind answer with ⟨e', h⟩ | ⟨query, filter, hown⟩
  · rw [execute_of_refuses h ctx criteria s] at heq
    cases heq
    exact h
  · obtain ⟨call, hcall⟩ := exists_asked_of_isOwn hown ctx criteria s
    rw [heq, Session.asked_self] at hcall
    cases hcall

end

/-- After every history of registrations, criteria are resolved by what was taken in. -/
theorem execute_resolved (offers : List (QueryOffer C)) (ctx : Context) {kind : C.Kind}
    (criteria : C.Value kind) (answer : C.Answer) (s : Session C) :
    Resolved (takeInPlace.admitted empty offers) (takeInPlace.after empty offers) ctx criteria
      answer s := by
  rw [takeInPlace_eq]
  constructor
  case unknown =>
    rw [execute_eq_refusal_iff]
    exact ⟨fun h => by cases h; assumption, .unknown⟩
  case missing =>
    rw [execute_eq_refusal_iff]
    exact ⟨fun h => by cases h; assumption, .missing⟩
  case foreign =>
    rw [execute_eq_refusal_iff]
    exact ⟨fun h => by cases h; assumption, .foreign⟩
  case runs =>
    constructor
    · rintro ⟨call, hcall⟩
      rcases refuses_or_isOwn offers kind answer with ⟨e, h⟩ | hown
      · rw [execute_of_refuses h ctx criteria s, Session.asked_self] at hcall
        cases hcall
      · exact hown
    · rintro ⟨query, filter, hown⟩
      exact exists_asked_of_isOwn hown ctx criteria s
  case ran => exact fun _ _ hown => exists_ran_of_isOwn hown ctx criteria s
  case unique =>
    rintro ⟨answer, entry⟩ hmem ⟨answer', entry'⟩ hmem' htag hanswer
    obtain rfl : answer = answer' := hanswer
    have hholds := (holds_after_iff offers _ ⟨answer, entry⟩).mpr ⟨hmem, rfl⟩
    have hholds' := (holds_after_iff offers _ ⟨answer, entry'⟩).mpr ⟨hmem', htag.symm⟩
    have hsame := hholds.symm.trans hholds'
    cases hsame
    rfl
  case output => exact fun before => executeInto_eq _ ctx criteria answer before s

end QueryRegistry
end Switchboard
