import Switchboard.Proofs.Session
import Switchboard.Query.Registry
import Switchboard.Sample.Catalogue

/-!
# Confinement of query results

Under the organisation filter a caller sees of a query result what {lit}`Context.canAccess` grants,
and nothing else tells the caller anything about the rest.  Three checks have to agree for that: the
one of the context, the one of the filter, and the narrowing of a result to a list of organisations.

Main results:

- Definition {lit}`Result.Confined`: what a caller is answered when a query found a result.
- Theorem {lit}`Result.confined_visible`: the organisation filter answers that.
- Theorem {lit}`QueryRegistry.execute_confined`: so does every registry that took the query in.
- Theorem {lit}`QueryRegistry.execute_accessible`: whatever is shown, the caller may access.
-/

namespace Switchboard

variable {C : Catalogue}

/-! ## What the filter shows -/

/-- Without the system's privilege, access is membership in the organisations of the context. -/
theorem Context.canAccess_of_organisations {ctx : Context} {ids : List Uuid}
    (hsystem : ctx.isSystem = false) (hids : ctx.organisations = some ids) (organisation : Uuid) :
    ctx.canAccess organisation = ids.contains organisation := by
  simp [canAccess, hsystem, hids]

namespace Result

variable {α : Type} {owner : α → Uuid} {ctx : Context}

/-- What a caller is answered when a query found a result: the system sees all of it, somebody
without organisations an error, and everybody else the items that the context grants. -/
structure Confined (owner : α → Uuid) (ctx : Context) (found : Result α)
    (answer : Except DispatchError (Option (Result α))) : Prop where
  system : ctx.isSystem = true → answer = .ok (some found)
  nameless : ctx.isSystem = false → ctx.organisations = none →
    answer = .error (.lookup .noOrganisations)
  sequence : ∀ ids items, ctx.isSystem = false → ctx.organisations = some ids →
    found = .sequence items →
      answer = .ok (some (.sequence (items.filter fun item => ctx.canAccess (owner item))))
  granted : ∀ ids item, ctx.isSystem = false → ctx.organisations = some ids →
    found = .single item → ctx.canAccess (owner item) = true → answer = .ok (some found)
  denied : ∀ ids item, ctx.isSystem = false → ctx.organisations = some ids →
    found = .single item → ctx.canAccess (owner item) = false →
      answer = .error (.permission (.resultDenied (owner item)))

/-- Narrowing to the organisations of a context keeps what the context grants. -/
theorem restrict_eq {ids : List Uuid} (hsystem : ctx.isSystem = false)
    (hids : ctx.organisations = some ids) (found : Result α) :
    found.restrict owner ids =
      match found with
      | .single item =>
        if ctx.canAccess (owner item) then .ok (.single item)
        else .error (.permission (.resultDenied (owner item)))
      | .sequence items =>
        .ok (.sequence (items.filter fun item => ctx.canAccess (owner item))) := by
  cases found with
  | single item =>
    simp only [restrict, restrictSingle, Context.canAccess_of_organisations hsystem hids]
    cases ids.contains (owner item) <;> rfl
  | sequence items =>
    simp only [restrict, Context.canAccess_of_organisations hsystem hids]

/-- The organisation filter confines every result to what the context grants. -/
theorem confined_visible (owner : α → Uuid) (ctx : Context) (found : Result α) :
    Confined owner ctx found ((found.visible owner ctx).map some) where
  system hsystem := by
    simp only [visible, if_pos hsystem]
    rfl
  nameless hsystem hids := by
    simp only [visible, hsystem, hids]
    rfl
  sequence ids items hsystem hids hfound := by
    subst hfound
    simp only [visible, hsystem, hids, restrict_eq hsystem hids]
    rfl
  granted ids item hsystem hids hfound haccess := by
    subst hfound
    simp only [visible, hsystem, hids, restrict_eq hsystem hids, haccess]
    rfl
  denied ids item hsystem hids hfound haccess := by
    subst hfound
    simp only [visible, hsystem, hids, restrict_eq hsystem hids, haccess]
    rfl

/-- What is shown of a result is accessible. -/
theorem Confined.accessible {found shown : Result α}
    {answer : Except DispatchError (Option (Result α))} (h : Confined owner ctx found answer)
    (hshown : answer = .ok (some shown)) :
    ∀ item ∈ shown.items, ctx.canAccess (owner item) = true := by
  intro item hitem
  cases hsystem : ctx.isSystem with
  | true => exact Context.canAccess_iff.mpr (.inl hsystem)
  | false =>
    cases hids : ctx.organisations with
    | none =>
      rw [h.nameless hsystem hids] at hshown
      cases hshown
    | some ids =>
      cases found with
      | single one =>
        cases haccess : ctx.canAccess (owner one) with
        | true =>
          rw [h.granted ids one hsystem hids rfl haccess] at hshown
          cases hshown
          rwa [List.mem_singleton.mp hitem]
        | false =>
          rw [h.denied ids one hsystem hids rfl haccess] at hshown
          cases hshown
      | sequence items =>
        rw [h.sequence ids items hsystem hids rfl] at hshown
        cases hshown
        exact (List.mem_filter.mp hitem).2

/-- Two sequences that agree on what the context grants are answered alike. -/
theorem Confined.eq_of_filter_eq {items items' : List α}
    {answer answer' : Except DispatchError (Option (Result α))}
    (h : Confined owner ctx (.sequence items) answer)
    (h' : Confined owner ctx (.sequence items') answer') (hsystem : ctx.isSystem = false)
    (hagree : (items.filter fun item => ctx.canAccess (owner item)) =
      items'.filter fun item => ctx.canAccess (owner item)) : answer = answer' := by
  cases hids : ctx.organisations with
  | none => rw [h.nameless hsystem hids, h'.nameless hsystem hids]
  | some ids =>
    rw [h.sequence ids items hsystem hids rfl, h'.sequence ids items' hsystem hids rfl, hagree]

end Result

/-! ## What a registry keeps -/

namespace QueryRegistry

/-- Take in queries one after the other, except those whose pairs are taken. -/
def registerAll (r : QueryRegistry C) (offers : List (Σ answer, QueryEntry C answer)) :
    QueryRegistry C :=
  offers.foldl (fun r offer =>
    match r.register offer.2.kind offer.1 offer.2.query offer.2.filter with
    | .ok r' => r'
    | .error _ => r) r

/-- When a registry takes a query in, and what it is then. -/
theorem register_eq_ok_iff {r r' : QueryRegistry C} {kind : C.Kind} {answer : C.Answer}
    {query : Handler C.Store (C.Value kind) (Option (Result (C.Item answer)))}
    {filter : ResultFilter (C.Item answer)} :
    r.register kind answer query filter = .ok r' ↔
      (r.shelf (C.tag kind)).find? answer = none ∧
        r' = ⟨r.shelves.insert (C.tag kind)
          ((r.shelf (C.tag kind)).insert answer ⟨kind, query, filter⟩)⟩ := by
  unfold register
  cases h : (r.shelf (C.tag kind)).find? answer <;> simp [h, eq_comm]

/-- The shelf of a tag after one was put in its place. -/
theorem shelf_insert (r : QueryRegistry C) (tag other : String) (shelf : QueryShelf C) :
    (⟨r.shelves.insert tag shelf⟩ : QueryRegistry C).shelf other =
      if other = tag then shelf else r.shelf other := by
  simp only [QueryRegistry.shelf, Dictionary.find?_insert]
  split <;> rfl

/-- A query that was taken in stands under its pair. -/
theorem find?_of_register {r r' : QueryRegistry C} {kind : C.Kind} {answer : C.Answer}
    {query : Handler C.Store (C.Value kind) (Option (Result (C.Item answer)))}
    {filter : ResultFilter (C.Item answer)}
    (h : r.register kind answer query filter = .ok r') :
    (r'.shelf (C.tag kind)).find? answer = some ⟨kind, query, filter⟩ := by
  obtain ⟨-, rfl⟩ := register_eq_ok_iff.mp h
  rw [shelf_insert, if_pos rfl, QueryShelf.insert_self]

/-- What stands under a pair stays when another query is taken in. -/
theorem find?_of_register_of_find? {r r' : QueryRegistry C} {kind : C.Kind}
    {answer other : C.Answer} {tag : String}
    {query : Handler C.Store (C.Value kind) (Option (Result (C.Item other)))}
    {filter : ResultFilter (C.Item other)} {entry : QueryEntry C answer}
    (hentry : (r.shelf tag).find? answer = some entry)
    (h : r.register kind other query filter = .ok r') :
    (r'.shelf tag).find? answer = some entry := by
  obtain ⟨hfree, rfl⟩ := register_eq_ok_iff.mp h
  rw [shelf_insert]
  split
  · rename_i htag
    subst htag
    have hne : answer ≠ other := by
      rintro rfl
      rw [hentry] at hfree
      cases hfree
    rw [QueryShelf.insert_of_ne _ hne, hentry]
  · exact hentry

/-- What stands under a pair stays there. -/
theorem find?_registerAll {r : QueryRegistry C} {answer : C.Answer} {tag : String}
    {entry : QueryEntry C answer} (hentry : (r.shelf tag).find? answer = some entry)
    (offers : List (Σ answer, QueryEntry C answer)) :
    ((r.registerAll offers).shelf tag).find? answer = some entry := by
  induction offers generalizing r with
  | nil => exact hentry
  | cons offer rest ih =>
    refine ih (r := match r.register offer.2.kind offer.1 offer.2.query offer.2.filter with
      | .ok r' => r'
      | .error _ => r) ?_
    split
    · rename_i r' hregister
      exact find?_of_register_of_find? hentry hregister
    · exact hentry

/-! ## What a query is answered -/

section
variable {kind : C.Kind} {answer : C.Answer}
  {query : Handler C.Store (C.Value kind) (Option (Result (C.Item answer)))}
  {filter : ResultFilter (C.Item answer)} {ctx : Context} {criteria : C.Value kind}

/-- Criteria of the type that a query takes are answered by that query. -/
theorem execute_of_find {r : QueryRegistry C}
    (hentry : (r.shelf (C.tag kind)).find? answer = some ⟨kind, query, filter⟩) (ctx : Context)
    (criteria : C.Value kind) :
    r.execute ctx criteria answer = runEntry ⟨kind, query, filter⟩ ctx criteria := by
  unfold QueryRegistry.shelf at hentry
  unfold execute
  cases hshelf : r.shelves.find? (C.tag kind) with
  | none =>
    rw [hshelf] at hentry
    cases hentry
  | some shelf =>
    rw [hshelf, Option.getD_some] at hentry
    simp only [hentry, dif_pos]

/-- What a query found goes through its filter, which is told the context of the query. -/
theorem runEntry_of_found {s : Session C} {found : Result (C.Item answer)}
    (hfound : (query.call (.query kind criteria) (ctx.withHandler query.name) criteria s).1 =
      .ok (some found)) :
    ∃ n, (runEntry ⟨kind, query, filter⟩ ctx criteria s).1 =
      (containCheck (C.tag kind) (filter.apply n (ctx.withHandler query.name) found)).map some := by
  simp only [runEntry, bind_apply, hfound]
  exact ⟨_, rfl⟩

/-- A query that found nothing, or failed, answers no value. -/
theorem runEntry_of_not_found {s : Session C}
    (hnothing : ∀ found, (query.call (.query kind criteria) (ctx.withHandler query.name)
      criteria s).1 ≠ .ok (some found)) (shown : Result (C.Item answer)) :
    (runEntry ⟨kind, query, filter⟩ ctx criteria s).1 ≠ .ok (some shown) := by
  simp only [runEntry, bind_apply]
  cases houtcome :
    (query.call (.query kind criteria) (ctx.withHandler query.name) criteria s).1 with
  | panicked value => simp [contain, bind_apply, pure_apply]
  | returned result =>
    cases result with
    | error e => simp [contain, bind_apply, pure_apply]
    | ok found? =>
      cases found? with
      | none => simp [contain, pure_apply]
      | some found => exact absurd houtcome (hnothing found)

end

/-- Writing an answer over an output. -/
def written {α : Type} : Except DispatchError (Option α) → Except DispatchError Unit × Option α
  | .ok found => (.ok (), found)
  | .error e => (.error e, none)

/-- Asking for an output is asking for an answer that is written over it, whatever it held. -/
theorem executeInto_eq (r : QueryRegistry C) (ctx : Context) {kind : C.Kind}
    (criteria : C.Value kind) (answer : C.Answer) (output : Option (Result (C.Item answer)))
    (s : Session C) :
    r.executeInto ctx criteria answer output s =
      (written (r.execute ctx criteria answer s).1, (r.execute ctx criteria answer s).2) := by
  simp only [executeInto, bind_apply]
  cases (r.execute ctx criteria answer s).1 <;> rfl

section
variable {r r' : QueryRegistry C} {kind : C.Kind} {answer : C.Answer}
  {query : Handler C.Store (C.Value kind) (Option (Result (C.Item answer)))}
  {owner : C.Item answer → Uuid} {ctx : Context} {criteria : C.Value kind}

/-- A result that a query under the organisation filter found is confined. -/
theorem confined_execute (hregister : r.register kind answer query (.organisation owner) = .ok r')
    (later : List (Σ answer, QueryEntry C answer)) {s : Session C} {found : Result (C.Item answer)}
    (hfound : (query.call (.query kind criteria) (ctx.withHandler query.name) criteria s).1 =
      .ok (some found)) :
    found.Confined owner ctx ((r'.registerAll later).execute ctx criteria answer s).1 := by
  obtain ⟨n, hanswer⟩ := runEntry_of_found hfound
  rw [execute_of_find (find?_registerAll (find?_of_register hregister) later), hanswer]
  -- The filter is told the context under the query's name, which grants the same.
  exact Result.confined_visible owner ctx found

/-- Whatever the organisation filter lets a query show belongs to the caller's organisations. -/
theorem execute_accessible
    (hregister : r.register kind answer query (.organisation owner) = .ok r')
    (later : List (Σ answer, QueryEntry C answer)) {s : Session C}
    {shown : Result (C.Item answer)}
    (hshown : ((r'.registerAll later).execute ctx criteria answer s).1 = .ok (some shown)) :
    ∀ item ∈ shown.items, ctx.canAccess (owner item) = true := by
  by_cases hfound : ∃ found, (query.call (.query kind criteria) (ctx.withHandler query.name)
    criteria s).1 = .ok (some found)
  · obtain ⟨found, hfound⟩ := hfound
    exact (confined_execute hregister later hfound).accessible hshown
  · rw [execute_of_find (find?_registerAll (find?_of_register hregister) later)] at hshown
    exact absurd hshown (runEntry_of_not_found (fun found h => hfound ⟨found, h⟩) shown)

/-- Every query that was registered under the organisation filter answers with what the context
grants of the result it found, also over an output, whatever that held.  Of a sequence, the items
that the context does not grant make no difference to the answer. -/
theorem execute_confined (hregister : r.register kind answer query (.organisation owner) = .ok r')
    (later : List (Σ answer, QueryEntry C answer)) {s : Session C} {found : Result (C.Item answer)}
    (hfound : (query.call (.query kind criteria) (ctx.withHandler query.name) criteria s).1 =
      .ok (some found)) :
    let served := r'.registerAll later
    found.Confined owner ctx (served.execute ctx criteria answer s).1 ∧
      (∀ output, served.executeInto ctx criteria answer output s =
        (written (served.execute ctx criteria answer s).1,
          (served.execute ctx criteria answer s).2)) ∧
      ∀ s' items items', found = .sequence items →
        (query.call (.query kind criteria) (ctx.withHandler query.name) criteria s').1 =
          .ok (some (.sequence items')) →
        (items.filter fun item => ctx.canAccess (owner item)) =
          (items'.filter fun item => ctx.canAccess (owner item)) →
        ctx.isSystem = false →
          (served.execute ctx criteria answer s).1 = (served.execute ctx criteria answer s').1 ∧
            ∀ output output', (served.executeInto ctx criteria answer output s).1 =
              (served.executeInto ctx criteria answer output' s').1 := by
  intro served
  have hconfined := confined_execute hregister later hfound
  refine ⟨hconfined, fun output => served.executeInto_eq ctx criteria answer output s, ?_⟩
  intro s' items items' hitems hfound' hagree hsystem
  subst hitems
  have hsame := hconfined.eq_of_filter_eq (confined_execute hregister later hfound') hsystem hagree
  refine ⟨hsame, fun output output' => ?_⟩
  rw [executeInto_eq, executeInto_eq, hsame]

end

end QueryRegistry

/-! ## Two organisations -/

namespace Sample

/-- The sample service, whose accounts come in sequences. -/
abbrev bank : Catalogue :=
  catalogue fun _ => "accounts"

/-- Lists all accounts. -/
def ledger : Handler bank.Store (bank.Value .ping) (Option (Result (bank.Item .accounts))) :=
  ⟨1, "ledger", .withStore fun _ store _ => (.ok (some (.sequence store.accounts)), store)⟩

/-- The account with an identifier in an organisation. -/
def account (id : String) (organisation : Nat) : Account :=
  ⟨id, Uuid.random organisation, ""⟩

/-- The ledger of a bank whose accounts are shown to members of their organisations. -/
def teller : QueryRegistry bank :=
  ⟨Dictionary.empty.insert "Ping"
    (QueryShelf.empty.insert .accounts ⟨.ping, ledger, .organisation Account.organisation⟩)⟩

end Sample

/-- A member of one organisation gets its accounts in their order, and cannot tell how many the
other organisation has. -/
theorem QueryRegistry.execute_confined_member :
    let ctx := Context.blank.withOrganisations [Uuid.random 1]
    let criteria : Sample.bank.Value .ping := Sample.Ping.ping
    let s : Session Sample.bank := .start
      ⟨[], [Sample.account "a" 1, Sample.account "b" 2, Sample.account "c" 1]⟩ 0
    let s' : Session Sample.bank := .start ⟨[], [Sample.account "a" 1, Sample.account "c" 1]⟩ 0
    (Sample.teller.execute ctx criteria .accounts s).1 =
        .ok (some (.sequence [Sample.account "a" 1, Sample.account "c" 1])) ∧
      ∀ output output', (Sample.teller.executeInto ctx criteria .accounts output s).1 =
        (Sample.teller.executeInto ctx criteria .accounts output' s').1 := by
  intro ctx criteria s s'
  have hregister : (QueryRegistry.empty : QueryRegistry Sample.bank).register .ping .accounts
      Sample.ledger (.organisation Sample.Account.organisation) = .ok Sample.teller := rfl
  have hfound : (Sample.ledger.call (.query .ping criteria) (ctx.withHandler Sample.ledger.name)
    criteria s).1 = .ok (some (.sequence s.store.accounts)) := rfl
  have hfound' : (Sample.ledger.call (.query .ping criteria) (ctx.withHandler Sample.ledger.name)
    criteria s').1 = .ok (some (.sequence s'.store.accounts)) := rfl
  have hagree : (s.store.accounts.filter fun item => ctx.canAccess item.organisation) =
      s'.store.accounts.filter fun item => ctx.canAccess item.organisation := by decide
  obtain ⟨hconfined, -, halike⟩ := execute_confined hregister [] hfound
  exact ⟨hconfined.sequence _ _ rfl rfl rfl, (halike s' _ _ rfl hfound' hagree rfl).2⟩

end Switchboard
