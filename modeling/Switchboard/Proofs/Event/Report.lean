import Mathlib.Data.List.Forall2
import Mathlib.Data.List.Range
import Switchboard.Proofs.Event.Dispatch
import Switchboard.Proofs.Registration.InPlace

/-!
# What a dispatch reports

A dispatch runs every handler of its event once, in the order of registration, whatever the others
make of it, and reports exactly the failures: each under the place of its handler, in the answer and
in the log.

How often a handler was called before decides how it ends its next call, so what the handlers of an
event make of it is worked out first, from the record of calls alone.  The run is then read off.

Main results:

- Definition {lit}`EventRegistry.respond`: what handlers make of an event.
- Theorem {lit}`EventRegistry.runFrom_eq`: a run of handlers, with its failures and its log.
- Theorem {lit}`EventRegistry.dispatch_reported`: what every dispatch does and reports.
-/

namespace Switchboard

variable {C : Catalogue}

/-! ## Responses -/

/-- How an event handler ends a call. -/
def EventHandler.outcome {π : Type} (h : EventHandler π) (n : Nat) (ctx : Context) (event : π) :
    Outcome HandlerError Unit :=
  match h.behaviour with
  | .plain run => run n event
  | .withContext run => run n ctx event

/-- A handler's part in a dispatch: which it is, and how often it had been called before. -/
structure Response (C : Catalogue) (kind : C.Kind) where
  handler : EventHandler (C.Value kind)
  number : Nat

namespace Response

variable {kind : C.Kind}

/-- How the handler ends its call, in the caller's context under its own name. -/
def outcome (x : Response C kind) (ctx : Context) (event : C.Value kind) :
    Outcome HandlerError Unit :=
  x.handler.outcome x.number (ctx.withHandler x.handler.name) event

/-- The call by which the handler is given the event, and the caller's context under its own name if
it asks for one. -/
def call (x : Response C kind) (ctx : Context) (event : C.Value kind) : Call C where
  callee := x.handler.callee
  name := some x.handler.name
  number := x.number
  input := .handler kind event
    (if x.handler.dependencies.context then some (ctx.withHandler x.handler.name) else none) none
  succeeded := (x.outcome ctx event).succeeded

/-- The failure of the handler that stands at a place, if it failed. -/
def failure? (x : Response C kind) (ctx : Context) (event : C.Value kind) (index : Nat) :
    Option HandlerFailure :=
  match contain (C.tag kind) (x.outcome ctx event) with
  | .ok _ => none
  | .error e => some ⟨index, e⟩

/-- There is a failure exactly if the call did not succeed. -/
theorem failure?_eq_none_iff {x : Response C kind} {ctx : Context} {event : C.Value kind}
    {index : Nat} :
    x.failure? ctx event index = none ↔ (x.outcome ctx event).succeeded = true := by
  unfold failure?
  constructor
  · intro h
    cases hcontain : contain (C.tag kind) (x.outcome ctx event) with
    | ok _ => exact succeeded_of_contain hcontain
    | error e =>
      rw [hcontain] at h
      cases h
  · intro h
    rw [contain_of_succeeded h]

/-- A failure is the contained one of the handler, at the handler's place. -/
theorem failure?_eq_some_iff {x : Response C kind} {ctx : Context} {event : C.Value kind}
    {index : Nat} {failure : HandlerFailure} :
    x.failure? ctx event index = some failure ↔
      failure.index = index ∧
        contain (C.tag kind) (x.outcome ctx event) = .error failure.error := by
  obtain ⟨place, e⟩ := failure
  unfold failure?
  cases contain (C.tag kind) (x.outcome ctx event) with
  | ok _ => simp
  | error e' => simp [eq_comm]

end Response

/-- A call of a handler is recorded, and changes nothing else. -/
theorem EventHandler.call_eq {kind : C.Kind} (h : EventHandler (C.Value kind)) (ctx : Context)
    (event : C.Value kind) (s : Session C) :
    let x : Response C kind := ⟨h, s.callCount h.callee⟩
    h.call (ctx.withHandler h.name) event s =
      (x.outcome ctx event, { s with calls := s.calls ++ [x.call ctx event] }) := by
  obtain ⟨callee, name, behaviour⟩ := h
  cases behaviour <;> rfl

namespace EventRegistry

variable {kind : C.Kind}

/-- What handlers make of an event, one after the other, after these calls. -/
def respond (ctx : Context) (event : C.Value kind) :
    List (Call C) → List (EventHandler (C.Value kind)) → List (Response C kind)
  | _, [] => []
  | calls, handler :: rest =>
    let x : Response C kind := ⟨handler, calls.countP fun call => call.callee == handler.callee⟩
    x :: respond ctx event (calls ++ [x.call ctx event]) rest

/-- Every handler responds once, in its place. -/
theorem map_handler_respond (ctx : Context) (event : C.Value kind) (calls : List (Call C))
    (handlers : List (EventHandler (C.Value kind))) :
    (respond ctx event calls handlers).map Response.handler = handlers := by
  induction handlers generalizing calls with
  | nil => rfl
  | cons handler rest ih => rw [respond, List.map_cons, ih]

/-- A handler knows of its calls before the dispatch and of those at earlier places. -/
theorem number_of_respond {ctx : Context} {event : C.Value kind} {calls : List (Call C)}
    {handlers : List (EventHandler (C.Value kind))} {before after : List (Response C kind)}
    {x : Response C kind} (h : respond ctx event calls handlers = before ++ x :: after) :
    x.number = calls.countP (fun call => call.callee == x.handler.callee) +
      before.countP fun earlier => earlier.handler.callee == x.handler.callee := by
  induction before generalizing calls handlers with
  | nil =>
    cases handlers with
    | nil => cases h
    | cons handler rest =>
      rw [respond, List.nil_append, List.cons.injEq] at h
      rw [← h.1]
      rfl
  | cons first before ih =>
    cases handlers with
    | nil => cases h
    | cons handler rest =>
      rw [respond, List.cons_append, List.cons.injEq] at h
      rw [ih h.2, ← h.1, List.countP_append, List.countP_cons, List.countP_cons, List.countP_nil]
      simp only [Response.call]
      omega

/-! ## Failures -/

/-- The responses that failed, each with its failure, the first standing at the given place. -/
def failed (ctx : Context) (event : C.Value kind) (index : Nat)
    (responses : List (Response C kind)) : List (Response C kind × HandlerFailure) :=
  (responses.zipIdx index).filterMap fun place =>
    (place.1.failure? ctx event place.2).map fun failure => (place.1, failure)

variable {ctx : Context} {event : C.Value kind}

theorem failed_cons (index : Nat) (x : Response C kind) (rest : List (Response C kind)) :
    failed ctx event index (x :: rest) =
      ((x.failure? ctx event index).map fun failure => (x, failure)).toList ++
        failed ctx event (index + 1) rest := by
  unfold failed
  rw [List.zipIdx_cons, List.filterMap_cons]
  cases x.failure? ctx event index <;> rfl

/-- The failed responses are those at whose places a call failed. -/
theorem mem_failed_iff {responses : List (Response C kind)} {x : Response C kind}
    {failure : HandlerFailure} :
    (x, failure) ∈ failed ctx event 0 responses ↔
      responses[failure.index]? = some x ∧
        contain (C.tag kind) (x.outcome ctx event) = .error failure.error := by
  unfold failed
  rw [List.mem_filterMap]
  constructor
  · rintro ⟨⟨y, i⟩, hmem, hfailure⟩
    obtain ⟨failure', hfailure', heq⟩ := Option.map_eq_some_iff.mp hfailure
    cases heq
    obtain ⟨hindex, hcontain⟩ := Response.failure?_eq_some_iff.mp hfailure'
    subst hindex
    exact ⟨List.mk_mem_zipIdx_iff_getElem?.mp hmem, hcontain⟩
  · rintro ⟨hplace, hcontain⟩
    refine ⟨(x, failure.index), List.mk_mem_zipIdx_iff_getElem?.mpr hplace, ?_⟩
    rw [Response.failure?_eq_some_iff.mpr ⟨rfl, hcontain⟩]
    rfl

/-- Failures come in the order of their places. -/
theorem pairwise_failed (index : Nat) (responses : List (Response C kind)) :
    (failed ctx event index responses).Pairwise fun f g => f.2.index < g.2.index := by
  have hplaces : (responses.zipIdx index).Pairwise fun f g => f.2 < g.2 := by
    rw [← List.pairwise_map, List.zipIdx_map_snd]
    exact List.pairwise_lt_range'
  refine hplaces.filterMap _ ?_
  rintro ⟨x, i⟩ ⟨y, j⟩ hlt f hf g hg
  obtain ⟨failure, hfailure, rfl⟩ := Option.map_eq_some_iff.mp hf
  obtain ⟨failure', hfailure', rfl⟩ := Option.map_eq_some_iff.mp hg
  rw [(Response.failure?_eq_some_iff.mp hfailure).1, (Response.failure?_eq_some_iff.mp hfailure').1]
  exact hlt

/-- No response failed exactly if all calls succeeded. -/
theorem failed_eq_nil_iff {index : Nat} {responses : List (Response C kind)} :
    failed ctx event index responses = [] ↔
      ∀ x ∈ responses, (x.outcome ctx event).succeeded = true := by
  induction responses generalizing index with
  | nil => simp [failed]
  | cons x rest ih =>
    rw [failed_cons, List.append_eq_nil_iff, ih, List.forall_mem_cons]
    refine and_congr_left fun _ => ?_
    have hsucceeded : x.failure? ctx event index = none ↔ (x.outcome ctx event).succeeded = true :=
      Response.failure?_eq_none_iff
    rw [← hsucceeded]
    cases x.failure? ctx event index <;> simp

/-- The log entry of a failure of the handler with a name. -/
def failureEntry (background : Bool) (tag name : String) (failure : HandlerFailure) : LogEntry :=
  ⟨background, .error, "event handler failed",
    [("handler", .text name), ("event_type", .text tag), ("index", .number failure.index),
      ("error", .text failure.error.message)]⟩

/-- A run calls every handler, collects the failures and logs them; nothing else happens. -/
theorem runFrom_eq (ctx : Context) (event : C.Value kind) (index : Nat)
    (handlers : List (EventHandler (C.Value kind))) (s : Session C) :
    let responses := respond ctx event s.calls handlers
    runFrom ctx event index handlers s =
      ((failed ctx event index responses).map Prod.snd,
        { s with
          calls := s.calls ++ responses.map fun x => x.call ctx event
          log := s.log ++ (failed ctx event index responses).map fun f =>
            failureEntry s.background (C.tag kind) f.1.handler.name f.2 }) := by
  induction handlers generalizing index s with
  | nil => simp [runFrom, pure_apply, respond, failed]
  | cons handler rest ih =>
    have hcall : s.callCount handler.callee =
        s.calls.countP fun call => call.callee == handler.callee := rfl
    dsimp only
    rw [respond, failed_cons]
    simp only [runFrom, bind_apply, handler.call_eq, hcall]
    generalize hx : (⟨handler, s.calls.countP fun call => call.callee == handler.callee⟩ :
      Response C kind) = x
    have hhandler : x.handler = handler := by rw [← hx]
    -- The others run after the call in either case, but a failure is logged before.
    cases hcontain : contain (C.tag kind) (x.outcome ctx event) with
    | ok _ =>
      have hnone : x.failure? ctx event index = none := by rw [Response.failure?, hcontain]
      dsimp only
      rw [ih, hnone]
      simp
    | error e =>
      have hsome : x.failure? ctx event index = some ⟨index, e⟩ := by
        rw [Response.failure?, hcontain]
      dsimp only
      simp only [bind_apply, Session.report, ih, hsome]
      simp [pure_apply, failureEntry, hhandler]

/-! ## Dispatches -/

/-- What a dispatch of an event does and reports, given what the handlers make of the event. -/
structure Reported (r : EventRegistry C) (ctx : Context) (event : C.Value kind) (s : Session C)
    (responses : List (Response C kind)) (failures : List HandlerFailure)
    (entries : List LogEntry) : Prop where
  /-- Every handler of the event responds once, in the order of registration, -/
  handlers : responses.map (fun x => (⟨kind, x.handler⟩ : EventOffer C)) = r.roster (C.tag kind)
  /-- each knowing only of its own earlier calls; -/
  numbers : ∀ before x after, responses = before ++ x :: after →
    x.number = s.callCount x.handler.callee +
      before.countP fun earlier => earlier.handler.callee == x.handler.callee
  /-- nothing happens but their calls and the log entries. -/
  session : (r.dispatch ctx event s).2 =
    { s with
      calls := s.calls ++ responses.map fun x => x.call ctx event
      log := s.log ++ entries }
  /-- The event is handled exactly if none of them fails; -/
  ok_iff : (r.dispatch ctx event s).1 = .ok () ↔
    ∀ x ∈ responses, (x.outcome ctx event).succeeded = true
  /-- otherwise the answer is the one error of all failures. -/
  aggregate : (¬ ∀ x ∈ responses, (x.outcome ctx event).succeeded = true) →
    (r.dispatch ctx event s).1 = .error (.aggregate ⟨C.tag kind, failures⟩)
  /-- The failures are those of the handlers that failed, each at the handler's place, -/
  exact : ∀ failure, failure ∈ failures ↔ ∃ x, responses[failure.index]? = some x ∧
    contain (C.tag kind) (x.outcome ctx event) = .error failure.error
  /-- in strictly increasing order. -/
  increasing : failures.Pairwise fun f g => f.index < g.index
  /-- The names of the tag tell which handler stands at a place, -/
  names : (r.handlerNames (C.tag kind)) = responses.map fun x => x.handler.name
  /-- and each failure has its log entry, with its place and the name at that place. -/
  logged : List.Forall₂ (fun failure entry => ∃ name,
    (r.handlerNames (C.tag kind))[failure.index]? = some name ∧
      entry = failureEntry s.background (C.tag kind) name failure) failures entries

/-- A dispatch to a slot of handlers does and reports what the handlers make of the event. -/
theorem reported_of_find {r : EventRegistry C} {handlers : List (EventHandler (C.Value kind))}
    (hslot : r.slots.find? (C.tag kind) = some ⟨kind, handlers⟩) (ctx : Context)
    (event : C.Value kind) (s : Session C) :
    let failed := failed ctx event 0 (respond ctx event s.calls handlers)
    r.Reported ctx event s (respond ctx event s.calls handlers) (failed.map Prod.snd)
      (failed.map fun f => failureEntry s.background (C.tag kind) f.1.handler.name f.2) := by
  have hhandlers := map_handler_respond ctx event s.calls handlers
  have hnumbers : ∀ before x after, respond ctx event s.calls handlers = before ++ x :: after →
      x.number = s.callCount x.handler.callee +
        before.countP fun earlier => earlier.handler.callee == x.handler.callee :=
    fun _ _ _ h => number_of_respond h
  have hdispatch := @dispatch_of_find C r ⟨kind, handlers⟩ hslot ctx event s
  rw [runFrom_eq] at hdispatch
  generalize respond ctx event s.calls handlers = responses at hhandlers hnumbers hdispatch ⊢
  subst hhandlers
  have hnames : r.handlerNames (C.tag kind) = responses.map fun x => x.handler.name := by
    rw [handlerNames, hslot]
    exact List.map_map
  have hnone : (failed ctx event 0 responses).map Prod.snd = [] ↔
      ∀ x ∈ responses, (x.outcome ctx event).succeeded = true :=
    List.map_eq_nil_iff.trans failed_eq_nil_iff
  intro failed
  constructor
  case handlers =>
    rw [roster, hslot]
    exact List.map_map.symm
  case numbers => exact hnumbers
  case session => rw [hdispatch]
  case ok_iff =>
    rw [hdispatch, ← hnone]
    dsimp only
    constructor
    · intro hok
      by_contra hfailures
      rw [if_neg hfailures] at hok
      cases hok
    · intro hnil
      exact if_pos hnil
  case aggregate =>
    intro hfails
    rw [hdispatch]
    exact if_neg fun hnil => hfails (hnone.mp hnil)
  case exact =>
    intro failure
    rw [List.mem_map]
    constructor
    · rintro ⟨⟨x, failure⟩, hmem, rfl⟩
      exact ⟨x, mem_failed_iff.mp hmem⟩
    · rintro ⟨x, hx⟩
      exact ⟨(x, failure), mem_failed_iff.mpr hx, rfl⟩
  case increasing => exact List.pairwise_map.mpr (pairwise_failed 0 responses)
  case names => exact hnames
  case logged =>
    rw [List.forall₂_map_left_iff, List.forall₂_map_right_iff, List.forall₂_same]
    rintro ⟨x, failure⟩ hmem
    refine ⟨x.handler.name, ?_, rfl⟩
    rw [hnames, List.getElem?_map, (mem_failed_iff.mp hmem).1]
    rfl

/-- Whatever was handed in at a registry: every handler that it took in for an event is called once,
in the order of registration, on that event and in the caller's context under the handler's own
name, whatever the others make of it.  The answer, and the log, name exactly those that failed, each
with its own error and in its place, and the names of the tag tell who stands there. -/
theorem dispatch_reported (offers : List (EventOffer C)) {kind : C.Kind}
    (hkind : ∃ offer ∈ intake.admitted empty offers, offer.1 = kind) (ctx : Context)
    (event : C.Value kind) (s : Session C) :
    let r := intake.after empty offers
    (∃ responses failures entries, r.Reported ctx event s responses failures entries) ∧
      r.roster (C.tag kind) =
        (intake.admitted empty offers).filter (fun offer => offer.tag = C.tag kind) ∧
      (EventBoard.takeInPlace.after .empty offers).handlerNames (C.tag kind) =
        r.handlerNames (C.tag kind) := by
  intro r
  obtain ⟨offer, hmem, rfl⟩ := hkind
  have hkeeps := keeps_after offers
  obtain ⟨handlers, hslot, -⟩ := hkeeps.slot_of_mem hmem
  refine ⟨⟨_, _, _, reported_of_find hslot ctx event s⟩, hkeeps.roster _, ?_⟩
  rw [(EventBoard.aligned_after offers).handlerNames_eq]
  exact congrArg (fun registry => handlerNames registry (C.tag offer.1))
    (EventBoard.mirrors_takeInPlace.after_eq EventBoard.empty offers).symm

end EventRegistry

namespace Sample

/-- Audits payments, always in the same way. -/
def auditor (name : String) (outcome : Outcome HandlerError Unit) : EventOffer bank :=
  ⟨.invoicePaid, 1, name, .plain fun _ _ => outcome⟩

/-- Four handlers, of which the first turns payments down, the second panics, the third is refused
as it takes payments of another type, and the last is content. -/
def auditors : List (EventOffer bank) :=
  [auditor "first" (.error (.rejected "no")), auditor "second" (.panicked (.text "boom")),
    ⟨.fakeInvoicePaid, 2, "other", .plain fun _ _ => .ok ()⟩, auditor "third" (.ok ())]

/-- A payment. -/
def payment : bank.Value .invoicePaid :=
  InvoicePaid.mk (Uuid.random 1) 5

end Sample

namespace EventRegistry

/-- Of three handlers that were taken in, the first two fail, and the third is called all the
same. -/
theorem dispatch_reported_two_failures :
    let r := intake.after empty Sample.auditors
    let s : Session Sample.bank := .start ⟨[], []⟩ 0
    (∃ offer ∈ intake.admitted empty Sample.auditors, offer.1 = .invoicePaid) ∧
      (∃ responses failures entries,
        r.Reported .blank Sample.payment s responses failures entries) ∧
      (r.dispatch .blank Sample.payment s).1 = .error (.aggregate ⟨"events.InvoicePaidEvent",
        [⟨0, .rejected "no"⟩, ⟨1, .panicked "events.InvoicePaidEvent" "boom"⟩]⟩) ∧
      (r.dispatch .blank Sample.payment s).2.calls.length = 3 ∧
      r.handlerNames "events.InvoicePaidEvent" = ["first", "second", "third"] := by
  intro r s
  have hkind : ∃ offer ∈ intake.admitted empty Sample.auditors, offer.1 = .invoicePaid :=
    ⟨Sample.auditor "first" (.error (.rejected "no")), List.mem_cons_self, rfl⟩
  refine ⟨hkind, (dispatch_reported Sample.auditors hkind .blank Sample.payment s).1, ?_, ?_, ?_⟩
  all_goals decide +kernel

end EventRegistry
end Switchboard
