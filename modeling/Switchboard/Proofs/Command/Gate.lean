import Switchboard.Proofs.Command.Sequence
import Switchboard.Sample.Catalogue

/-!
# The gate before a command

No handler runs unless the check it was registered with let the command through, in the same
execution and just before.  This holds over every history of registrations, refused ones among them,
and of executions, whatever the user code does.

The invariant is that a registry knows under a tag the one entry that it took in for it.  Everything
else is said about a single execution, from the calls it added to the record.

Main results:

- Theorem {lit}`CommandRegistry.execute_eq`: an execution opened at the outcome of its check.
- Definition {lit}`Visit.Gated`: what an execution may do, by that outcome.
- Theorem {lit}`CommandDesk.Guarded.step`: one registration or execution keeps the invariant.
- Theorem {lit}`CommandDesk.run_gated`: every execution of every history is gated.
-/

namespace Switchboard

variable {C : Catalogue}

/-! ## A single execution -/

namespace CommandRegistry

variable {r : CommandRegistry C} {entry : CommandEntry C} {kind : C.Kind}

/-- The record of the call by which an entry's check is asked. -/
def inquiry (entry : CommandEntry C) (ctx : Context) (organisation : Option Uuid)
    (s : Session C) : Call C :=
  let number := s.callCount entry.authorizer.callee
  ⟨entry.authorizer.callee, entry.authorizer.name, number, .authorizer ctx organisation,
    (entry.authorizer.decide number ctx organisation).succeeded⟩

/-- An execution asks the check of its tag's entry, adds that to the record, and goes by the
outcome. -/
theorem execute_eq (hentry : r.entries.find? (C.tag kind) = some entry) (ctx : Context)
    (organisation : Option Uuid) (command : C.Value kind) (s : Session C) :
    r.execute ctx organisation command s =
      let check := inquiry entry ctx organisation s
      let asked : Session C := { s with calls := s.calls ++ [check] }
      match entry.authorizer.decide check.number ctx organisation with
      | .returned (.error e) => (.error e, asked)
      | .panicked value => (.error (.handler (.ofPanic (C.tag kind) value)), asked)
      | .returned (.ok ()) =>
        if h : kind = entry.kind then runEntry entry ctx (h ▸ command) asked
        else (.error (.registration (.commandType (C.tag kind))), asked) := by
  simp only [execute, hentry, bind_apply, Authorizer.authorize, Authorizer.call, Session.call,
    pure_apply, inquiry]
  cases entry.authorizer.decide (s.callCount entry.authorizer.callee) ctx organisation with
  | panicked value => rfl
  | returned result =>
    cases result with
    | error e => rfl
    | ok _ =>
      simp only [containCheck]
      split <;> rfl

/-- A command without an entry for its tag is refused, and nobody is called. -/
theorem execute_of_find_none (hnone : r.entries.find? (C.tag kind) = none) (ctx : Context)
    (organisation : Option Uuid) (command : C.Value kind) (s : Session C) :
    r.execute ctx organisation command s =
      (.error (.lookup (.noCommandHandler (C.tag kind))), s) := by
  simp only [execute, hnone, pure_apply]

end CommandRegistry

/-- The membership policy lets through the system, and members of the organisation that was
supplied. -/
theorem Authorizer.member_of_decide {n : Nat} {ctx : Context} {organisation : Option Uuid}
    (h : organisationMember.decide n ctx organisation = .ok ()) :
    ctx.isSystem = true ∨
      ∃ id ids, organisation = some id ∧ ctx.organisations = some ids ∧ id ∈ ids := by
  have hmember : member ctx organisation = .ok () := by
    simpa [organisationMember, Outcome.ok] using h
  rcases member_eq_ok_iff.mp hmember with hsystem | ⟨id, rfl, haccess⟩
  · exact .inl hsystem
  · rcases Context.canAccess_iff.mp haccess with hsystem | ⟨ids, hids, hmem⟩
    · exact .inl hsystem
    · exact .inr ⟨id, ids, rfl, hids, hmem⟩

/-- An execution: who wanted what, what had been taken in until then, and what came of it. -/
structure Visit (C : Catalogue) where
  request : Request C
  /-- The entries that had been taken in. -/
  admitted : List (CommandEntry C)
  result : Except DispatchError Unit
  /-- The calls that the execution added to the record. -/
  calls : List (Call C)
  /-- The store before the execution. -/
  before : C.Store
  /-- The store after it. -/
  after : C.Store

namespace Visit

/-- An execution on a registry, and the session that it leaves. -/
def make (r : CommandRegistry C) (admitted : List (CommandEntry C)) (request : Request C)
    (s : Session C) : Visit C × Session C :=
  let executed := r.execute request.context request.organisation request.command s
  (⟨request, admitted, executed.1, executed.2.calls.drop s.calls.length, s.store,
    executed.2.store⟩, executed.2)

/-- An execution ended with an error, after these calls and no others, and left the store alone. -/
structure TurnedAway (v : Visit C) (calls : List (Call C)) (e : DispatchError) : Prop where
  result : v.result = .error e
  calls : v.calls = calls
  store : v.after = v.before

/-- What an execution does once the check of its tag's entry has come to an outcome: a command of
the entry's type is handed to the entry's handler if it was let through, and nothing happens
otherwise. -/
def Follows (v : Visit C) (entry : CommandEntry C) (check : Call C) :
    Outcome DispatchError Unit → Prop
  | .returned (.error e) => v.TurnedAway [check] e
  | .panicked value => v.TurnedAway [check] (.handler (.ofPanic (C.tag v.request.kind) value))
  | .returned (.ok ()) =>
    (entry.kind ≠ v.request.kind ∧
      v.TurnedAway [check] (.registration (.commandType (C.tag v.request.kind)))) ∨
    entry.kind = v.request.kind ∧ ∃ call, v.calls = [check, call] ∧
      call.Serves entry.handler.callee (v.request.context.withHandler entry.handler.name)
        v.request.command

/-- After the check a handler was called if the command was let through, and nobody otherwise. -/
theorem Follows.calls_eq {v : Visit C} {entry : CommandEntry C} {check : Call C}
    {outcome : Outcome DispatchError Unit} (h : v.Follows entry check outcome) :
    v.calls = [check] ∨ ∃ call, v.calls = [check, call] ∧ outcome = .ok () ∧
      entry.kind = v.request.kind ∧
      call.Serves entry.handler.callee (v.request.context.withHandler entry.handler.name)
        v.request.command := by
  cases outcome with
  | panicked value => exact .inl h.calls
  | returned result =>
    cases result with
    | error e => exact .inl h.calls
    | ok _ =>
      rcases h with ⟨-, haway⟩ | ⟨hkind, call, hcalls, hserves⟩
      · exact .inl haway.calls
      · exact .inr ⟨call, hcalls, rfl, hkind, hserves⟩

/-- An execution is gated if what it does follows from the outcome of the check that was registered
under its tag. -/
structure Gated (v : Visit C) : Prop where
  /-- Without an entry for the tag there is nothing to run. -/
  unknown : (∀ entry ∈ v.admitted, C.tag entry.kind ≠ C.tag v.request.kind) →
    v.TurnedAway [] (.lookup (.noCommandHandler (C.tag v.request.kind)))
  /-- The check of the tag's entry is asked about the caller's own context and organisation. -/
  checked : ∀ entry ∈ v.admitted, C.tag entry.kind = C.tag v.request.kind →
    ∃ check : Call C,
      check.Checks entry.authorizer.callee v.request.context v.request.organisation ∧
      v.Follows entry check
        (entry.authorizer.decide check.number v.request.context v.request.organisation)
  /-- A handler that was called was let in by the check it was registered with, just before. -/
  handled : ∀ call ∈ v.calls, call.served? ≠ none →
    ∃ entry ∈ v.admitted, ∃ check : Call C,
      entry.kind = v.request.kind ∧ v.calls = [check, call] ∧
      check.Checks entry.authorizer.callee v.request.context v.request.organisation ∧
      entry.authorizer.decide check.number v.request.context v.request.organisation = .ok () ∧
      call.Serves entry.handler.callee (v.request.context.withHandler entry.handler.name)
        v.request.command ∧
      (entry.authorizer = .organisationMember → v.request.context.isSystem = true ∨
        ∃ id ids, v.request.organisation = some id ∧
          v.request.context.organisations = some ids ∧ id ∈ ids)
  /-- No more than one handler is called, and no more than once. -/
  once : (v.calls.filterMap Call.served?).length ≤ 1

/-- An execution without an entry for its tag is gated. -/
theorem gated_of_unknown {v : Visit C}
    (haway : v.TurnedAway [] (.lookup (.noCommandHandler (C.tag v.request.kind))))
    (hnone : ∀ entry ∈ v.admitted, C.tag entry.kind ≠ C.tag v.request.kind) : v.Gated where
  unknown _ := haway
  checked entry hmem htag := absurd htag (hnone entry hmem)
  handled call hcall := by
    rw [haway.calls] at hcall
    cases hcall
  once := by
    rw [haway.calls]
    exact Nat.zero_le 1

/-- An execution that follows the check of the only entry for its tag is gated. -/
theorem gated_of_follows {v : Visit C} {entry : CommandEntry C} {check : Call C}
    (hmem : entry ∈ v.admitted) (htag : C.tag entry.kind = C.tag v.request.kind)
    (honly : ∀ other ∈ v.admitted, C.tag other.kind = C.tag v.request.kind → other = entry)
    (hchecks : check.Checks entry.authorizer.callee v.request.context v.request.organisation)
    (hfollows : v.Follows entry check
      (entry.authorizer.decide check.number v.request.context v.request.organisation)) :
    v.Gated where
  unknown hnone := absurd htag (hnone entry hmem)
  checked other hother hsame := by
    obtain rfl := honly other hother hsame
    exact ⟨check, hchecks, hfollows⟩
  handled call hcall hserved := by
    have hne : call ≠ check := fun hsame => hserved (hsame ▸ hchecks.served?_eq)
    rcases hfollows.calls_eq with hcalls | ⟨called, hcalls, hdecide, hkind, hserves⟩
    · rw [hcalls, List.mem_singleton] at hcall
      exact absurd hcall hne
    · rw [hcalls, List.mem_pair] at hcall
      obtain rfl := hcall.resolve_left hne
      refine ⟨entry, hmem, check, hkind, hcalls, hchecks, hdecide, hserves, fun hmember => ?_⟩
      rw [hmember] at hdecide
      exact Authorizer.member_of_decide hdecide
  once := by
    rcases hfollows.calls_eq with hcalls | ⟨called, hcalls, -, -, hserves⟩
    · simp [hcalls, hchecks.served?_eq]
    · simp [hcalls, hchecks.served?_eq, hserves.served?_eq]

end Visit

/-! ## Histories -/

/-- What happens at the desk where commands are handed in. -/
inductive CommandAct (C : Catalogue) where
  /-- A handler is handed in with its check. -/
  | register (entry : CommandEntry C)
  /-- A command is. -/
  | execute (request : Request C)

/-- A registry at work, with what it took in and all executions so far, the latest last. -/
structure CommandDesk (C : Catalogue) where
  registry : CommandRegistry C
  session : Session C
  admitted : List (CommandEntry C)
  visits : List (Visit C)

namespace CommandDesk

/-- A registry without handlers. -/
def start (s : Session C) : CommandDesk C :=
  ⟨.empty, s, [], []⟩

/-- A handler is taken in unless the registry refuses it; a command is executed. -/
def step (d : CommandDesk C) : CommandAct C → CommandDesk C
  | .register entry =>
    match d.registry.register entry.kind entry.handler entry.authorizer with
    | .ok registry => { d with registry, admitted := d.admitted ++ [entry] }
    | .error _ => d
  | .execute request =>
    let (visit, session) := Visit.make d.registry d.admitted request d.session
    { d with session, visits := d.visits ++ [visit] }

/-- One act after the other. -/
def run (d : CommandDesk C) (acts : List (CommandAct C)) : CommandDesk C :=
  acts.foldl step d

/-- A registry knows under a tag the entry that it took in for it. -/
def Knows (r : CommandRegistry C) (admitted : List (CommandEntry C)) : Prop :=
  ∀ tag entry, r.entries.find? tag = some entry ↔ entry ∈ admitted ∧ C.tag entry.kind = tag

/-- A registry that takes an entry in knows it from then on. -/
theorem Knows.register {r r' : CommandRegistry C} {admitted : List (CommandEntry C)}
    {entry : CommandEntry C} (h : Knows r admitted)
    (hregister : r.register entry.kind entry.handler entry.authorizer = .ok r') :
    Knows r' (admitted ++ [entry]) := by
  obtain ⟨hfree, rfl⟩ := CommandRegistry.register_eq_ok_iff.mp hregister
  intro tag other
  rw [Dictionary.find?_insert, List.mem_append, List.mem_singleton]
  by_cases htag : tag = C.tag entry.kind
  · subst htag
    rw [if_pos rfl]
    constructor
    · intro hother
      cases hother
      exact ⟨.inr rfl, rfl⟩
    · rintro ⟨hmem | rfl, hsame⟩
      -- An entry with this tag would have stood in the way.
      · rw [(h _ other).mpr ⟨hmem, hsame⟩] at hfree
        cases hfree
      · rfl
  · rw [if_neg htag, h tag other]
    constructor
    · rintro ⟨hmem, hsame⟩
      exact ⟨.inl hmem, hsame⟩
    · rintro ⟨hmem | rfl, hsame⟩
      · exact ⟨hmem, hsame⟩
      · exact absurd hsame.symm htag

section
variable {r : CommandRegistry C} {admitted : List (CommandEntry C)} {request : Request C}
  {s : Session C} {entry : CommandEntry C}

/-- An execution adds the calls it is said to have added. -/
theorem calls_make : (Visit.make r admitted request s).2.calls =
    s.calls ++ (Visit.make r admitted request s).1.calls := by
  have hgrows : s.calls <+:
      (r.execute request.context request.organisation request.command s).2.calls := by
    rcases r.calls_execute request.context request.organisation request.command s with
      ⟨-, hcalls⟩ | ⟨_, _, new, -, -, hcalls, -⟩
    · exact hcalls ▸ List.prefix_rfl
    · exact hcalls ▸ List.prefix_append _ _
  obtain ⟨new, hnew⟩ := hgrows
  simp only [Visit.make, ← hnew, List.drop_left]

/-- The entry under the tag of a command decides what an execution does. -/
theorem follows_make (hentry : r.entries.find? (C.tag request.kind) = some entry)
    (admitted : List (CommandEntry C)) (s : Session C) :
    ∃ check : Call C,
      check.Checks entry.authorizer.callee request.context request.organisation ∧
      (Visit.make r admitted request s).1.Follows entry check
        (entry.authorizer.decide check.number request.context request.organisation) := by
  refine ⟨CommandRegistry.inquiry entry request.context request.organisation s, ⟨rfl, rfl⟩, ?_⟩
  obtain ⟨kind, command, ctx, organisation⟩ := request
  have heq := CommandRegistry.execute_eq hentry ctx organisation command s
  generalize CommandRegistry.inquiry entry ctx organisation s = check at heq ⊢
  unfold Visit.Follows
  simp only [Visit.make]
  split
  · rename_i e hdecide
    simp only [hdecide] at heq
    exact ⟨by rw [heq], by rw [heq]; exact List.drop_left, by rw [heq]⟩
  · rename_i value hdecide
    simp only [hdecide] at heq
    exact ⟨by rw [heq], by rw [heq]; exact List.drop_left, by rw [heq]⟩
  · rename_i hdecide
    simp only [hdecide] at heq
    by_cases hkind : kind = entry.kind
    · subst hkind
      obtain ⟨call, hcall, -, hserves⟩ := CommandRegistry.runEntry_spec entry ctx command
        { s with calls := s.calls ++ [check] }
      refine .inr ⟨rfl, call, ?_, hserves⟩
      rw [heq, dif_pos rfl, hcall, List.append_assoc]
      exact List.drop_left
    · rw [dif_neg hkind] at heq
      exact .inl ⟨Ne.symm hkind, by rw [heq], by rw [heq]; exact List.drop_left, by rw [heq]⟩

/-- Every execution on a registry that knows what it took in is gated. -/
theorem gated_make (h : Knows r admitted) : (Visit.make r admitted request s).1.Gated := by
  cases hentry : r.entries.find? (C.tag request.kind) with
  | none =>
    have heq := CommandRegistry.execute_of_find_none hentry request.context request.organisation
      request.command s
    refine Visit.gated_of_unknown ⟨?_, ?_, ?_⟩ fun entry hmem htag => ?_
    · rw [Visit.make, heq]
    · simp only [Visit.make, heq, List.drop_length]
    · rw [Visit.make, heq]
    · have hknown : r.entries.find? (C.tag request.kind) = some entry := (h _ _).mpr ⟨hmem, htag⟩
      rw [hentry] at hknown
      cases hknown
  | some entry =>
    obtain ⟨hmem, htag⟩ := (h _ entry).mp hentry
    obtain ⟨check, hchecks, hfollows⟩ := follows_make hentry admitted s
    refine Visit.gated_of_follows hmem htag (fun other hother hsame => ?_) hchecks hfollows
    have hknown : r.entries.find? (C.tag request.kind) = some other := (h _ _).mpr ⟨hother, hsame⟩
    exact Option.some_inj.mp (hknown.symm.trans hentry)

end

/-- A desk is guarded if its registry knows what it took in, the record of calls is what it was at
the start and what the executions added, and every execution was gated. -/
structure Guarded (s : Session C) (d : CommandDesk C) : Prop where
  knows : Knows d.registry d.admitted
  record : d.session.calls = s.calls ++ d.visits.flatMap Visit.calls
  gated : ∀ v ∈ d.visits, v.Gated

theorem guarded_start (s : Session C) : Guarded s (start s) where
  knows tag entry := by
    constructor
    · intro h
      cases h
    · rintro ⟨hmem, -⟩
      cases hmem
  record := (List.append_nil _).symm
  gated := List.forall_mem_nil _

/-- One registration or execution keeps a desk guarded. -/
theorem Guarded.step {s : Session C} {d : CommandDesk C} (h : Guarded s d) (act : CommandAct C) :
    Guarded s (d.step act) := by
  cases act with
  | register entry =>
    simp only [CommandDesk.step]
    split
    · rename_i r' hregister
      exact ⟨h.knows.register hregister, h.record, h.gated⟩
    · exact h
  | execute request =>
    refine ⟨h.knows, ?_, ?_⟩
    · simp only [CommandDesk.step, calls_make, h.record, List.flatMap_append,
        List.flatMap_singleton, List.append_assoc]
    · intro v hv
      rcases List.mem_append.mp hv with hv | hv
      · exact h.gated v hv
      · rw [List.mem_singleton.mp hv]
        exact gated_make h.knows

/-- Every history keeps a desk guarded. -/
theorem Guarded.run {s : Session C} {d : CommandDesk C} (h : Guarded s d)
    (acts : List (CommandAct C)) : Guarded s (d.run acts) := by
  induction acts generalizing d with
  | nil => exact h
  | cons act rest ih => exact ih (h.step act)

/-- Over every history of registrations and executions, each execution is gated, and the record has
no calls but those that the executions added, in their order. -/
theorem run_gated (s : Session C) (acts : List (CommandAct C)) :
    let d := (start s).run acts
    d.session.calls = s.calls ++ d.visits.flatMap Visit.calls ∧ ∀ v ∈ d.visits, v.Gated := by
  intro d
  have hguarded : Guarded s d := (guarded_start s).run acts
  exact ⟨hguarded.record, hguarded.gated⟩

/-- A desk that takes pings of members, once, and turns a stranger away before it serves a
member. -/
example :
    let pings : CommandEntry (Sample.catalogue fun _ => "") :=
      ⟨.ping, ⟨1, "pings", .plain fun _ _ => .ok ()⟩, .organisationMember⟩
    let ping (ctx : Context) : CommandAct (Sample.catalogue fun _ => "") :=
      .execute ⟨.ping, Sample.Ping.ping, ctx, some (Uuid.random 1)⟩
    let s : Session (Sample.catalogue fun _ => "") := .start ⟨[], []⟩ 0
    let d := (start s).run [.register pings, .register pings, ping .blank,
      ping (Context.blank.withOrganisations [Uuid.random 1])]
    d.admitted.length = 1 ∧ d.visits.map (fun v => v.calls.length) = [1, 2] := by
  decide

end CommandDesk
end Switchboard
