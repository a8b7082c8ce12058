import Mathlib.Data.List.Forall2
import Switchboard.Command.Registry
import Switchboard.Proofs.Session

/-!
# Sequences of commands

Commands that are executed directly, one after the other.

Main results:

- Definition {lit}`CommandRegistry.executeAll`: executes commands in their order.
- Theorem {lit}`CommandRegistry.execute_spec`: a command succeeds if no call on its way fails.
- Theorem {lit}`CommandRegistry.follows_execute`: a command goes on alike in two contexts that the
  registered user code cannot tell apart.
- Theorem {lit}`CommandRegistry.follows_executeAll`: so do whole sequences.
-/

namespace Switchboard

variable {C : Catalogue}

/-- A command that somebody wants executed. -/
structure Request (C : Catalogue) where
  kind : C.Kind
  command : C.Value kind
  /-- The context of whoever wants it. -/
  context : Context
  /-- The organisation that it is meant for. -/
  organisation : Option Uuid

/-- The user code of an entry cannot tell two contexts apart. -/
structure CommandEntry.Confuses (entry : CommandEntry C) (c c' : Context) : Prop where
  check : ∀ n organisation,
    entry.authorizer.decide n c organisation = entry.authorizer.decide n c' organisation
  handler : entry.handler.Confuses (c.withHandler entry.handler.name)
    (c'.withHandler entry.handler.name)

theorem CommandEntry.confuses_self (entry : CommandEntry C) (c : Context) : entry.Confuses c c :=
  ⟨fun _ _ => rfl, entry.handler.confuses_self _⟩

namespace CommandRegistry

/-- Take in handlers one after the other, except those whose tags have one. -/
def registerAll (r : CommandRegistry C) (entries : List (CommandEntry C)) : CommandRegistry C :=
  entries.foldl (fun r entry =>
    match r.register entry.kind entry.handler entry.authorizer with
    | .ok r' => r'
    | .error _ => r) r

/-- Execute commands one after the other, each in a context of its own. -/
def executeAll (r : CommandRegistry C) :
    List (Context × Request C) → Activity C (List (Except DispatchError Unit))
  | [] => return []
  | (ctx, request) :: rest => do
    let result ← r.execute ctx request.organisation request.command
    let results ← executeAll r rest
    return result :: results

/-- A command has a handler for exactly its payload type. -/
def Accepts (r : CommandRegistry C) (kind : C.Kind) : Prop :=
  ∃ entry, r.entries.find? (C.tag kind) = some entry ∧ entry.kind = kind

/-- When a registry takes a handler in, and what it is then. -/
theorem register_eq_ok_iff {r r' : CommandRegistry C} {kind : C.Kind}
    {handler : Handler C.Store (C.Value kind) Unit} {authorizer : Authorizer} :
    r.register kind handler authorizer = .ok r' ↔
      r.entries.find? (C.tag kind) = none ∧
        r' = ⟨r.entries.insert (C.tag kind) ⟨kind, handler, authorizer⟩⟩ := by
  unfold register
  cases h : r.entries.find? (C.tag kind) <;> simp [Dictionary.contains, h, eq_comm]

/-- The last command of a sequence is executed last. -/
theorem executeAll_append (r : CommandRegistry C) (pairs : List (Context × Request C))
    (ctx : Context) (request : Request C) (s : Session C) :
    r.executeAll (pairs ++ [(ctx, request)]) s =
      let before := r.executeAll pairs s
      let last := r.execute ctx request.organisation request.command before.2
      (before.1 ++ [last.1], last.2) := by
  induction pairs generalizing s with
  | nil => rfl
  | cons pair rest ih =>
    obtain ⟨c, first⟩ := pair
    simp only [List.cons_append, executeAll, bind_apply, pure_apply, ih]

/-! ## Calls that succeed -/

/-- An entry's handler is called once, in the caller's context under its own name, and succeeds if
that call does. -/
theorem runEntry_spec (entry : CommandEntry C) (ctx : Context) (command : C.Value entry.kind)
    (s : Session C) :
    ∃ call, (runEntry entry ctx command s).2.calls = s.calls ++ [call] ∧
      (call.succeeded = true → (runEntry entry ctx command s).1 = .ok ()) ∧
        call.Serves entry.handler.callee (ctx.withHandler entry.handler.name) command := by
  obtain ⟨call, hcalls, hsucceeded, hcallee, hinput⟩ := entry.handler.calls_call
    (.handler entry.kind command) (ctx.withHandler entry.handler.name) command s
  have hserves : call.Serves entry.handler.callee (ctx.withHandler entry.handler.name) command :=
    ⟨hcallee, hinput⟩
  refine ⟨call, ?_, fun h => ?_, hserves⟩
  · rw [runEntry, bind_apply, ← hcalls]
    cases contain (C.tag entry.kind) (entry.handler.call (.handler entry.kind command)
      (ctx.withHandler entry.handler.name) command s).1 <;> rfl
  · rw [hsucceeded] at h
    rw [runEntry, bind_apply, contain_of_succeeded h]
    rfl

/-- An entry answers with nothing but a failure of its handler. -/
theorem answer_runEntry (entry : CommandEntry C) (ctx : Context)
    (command : C.Value entry.kind) (s : Session C) :
    (runEntry entry ctx command s).1 = .ok () ∨
      ∃ e, (runEntry entry ctx command s).1 = .error (.handler e) := by
  simp only [runEntry, bind_apply]
  cases contain (C.tag entry.kind) (entry.handler.call (.handler entry.kind command)
    (ctx.withHandler entry.handler.name) command s).1 with
  | ok _ => exact .inl rfl
  | error e => exact .inr ⟨e, rfl⟩

/-- A check is called once, and lets through if that call succeeds. -/
theorem authorize_spec (a : Authorizer) (tag : String) (ctx : Context)
    (organisation : Option Uuid) (s : Session C) :
    ∃ call, (a.authorize tag ctx organisation s).2.calls = s.calls ++ [call] ∧
      (call.succeeded = true → (a.authorize tag ctx organisation s).1 = .ok ()) ∧
        call.Checks a.callee ctx organisation := by
  refine ⟨_, rfl, fun hsucceeded => ?_, rfl, rfl⟩
  change (a.decide (s.callCount a.callee) ctx organisation).succeeded = true at hsucceeded
  exact containCheck_of_succeeded hsucceeded tag

/-- An accepted command is checked, and then run by its handler. -/
theorem execute_of_find {r : CommandRegistry C} {entry : CommandEntry C}
    (hentry : r.entries.find? (C.tag entry.kind) = some entry) (ctx : Context)
    (organisation : Option Uuid) (command : C.Value entry.kind) (s : Session C) :
    r.execute ctx organisation command s =
      let checked := entry.authorizer.authorize (C.tag entry.kind) ctx organisation s
      match checked.1 with
      | .error e => (.error e, checked.2)
      | .ok () => runEntry entry ctx command checked.2 := by
  simp only [execute, hentry, bind_apply, dif_pos]
  cases (entry.authorizer.authorize (C.tag entry.kind) ctx organisation s).1 <;> rfl

/-- A command that is accepted succeeds if no call on its way fails. -/
theorem execute_spec {r : CommandRegistry C} {kind : C.Kind} (haccepts : r.Accepts kind)
    (ctx : Context) (organisation : Option Uuid) (command : C.Value kind) (s : Session C) :
    ∃ new, (r.execute ctx organisation command s).2.calls = s.calls ++ new ∧
      ((∀ call ∈ new, call.succeeded = true) →
        (r.execute ctx organisation command s).1 = .ok ()) := by
  obtain ⟨entry, hentry, rfl⟩ := haccepts
  obtain ⟨check, hcheck, hpassed, -⟩ :=
    authorize_spec entry.authorizer (C.tag entry.kind) ctx organisation s
  rw [execute_of_find hentry]
  dsimp only
  split
  · rename_i e herror
    refine ⟨[check], hcheck, fun hall => ?_⟩
    rw [hpassed (hall check List.mem_cons_self)] at herror
    cases herror
  · obtain ⟨call, hcall, hran, -⟩ := runEntry_spec entry ctx command
      (entry.authorizer.authorize (C.tag entry.kind) ctx organisation s).2
    refine ⟨[check, call], by rw [hcall, hcheck]; simp, fun hall => hran (hall call (by simp))⟩

/-- The calls on the way of a command: none without an entry for its tag, otherwise one of the
entry's check, and one of its handler if that lets the command through. -/
theorem calls_execute (r : CommandRegistry C) (ctx : Context) (organisation : Option Uuid)
    {kind : C.Kind} (command : C.Value kind) (s : Session C) :
    (r.entries.find? (C.tag kind) = none ∧
      (r.execute ctx organisation command s).2.calls = s.calls) ∨
    ∃ entry check new, r.entries.find? (C.tag kind) = some entry ∧
      check.Checks entry.authorizer.callee ctx organisation ∧
      (r.execute ctx organisation command s).2.calls = s.calls ++ check :: new ∧
      ∀ call ∈ new,
        call.Serves entry.handler.callee (ctx.withHandler entry.handler.name) command := by
  cases hentry : r.entries.find? (C.tag kind) with
  | none =>
    refine .inl ⟨rfl, ?_⟩
    simp [execute, hentry, pure_apply]
  | some entry =>
    obtain ⟨check, hcheck, -, hchecks⟩ :=
      authorize_spec entry.authorizer (C.tag kind) ctx organisation s
    refine .inr ⟨entry, check, ?_⟩
    simp only [execute, hentry, bind_apply]
    cases (entry.authorizer.authorize (C.tag kind) ctx organisation s).1 with
    | error e => exact ⟨[], trivial, hchecks, hcheck, List.forall_mem_nil _⟩
    | ok _ =>
      by_cases hkind : kind = entry.kind
      · subst hkind
        obtain ⟨call, hcall, -, hserves⟩ := runEntry_spec entry ctx command
          (entry.authorizer.authorize (C.tag entry.kind) ctx organisation s).2
        rw [hcheck, List.append_assoc] at hcall
        simp only [dif_pos]
        exact ⟨[call], trivial, hchecks, hcall, List.forall_mem_singleton.mpr hserves⟩
      · simp only [hkind, dif_neg, not_false_eq_true]
        exact ⟨[], trivial, hchecks, hcheck, List.forall_mem_nil _⟩

/-- A command that its check lets through succeeds if its handler never fails: they are called once
each. -/
theorem execute_of_neverFails {r : CommandRegistry C} {entry : CommandEntry C}
    (hentry : r.entries.find? (C.tag entry.kind) = some entry) {ctx : Context}
    {organisation : Option Uuid}
    (hpasses : ∀ n, (entry.authorizer.decide n ctx organisation).succeeded = true)
    (hnever : entry.handler.NeverFails) (command : C.Value entry.kind) (s : Session C) :
    (r.execute ctx organisation command s).1 = .ok () ∧
      ∃ check call, (r.execute ctx organisation command s).2.calls = s.calls ++ [check, call] ∧
        check.Checks entry.authorizer.callee ctx organisation ∧
        call.Serves entry.handler.callee (ctx.withHandler entry.handler.name) command := by
  obtain ⟨check, hcheck, -, hchecks⟩ :=
    authorize_spec entry.authorizer (C.tag entry.kind) ctx organisation s
  have hpassed : (entry.authorizer.authorize (C.tag entry.kind) ctx organisation s).1 = .ok () :=
    containCheck_of_succeeded (hpasses (s.callCount entry.authorizer.callee)) _
  rw [execute_of_find hentry]
  simp only [hpassed]
  obtain ⟨call, hcall, -, hserves⟩ := runEntry_spec entry ctx command
    (entry.authorizer.authorize (C.tag entry.kind) ctx organisation s).2
  refine ⟨?_, check, call, by rw [hcall, hcheck]; simp, hchecks, hserves⟩
  simp only [runEntry, bind_apply, contain_of_succeeded (Handler.succeeded_call hnever ..)]
  rfl

/-! ## Contexts that cannot be told apart -/

variable {mask : Context → Context} {r : CommandRegistry C} {c c' : Context}

/-- An entry goes on alike in two contexts that its user code cannot tell apart. -/
theorem follows_runEntry {entry : CommandEntry C} (hconfuses : entry.Confuses c c')
    (hmask : ∀ name, mask (c.withHandler name) = mask (c'.withHandler name))
    (command : C.Value entry.kind) :
    Session.Follows mask (runEntry entry c command) (runEntry entry c' command) := by
  refine Session.follows_bind (entry.handler.follows_call hconfuses.handler ?_ command)
    fun outcome => ?_
  · intro store
    simp [CallInput.masked, hmask]
  · split
    · exact Session.follows_pure _
    · exact Session.follows_bind Session.follows_report fun _ => Session.follows_pure _

/-- A check goes on alike in two contexts that it cannot tell apart. -/
theorem follows_authorize {a : Authorizer}
    (hconfuses : ∀ n organisation, a.decide n c organisation = a.decide n c' organisation)
    (hcontext : mask c = mask c') (tag : String) (organisation : Option Uuid) :
    Session.Follows mask (a.authorize tag c organisation : Activity C _)
      (a.authorize tag c' organisation) := by
  refine Session.follows_bind (fun s t hst => ?_) fun outcome => Session.follows_pure _
  apply hst.call
  · simp [CallInput.masked, hcontext]
  · intro n
    rw [hconfuses, hst.store]

/-- A command goes on alike in two contexts that the registered user code cannot tell apart. -/
theorem follows_execute
    (hconfuses : ∀ tag entry, r.entries.find? tag = some entry → entry.Confuses c c')
    (hcontext : mask c = mask c')
    (hmask : ∀ name, mask (c.withHandler name) = mask (c'.withHandler name))
    (organisation : Option Uuid) {kind : C.Kind} (command : C.Value kind) :
    Session.Follows mask (r.execute c organisation command)
      (r.execute c' organisation command) := by
  unfold execute
  split
  · exact Session.follows_pure _
  · rename_i entry hentry
    have hconfused := hconfuses _ _ hentry
    refine Session.follows_bind
      (follows_authorize hconfused.check hcontext (C.tag kind) organisation) fun result => ?_
    split
    · exact Session.follows_pure _
    · split
      · rename_i hkind
        subst hkind
        exact follows_runEntry hconfused hmask command
      · exact Session.follows_pure _

/-- A sequence of commands goes on alike in contexts that the registered user code cannot tell
apart. -/
theorem follows_executeAll {pairs pairs' : List (Context × Request C)}
    (h : List.Forall₂ (fun p p' => p.2 = p'.2 ∧ mask p.1 = mask p'.1 ∧
      (∀ name, mask (p.1.withHandler name) = mask (p'.1.withHandler name)) ∧
        ∀ tag entry, r.entries.find? tag = some entry → entry.Confuses p.1 p'.1) pairs pairs') :
    Session.Follows mask (r.executeAll pairs) (r.executeAll pairs') := by
  induction h with
  | nil => exact Session.follows_pure _
  | @cons p p' _ _ hpair _ ih =>
    obtain ⟨c, request⟩ := p
    obtain ⟨c', request'⟩ := p'
    obtain ⟨rfl, hcontext, hmask, hconfuses⟩ := hpair
    refine Session.follows_bind (follows_execute hconfuses hcontext hmask _ _) fun result => ?_
    exact Session.follows_bind ih fun results => Session.follows_pure _

end CommandRegistry
end Switchboard
