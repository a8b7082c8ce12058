import Switchboard.Proofs.Command.Gate
import Switchboard.Proofs.Facade.Draining
import Switchboard.Proofs.Facade.Installation
import Switchboard.Proofs.Facade.Publishing

/-!
# What is refused, directly and over a queue

The same handlers, handed in at a registry and at a façade over any transport, leave the same first
handler under every tag.  By it the registry and the façade go when a command is executed, but not
alike: the façade compares payload types before anything else, the registry only after the check of
the handler that it has for the tag.

The registry is looked at in any session and the façade in any exchange, so whatever happened since
the handlers were handed in makes no difference.

Main results:

- Theorem {lit}`CommandRegistry.find?_registerAll`: the first entry of a tag stays.
- Theorem {lit}`CommandFacade.registerAll_inStep`: a façade's registry is the direct one, and its
  routes keep step with it, whatever the transport answers.
- Theorem {lit}`CommandRegistry.execute_other_type`: what happens to a command whose tag belongs to
  another type.
- Theorem {lit}`CommandFacade.execute_refusals`: which commands are refused, directly and over a
  queue.
-/

namespace Switchboard

variable {C : Catalogue} {τ : Type}

/-! ## The first entry of a tag -/

/-- The entry that is handed in first for a tag. -/
def CommandEntry.firstOf (entries : List (CommandEntry C)) (tag : String) :
    Option (CommandEntry C) :=
  entries.find? fun entry => C.tag entry.kind = tag

namespace CommandRegistry

/-- An entry is found once it was handed in, unless its tag had another. -/
theorem find?_registerAll_singleton (r : CommandRegistry C) (entry : CommandEntry C)
    (tag : String) :
    (r.registerAll [entry]).entries.find? tag =
      (r.entries.find? tag).or (if C.tag entry.kind = tag then some entry else none) := by
  simp only [registerAll, List.foldl_cons, List.foldl_nil]
  cases hregister : r.register entry.kind entry.handler entry.authorizer with
  | error e =>
    -- A refusal means that the tag has an entry, which stays.
    by_cases htag : C.tag entry.kind = tag
    · subst htag
      cases hentry : r.entries.find? (C.tag entry.kind) with
      | some other => rfl
      | none =>
        rw [register_eq_ok_iff.mpr ⟨hentry, rfl⟩] at hregister
        cases hregister
    · rw [if_neg htag, Option.or_none]
  | ok registry =>
    obtain ⟨hnew, rfl⟩ := register_eq_ok_iff.mp hregister
    by_cases htag : C.tag entry.kind = tag
    · subst htag
      rw [Dictionary.find?_insert_self, hnew, if_pos rfl, Option.none_or]
    · rw [Dictionary.find?_insert_of_ne _ (Ne.symm htag), if_neg htag, Option.or_none]

/-- Whatever is handed in, the first entry of a tag stays. -/
theorem find?_registerAll (r : CommandRegistry C) (entries : List (CommandEntry C))
    (tag : String) :
    (r.registerAll entries).entries.find? tag =
      (r.entries.find? tag).or (CommandEntry.firstOf entries tag) := by
  induction entries generalizing r with
  | nil => exact Option.or_none.symm
  | cons entry rest ih =>
    have hstep : r.registerAll (entry :: rest) = (r.registerAll [entry]).registerAll rest := rfl
    rw [hstep, ih, find?_registerAll_singleton, Option.or_assoc]
    congr 1
    simp only [CommandEntry.firstOf, List.find?_cons]
    by_cases htag : C.tag entry.kind = tag <;> simp [htag]

end CommandRegistry

namespace CommandFacade

variable [Transport C τ] {f : CommandFacade C}

/-- Whatever the transport answers, a registration changes the registry as it does directly, and
keeps routes and handlers in step. -/
theorem register_inStep (h : f.InStep) (entry : CommandEntry C) (x : Exchange C τ) :
    let g := (f.register entry.kind entry.handler entry.authorizer x).1.2
    g.registry = f.registry.registerAll [entry] ∧ CommandFacade.InStep g := by
  rcases f.enroll_cases_of_transport entry.kind
      (fun registry => registry.register entry.kind entry.handler entry.authorizer) x with
    ⟨e, hregister, heq⟩ | ⟨registry, hregister, hrest⟩
  · rw [register, heq]
    exact ⟨by simp [CommandRegistry.registerAll, hregister], h⟩
  · obtain ⟨hnew, rfl⟩ := CommandRegistry.register_eq_ok_iff.mp hregister
    have hregistry : f.registry.registerAll [entry] =
        ⟨f.registry.entries.insert (C.tag entry.kind) entry⟩ := by
      simp [CommandRegistry.registerAll, hregister]
    have htaken := h.takeIn hnew
    have hsame := f.registry_takeIn entry.kind
      ⟨f.registry.entries.insert (C.tag entry.kind) entry⟩
    rw [hregistry]
    rcases hrest with ⟨-, heq⟩ | ⟨-, ⟨e, y, -, heq⟩ | ⟨y, log, -, heq⟩⟩
    all_goals
      rw [register, heq]
      exact ⟨hsame, htaken⟩

/-- Whatever the transport answers, handlers are taken in at a façade as they are directly, and its
routes keep step with them. -/
theorem registerAll_inStep (h : f.InStep) (entries : List (CommandEntry C)) (x : Exchange C τ) :
    (f.registerAll entries x).1.registry = f.registry.registerAll entries ∧
      (f.registerAll entries x).1.InStep := by
  induction entries generalizing f x with
  | nil => exact ⟨rfl, h⟩
  | cons entry rest ih =>
    obtain ⟨hregistry, hstep⟩ := register_inStep h entry x
    obtain ⟨hlast, hlastStep⟩ := ih hstep (f.register entry.kind entry.handler
      entry.authorizer x).2
    exact ⟨hlast.trans (by rw [hregistry]; rfl), hlastStep⟩

end CommandFacade

/-! ## Refusals -/

/-- What a check says about a command, a panic being a failure of the handler it guards. -/
def CommandEntry.verdict (entry : CommandEntry C) (tag : String) (ctx : Context)
    (organisation : Option Uuid) (s : Session C) : Except DispatchError Unit :=
  containCheck tag
    (entry.authorizer.decide (s.callCount entry.authorizer.callee) ctx organisation)

namespace CommandRegistry

variable {r : CommandRegistry C} {entry : CommandEntry C} {kind : C.Kind}

/-- A command whose tag belongs to another type is shown to the check of that tag's entry, and is
refused whatever the check says; its handler is not called. -/
theorem execute_other_type (hentry : r.entries.find? (C.tag kind) = some entry)
    (hkind : entry.kind ≠ kind) (ctx : Context) (organisation : Option Uuid)
    (command : C.Value kind) (s : Session C) :
    r.execute ctx organisation command s =
      (match entry.verdict (C.tag kind) ctx organisation s with
        | .error e => .error e
        | .ok () => .error (.registration (.commandType (C.tag kind))),
      { s with calls := s.calls ++ [inquiry entry ctx organisation s] }) := by
  rw [execute_eq hentry]
  simp only [inquiry, CommandEntry.verdict]
  cases entry.authorizer.decide (s.callCount entry.authorizer.callee) ctx organisation with
  | panicked value => rfl
  | returned result =>
    cases result with
    | error e => rfl
    | ok _ =>
      simp only [dif_neg (Ne.symm hkind), containCheck]

/-- A command of an entry's own type is refused by the check or by the handler, and by nobody
else. -/
theorem execute_own_type {entry : CommandEntry C}
    (hentry : r.entries.find? (C.tag entry.kind) = some entry) (ctx : Context)
    (organisation : Option Uuid) (command : C.Value entry.kind) (s : Session C)
    {e : DispatchError} (herror : (r.execute ctx organisation command s).1 = .error e) :
    entry.verdict (C.tag entry.kind) ctx organisation s = .error e ∨
      entry.verdict (C.tag entry.kind) ctx organisation s = .ok () ∧ ∃ e', e = .handler e' := by
  rw [execute_of_find hentry] at herror
  have hverdict : (entry.authorizer.authorize (C.tag entry.kind) ctx organisation s).1 =
      entry.verdict (C.tag entry.kind) ctx organisation s := rfl
  dsimp only at herror
  rw [hverdict] at herror
  cases hcheck : entry.verdict (C.tag entry.kind) ctx organisation s with
  | error e' =>
    rw [hcheck] at herror
    exact .inl herror
  | ok _ =>
    rw [hcheck] at herror
    refine .inr ⟨rfl, ?_⟩
    rcases answer_runEntry entry ctx command
        (entry.authorizer.authorize (C.tag entry.kind) ctx organisation s).2 with hok | ⟨e', he'⟩
    · rw [hok] at herror
      cases herror
    · rw [he', Except.error.injEq] at herror
      exact ⟨e', herror.symm⟩

end CommandRegistry

namespace CommandFacade

variable [Transport C τ]

/-- Which commands are refused, by a registry and by a façade over any transport at which the same
handlers were handed in:

- A command whose tag has no handler is refused alike, and nothing happens.
- A command whose tag belongs to another type is refused by both.  Over the queue nothing happens.
  Directly the check of that tag's handler is asked first and can refuse in its own words; no
  handler is called.
- A command of the type that its tag belongs to is refused directly by the check or by the handler
  only, and over the queue only if it cannot be written or sent. -/
theorem execute_refusals (address : Nat) (application : String)
    (naming : QueueNaming) (entries : List (CommandEntry C)) (x : Exchange C τ) (ctx : Context)
    (organisation : Option Uuid) {kind : C.Kind} (command : C.Value kind) (s : Session C)
    (y : Exchange C τ) :
    let r := CommandRegistry.empty.registerAll entries
    let f := (registerAll ((CommandFacade.start address application).withNaming naming) entries x).1
    let tag := C.tag kind
    let direct := r.execute ctx organisation command s
    let queued := f.execute ctx organisation command y
    match CommandEntry.firstOf entries tag with
    | none =>
      direct = (.error (.lookup (.noCommandHandler tag)), s) ∧
        queued = (.error (.lookup (.noCommandHandler tag)), y)
    | some entry =>
      let verdict := entry.verdict tag ctx organisation s
      if entry.kind = kind then
        (∀ e, direct.1 = .error e → verdict = .error e ∨ verdict = .ok () ∧ ∃ e', e = .handler e') ∧
          ∀ e, queued.1 = .error e →
            (∃ cause, e = .serialization cause) ∨ ∃ fault, e = .transport fault
      else
        direct = (match verdict with
            | .error e => .error e
            | .ok () => .error (.registration (.commandType tag)),
          { s with calls := s.calls ++ [CommandRegistry.inquiry entry ctx organisation s] }) ∧
        queued = (.error (.registration (.routedType tag)), y) := by
  intro r f tag direct queued
  obtain ⟨hregistry, hstep⟩ :=
    registerAll_inStep (f := (CommandFacade.start address application).withNaming naming)
      (fun _ => rfl) entries x
  have hknown : r.entries.find? tag = CommandEntry.firstOf entries tag :=
    CommandRegistry.find?_registerAll ..
  have hroute : f.routes.find? tag = (CommandEntry.firstOf entries tag).map CommandEntry.kind := by
    rw [hstep tag, hregistry]
    exact congrArg (Option.map CommandEntry.kind) hknown
  cases hfirst : CommandEntry.firstOf entries tag with
  | none =>
    rw [hfirst] at hknown hroute
    exact ⟨CommandRegistry.execute_of_find_none hknown .., execute_of_unrouted hroute ..⟩
  | some entry =>
    rw [hfirst] at hknown hroute
    dsimp only
    split
    · rename_i hkind
      subst hkind
      refine ⟨fun e => CommandRegistry.execute_own_type hknown ctx organisation command s,
        fun e herror => ?_⟩
      refine f.publish_error ctx command organisation y ?_
      rwa [← execute_of_route hroute]
    · rename_i hkind
      exact ⟨CommandRegistry.execute_other_type hknown hkind ..,
        execute_of_other_route hroute hkind ..⟩

end CommandFacade

/-! ## An impostor before a check -/

namespace Sample

/-- Creates invoices for nobody. -/
def closedInvoices : CommandEntry nameless :=
  ⟨.createInvoice, ⟨1, "create", .plain fun _ _ => .ok ()⟩,
    ⟨2, some "closed", fun _ _ _ => .error (.permission (.stated "denied"))⟩⟩

end Sample

/-- An invoice of the older form, which shares its tag with the newer one, is refused as being of
another type over a queue.  Directly it is shown to the newer one's check and refused in its
words. -/
theorem CommandFacade.impostor_shown_to_check :
    let entries := [Sample.closedInvoices]
    let x : Exchange Sample.nameless Broker := ⟨.start ⟨[], []⟩ 0, .start 0 5⟩
    let r := CommandRegistry.empty.registerAll entries
    let f := (registerAll (CommandFacade.start 0 "app") entries x).1
    let legacy : Sample.nameless.Value .legacyCreateInvoice := ⟨1⟩
    let direct := r.execute .blank none legacy x.session
    let queued := f.execute .blank none legacy x
    Sample.nameless.tag Sample.closedInvoices.kind =
        Sample.nameless.tag .legacyCreateInvoice ∧
      queued.1 = .error (.registration (.routedType "api.CreateInvoice")) ∧
      direct.1 = .error (.permission (.stated "denied")) ∧
      (¬ ∃ cause, direct.1 = .error (.registration cause)) ∧
      (direct.2.calls.map Call.callee) = [2] := by
  intro entries x r f legacy direct queued
  have hdirect : direct.1 = .error (.permission (.stated "denied")) := by decide +kernel
  refine ⟨by decide +kernel, by decide +kernel, hdirect, ?_, by decide +kernel⟩
  rintro ⟨cause, hcause⟩
  rw [hdirect] at hcause
  cases hcause

end Switchboard
