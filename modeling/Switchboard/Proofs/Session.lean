import Switchboard.Handler

/-!
# Sessions side by side

What user code does depends on the store and on how often it was called before.  The log, the supply
of identifiers and the background mark play no part in it.  So two sessions with the same store and
the same record of calls go on alike, and so they do if contexts are masked in the record, as long
as the user code cannot tell the contexts apart.

Main results:

- Definition {lit}`Session.Alike`: the same store and, under a mask over contexts, the same calls.
- Theorem {lit}`Session.follows_bind`: activities that go on alike can be put one after the other.
- Theorem {lit}`Handler.follows_call`: a handler that cannot tell two contexts apart goes on alike.
- Theorem {lit}`Session.grows_bind`: no call is ever struck from the record.
- Theorem {lit}`Session.makes_bind`: a property of all calls that two activities make is one of all
  calls that they make one after the other.
-/

namespace Switchboard

variable {C : Catalogue}

/-! ## Masks over contexts -/

/-- What a piece of user code was given, with the contexts masked. -/
def CallInput.masked (mask : Context → Context) : CallInput C → CallInput C
  | .handler kind payload context store => .handler kind payload (context.map mask) store
  | .query kind criteria context store => .query kind criteria (context.map mask) store
  | .authorizer context organisation => .authorizer (mask context) organisation
  | .filter answer result context => .filter answer result (mask context)
  | .consumer queue message context => .consumer queue message (mask context)

/-- A call, with the contexts masked. -/
def Call.masked (mask : Context → Context) (call : Call C) : Call C :=
  { call with input := call.input.masked mask }

/-- A mask that hides nothing. -/
@[simp]
theorem CallInput.masked_id (input : CallInput C) : input.masked id = input := by
  cases input <;> simp [masked]

@[simp]
theorem Call.masked_id : (Call.masked id : Call C → Call C) = id := by
  funext call
  simp [masked]

namespace Session

variable {α β ε : Type} {mask : Context → Context} {s t : Session C}

/-! ## Alike sessions -/

/-- Two sessions are alike, as far as a mask lets one see, if they have the same store and the same
record of calls. -/
structure Alike (mask : Context → Context) (s t : Session C) : Prop where
  store : s.store = t.store
  calls : s.calls.map (Call.masked mask) = t.calls.map (Call.masked mask)

namespace Alike

theorem refl (mask : Context → Context) (s : Session C) : s.Alike mask s :=
  ⟨rfl, rfl⟩

theorem trans {u : Session C} (h : s.Alike mask t) (h' : t.Alike mask u) : s.Alike mask u :=
  ⟨h.store.trans h'.store, h.calls.trans h'.calls⟩

/-- In sessions that are alike, every piece of user code has been called equally often. -/
theorem callCount_eq (h : s.Alike mask t) (callee : Nat) :
    s.callCount callee = t.callCount callee := by
  have hmasked : ∀ calls : List (Call C),
      (calls.map (Call.masked mask)).countP (fun call => call.callee == callee) =
        calls.countP fun call => call.callee == callee := by
    intro calls
    rw [List.countP_map]
    rfl
  rw [callCount, callCount, ← hmasked, h.calls, hmasked]

/-- A call of the same user code on inputs that the mask makes equal keeps sessions alike. -/
theorem call (h : s.Alike mask t) (callee : Nat) (name : Option String) {i j : CallInput C}
    {run run' : Nat → C.Store → Outcome ε α × C.Store} (hinput : i.masked mask = j.masked mask)
    (hrun : ∀ n, run n s.store = run' n s.store) :
    (Session.call callee name i run s).1 = (Session.call callee name j run' t).1 ∧
      Alike mask (Session.call callee name i run s).2 (Session.call callee name j run' t).2 := by
  have hsame : run (s.callCount callee) s.store = run' (t.callCount callee) t.store := by
    rw [hrun, h.callCount_eq, h.store]
  have houtcome : (run (s.callCount callee) s.store).1 = (run' (t.callCount callee) t.store).1 :=
    congrArg Prod.fst hsame
  have hstore : (run (s.callCount callee) s.store).2 = (run' (t.callCount callee) t.store).2 :=
    congrArg Prod.snd hsame
  refine ⟨houtcome, hstore, ?_⟩
  simp only [calls_call, List.map_append, h.calls, List.map_cons, List.map_nil, Call.masked,
    hinput, hsame]
  rw [h.callCount_eq]

end Alike

/-! ## Activities that go on alike -/

/-- Two activities go on alike if, in sessions that are alike, they reach the same value and
sessions that are alike again. -/
def Follows (mask : Context → Context) (a b : Activity C α) : Prop :=
  ∀ s t, s.Alike mask t → (a s).1 = (b t).1 ∧ (a s).2.Alike mask (b t).2

theorem follows_pure (value : α) : Follows mask (pure value : Activity C α) (pure value) :=
  fun _ _ h => ⟨rfl, h⟩

/-- Activities that go on alike can be put one after the other. -/
theorem follows_bind {a b : Activity C α} {f g : α → Activity C β} (h : Follows mask a b)
    (hnext : ∀ value, Follows mask (f value) (g value)) : Follows mask (a >>= f) (b >>= g) := by
  intro s t hst
  obtain ⟨hvalue, halike⟩ := h s t hst
  rw [bind_apply, bind_apply, hvalue]
  exact hnext _ _ _ halike

/-- The log plays no part, so what is reported may differ. -/
theorem follows_report {level level' : LogLevel} {message message' : String}
    {fields fields' : List (String × LogValue)} :
    Follows mask (report level message fields : Activity C Unit)
      (report level' message' fields') :=
  fun _ _ h => ⟨rfl, h.store, h.calls⟩

/-! ## The record grows -/

/-- An activity strikes no call from the record. -/
def Grows (a : Activity C α) : Prop :=
  ∀ s, s.calls <+: (a s).2.calls

theorem grows_pure (value : α) : Grows (pure value : Activity C α) :=
  fun _ => List.prefix_rfl

theorem grows_bind {a : Activity C α} {f : α → Activity C β} (h : Grows a)
    (hnext : ∀ value, Grows (f value)) : Grows (a >>= f) :=
  fun s => (h s).trans (hnext _ _)

theorem grows_report (level : LogLevel) (message : String) (fields : List (String × LogValue)) :
    Grows (report level message fields : Activity C Unit) :=
  fun _ => List.prefix_rfl

theorem grows_draw : Grows (draw : Activity C String) :=
  fun _ => List.prefix_rfl

theorem grows_call (callee : Nat) (name : Option String) (input : CallInput C)
    (run : Nat → C.Store → Outcome ε α × C.Store) : Grows (call callee name input run) :=
  fun _ => List.prefix_append _ _

theorem grows_inBackground {a : Activity C α} (h : Grows a) : Grows (inBackground a) :=
  fun s => h { s with background := true }

/-! ## Which calls are made -/

/-- All calls that an activity makes have a property. -/
def Makes (P : Call C → Prop) (a : Activity C α) : Prop :=
  ∀ s, ∃ new, (a s).2.calls = s.calls ++ new ∧ ∀ call ∈ new, P call

variable {P : Call C → Prop}

/-- An activity that leaves the record as it is makes no calls. -/
theorem makes_of_calls_eq {a : Activity C α} (h : ∀ s, (a s).2.calls = s.calls) : Makes P a :=
  fun s => ⟨[], by rw [h, List.append_nil], List.forall_mem_nil _⟩

theorem makes_pure (value : α) : Makes P (pure value : Activity C α) :=
  makes_of_calls_eq fun _ => rfl

theorem makes_report (level : LogLevel) (message : String) (fields : List (String × LogValue)) :
    Makes P (report level message fields : Activity C Unit) :=
  makes_of_calls_eq fun _ => rfl

theorem makes_draw : Makes P (draw : Activity C String) :=
  makes_of_calls_eq fun _ => rfl

/-- One activity after the other makes the calls of both. -/
theorem makes_bind {a : Activity C α} {f : α → Activity C β} (h : Makes P a)
    (hnext : ∀ value, Makes P (f value)) : Makes P (a >>= f) := by
  intro s
  obtain ⟨new, hcalls, hnew⟩ := h s
  obtain ⟨later, hlater, hall⟩ := hnext (a s).1 (a s).2
  refine ⟨new ++ later, ?_, List.forall_mem_append.mpr ⟨hnew, hall⟩⟩
  rw [bind_apply, hlater, hcalls, List.append_assoc]

theorem Makes.imp {Q : Call C → Prop} {a : Activity C α} (h : Makes P a)
    (himp : ∀ call, P call → Q call) : Makes Q a := by
  intro s
  obtain ⟨new, hcalls, hnew⟩ := h s
  exact ⟨new, hcalls, fun call hcall => himp call (hnew call hcall)⟩

end Session

/-! ## What calls show -/

/-- A call by which a check was asked about a context and an organisation. -/
structure Call.Checks (call : Call C) (callee : Nat) (ctx : Context) (organisation : Option Uuid) :
    Prop where
  callee : call.callee = callee
  input : call.input = .authorizer ctx organisation

/-- A call by which a handler was given a payload, and a context if it asked for it. -/
structure Call.Serves (call : Call C) (callee : Nat) (ctx : Context) {kind : C.Kind}
    (payload : C.Value kind) : Prop where
  callee : call.callee = callee
  input : ∃ context store, (∀ c ∈ context, c = ctx) ∧
    call.input = .handler kind payload context store

/-- What a call of a handler gave to whom. -/
def Call.served? (call : Call C) : Option (Nat × Σ kind : C.Kind, C.Value kind) :=
  match call.input with
  | .handler kind payload _ _ => some (call.callee, ⟨kind, payload⟩)
  | _ => none

theorem Call.Checks.served?_eq {call : Call C} {callee : Nat} {ctx : Context}
    {organisation : Option Uuid} (h : call.Checks callee ctx organisation) :
    call.served? = none := by
  rw [served?, h.input]

theorem Call.Serves.served?_eq {call : Call C} {callee : Nat} {ctx : Context} {kind : C.Kind}
    {payload : C.Value kind} (h : call.Serves callee ctx payload) :
    call.served? = some (callee, ⟨kind, payload⟩) := by
  obtain ⟨context, store, -, hinput⟩ := h.input
  rw [served?, hinput, h.callee]

/-! ## Outcomes -/

theorem contain_of_succeeded {outcome : Outcome HandlerError Unit}
    (h : outcome.succeeded = true) (tag : String) : contain tag outcome = .ok () := by
  cases outcome with
  | returned result =>
    cases result with
    | ok _ => rfl
    | error e => cases h
  | panicked value => cases h

theorem succeeded_of_contain {outcome : Outcome HandlerError Unit} {tag : String}
    (h : contain tag outcome = .ok ()) : outcome.succeeded = true := by
  cases outcome with
  | returned result =>
    obtain rfl : result = .ok () := h
    rfl
  | panicked value => cases h

theorem containCheck_of_succeeded {outcome : Outcome DispatchError Unit}
    (h : outcome.succeeded = true) (tag : String) : containCheck tag outcome = .ok () := by
  cases outcome with
  | returned result =>
    cases result with
    | ok _ => rfl
    | error e => cases h
  | panicked value => cases h

/-! ## Handlers -/

namespace Handler

variable {π α : Type} {mask : Context → Context} {c c' : Context}

/-- A handler that succeeds whatever it is given. -/
def NeverFails {σ : Type} (h : Handler σ π α) : Prop :=
  match h.behaviour with
  | .plain run => ∀ n payload, (run n payload).succeeded = true
  | .withStore run => ∀ n store payload, (run n store payload).1.succeeded = true
  | .withContext run => ∀ n ctx payload, (run n ctx payload).succeeded = true
  | .withBoth run => ∀ n ctx store payload, (run n ctx store payload).1.succeeded = true

/-- A call of a handler that never fails succeeds. -/
theorem succeeded_call {h : Handler C.Store π α} (hnever : h.NeverFails)
    (input : Option Context → Option C.Store → CallInput C) (ctx : Context) (payload : π)
    (s : Session C) : (h.call input ctx payload s).1.succeeded = true := by
  unfold NeverFails at hnever
  unfold call
  split <;> rename_i run hrun <;> rw [hrun] at hnever
  · exact hnever _ payload
  · exact hnever _ _ payload
  · exact hnever _ ctx payload
  · exact hnever _ ctx _ payload

/-- A handler cannot tell two contexts apart. -/
def Confuses {σ : Type} (h : Handler σ π α) (c c' : Context) : Prop :=
  match h.behaviour with
  | .plain _ => True
  | .withStore _ => True
  | .withContext run => ∀ n payload, run n c payload = run n c' payload
  | .withBoth run => ∀ n store payload, run n c store payload = run n c' store payload

theorem confuses_self {σ : Type} (h : Handler σ π α) (c : Context) : h.Confuses c c := by
  unfold Confuses
  split <;> simp

/-- A handler that cannot tell two contexts apart goes on alike in both, if the mask makes its
inputs equal. -/
theorem follows_call {h : Handler C.Store π α}
    {input : Option Context → Option C.Store → CallInput C} (hconfuses : h.Confuses c c')
    (hinput : ∀ store, (input (some c) store).masked mask = (input (some c') store).masked mask)
    (payload : π) :
    Session.Follows mask (h.call input c payload) (h.call input c' payload) := by
  intro s t hst
  unfold Confuses at hconfuses
  unfold Handler.call
  rw [hst.store]
  split
  · exact hst.call _ _ rfl fun n => rfl
  · exact hst.call _ _ rfl fun n => rfl
  · rename_i run hrun
    rw [hrun] at hconfuses
    exact hst.call _ _ (hinput none) fun n => by rw [hconfuses]
  · rename_i run hrun
    rw [hrun] at hconfuses
    exact hst.call _ _ (hinput _) fun n => hconfuses n _ payload

/-- A handler is called once, with the context and the store if it asks for them, and the record
tells whether the call succeeded. -/
theorem calls_call (h : Handler C.Store π α)
    (input : Option Context → Option C.Store → CallInput C) (ctx : Context) (payload : π)
    (s : Session C) :
    ∃ call, (h.call input ctx payload s).2.calls = s.calls ++ [call] ∧
      call.succeeded = (h.call input ctx payload s).1.succeeded ∧ call.callee = h.callee ∧
        ∃ context store, (∀ c ∈ context, c = ctx) ∧ call.input = input context store := by
  unfold Handler.call
  split
  · exact ⟨_, rfl, rfl, rfl, none, none, nofun, rfl⟩
  · exact ⟨_, rfl, rfl, rfl, none, some s.store, nofun, rfl⟩
  · exact ⟨_, rfl, rfl, rfl, some ctx, none, by simp, rfl⟩
  · exact ⟨_, rfl, rfl, rfl, some ctx, some s.store, by simp, rfl⟩

end Handler
end Switchboard
