import Switchboard.Authorizer
import Switchboard.Handler
import Switchboard.Query.Filter
import Switchboard.Transport

/-!
# User code without panics

User code is tamed by having it return, instead of chosen panics, the failures that these panics
count as.  Whoever calls it and contains its panics cannot tell the difference: not from the
outcome, and not from the session, since a call that fails is recorded like a call that panics.

Which panics are replaced is arbitrary.  A call is known by the number of the user code and by how
often that had been called before, so the choice may fall on any of the panics of a run.

Main results:

- Definition {lit}`Outcome.tamed`: replaces a panic, if it was chosen.
- Definition {lit}`Outcome.Calm`: an outcome is no panic, and so for each sort of user code.
- Theorem {lit}`Outcome.calm_tamed`: where all panics are replaced, none is left.
- Theorem {lit}`Session.map_call_tamed`: a call is the same to whoever cannot tell tamed outcomes.
- Theorems {lit}`Handler.contain_call_tamed`, {lit}`EventHandler.contain_call_tamed`,
  {lit}`Authorizer.authorize_tamed`, {lit}`ResultFilter.containCheck_call_tamed` and
  {lit}`MessageConsumer.containCheck_call_tamed`: so it is for each sort of user code.
-/

namespace Switchboard

variable {C : Catalogue} {ε α β π σ : Type}

/-- Which panics are replaced: for the number of a piece of user code, and the number of its
call. -/
abbrev Choice := Nat → Nat → Bool

/-- All panics are replaced. -/
def Choice.all : Choice := fun _ _ => true

/-! ## Outcomes -/

namespace Outcome

/-- The outcome in which a panic, if it was chosen, is replaced by a failure. -/
def tamed (failure : PanicValue → ε) (chosen : Bool) : Outcome ε α → Outcome ε α
  | returned result => returned result
  | panicked value => if chosen then error (failure value) else panicked value

/-- A panic that was replaced is a call that did not succeed, as before. -/
@[simp]
theorem succeeded_tamed (failure : PanicValue → ε) (chosen : Bool) (outcome : Outcome ε α) :
    (outcome.tamed failure chosen).succeeded = outcome.succeeded := by
  cases outcome with
  | returned result => rfl
  | panicked value => cases chosen <;> rfl

/-- An outcome is no panic. -/
def Calm : Outcome ε α → Prop
  | returned _ => True
  | panicked _ => False

/-- Where a panic is replaced, none is left. -/
theorem calm_tamed (failure : PanicValue → ε) (outcome : Outcome ε α) :
    (outcome.tamed failure true).Calm := by
  cases outcome <;> trivial

end Outcome

/-- The failure that a check's or filter's panic counts as. -/
def DispatchError.ofPanic (tag : String) (value : PanicValue) : DispatchError :=
  .handler (.ofPanic tag value)

/-- A handler's panic is contained as the failure it is replaced by. -/
@[simp]
theorem contain_tamed (tag : String) (chosen : Bool) (outcome : Outcome HandlerError α) :
    contain tag (outcome.tamed (.ofPanic tag) chosen) = contain tag outcome := by
  cases outcome with
  | returned result => rfl
  | panicked value => cases chosen <;> rfl

/-- A check's panic is contained as the failure it is replaced by. -/
@[simp]
theorem containCheck_tamed (tag : String) (chosen : Bool) (outcome : Outcome DispatchError α) :
    containCheck tag (outcome.tamed (.ofPanic tag) chosen) = containCheck tag outcome := by
  cases outcome with
  | returned result => rfl
  | panicked value => cases chosen <;> rfl

/-- A call is the same, in what becomes of its outcome and in the session, to whoever cannot tell
tamed outcomes from others. -/
theorem Session.map_call_tamed {failure : PanicValue → ε} {read : Outcome ε α → β}
    (hread : ∀ chosen outcome, read (Outcome.tamed failure chosen outcome) = read outcome)
    (which : Choice) (callee : Nat) (name : Option String) (input : CallInput C)
    (run : Nat → C.Store → Outcome ε α × C.Store) :
    (read <$> call callee name input fun n store =>
        ((run n store).1.tamed failure (which callee n), (run n store).2)) =
      read <$> call callee name input run := by
  funext s
  simp only [map_apply, call, hread, Outcome.succeeded_tamed]

/-! ## Handlers -/

namespace Behaviour

/-- What a handler does without the chosen panics. -/
def tamed (failure : PanicValue → HandlerError) (chosen : Nat → Bool) :
    Behaviour σ π α → Behaviour σ π α
  | plain run => plain fun n payload => (run n payload).tamed failure (chosen n)
  | withStore run => withStore fun n store payload =>
    ((run n store payload).1.tamed failure (chosen n), (run n store payload).2)
  | withContext run => withContext fun n ctx payload =>
    (run n ctx payload).tamed failure (chosen n)
  | withBoth run => withBoth fun n ctx store payload =>
    ((run n ctx store payload).1.tamed failure (chosen n), (run n ctx store payload).2)

/-- A handler never panics. -/
def Calm : Behaviour σ π α → Prop
  | plain run => ∀ n payload, (run n payload).Calm
  | withStore run => ∀ n store payload, (run n store payload).1.Calm
  | withContext run => ∀ n ctx payload, (run n ctx payload).Calm
  | withBoth run => ∀ n ctx store payload, (run n ctx store payload).1.Calm

theorem calm_tamed (failure : PanicValue → HandlerError) (b : Behaviour σ π α) :
    (b.tamed failure fun _ => true).Calm := by
  cases b with
  | plain run => exact fun _ _ => Outcome.calm_tamed ..
  | withStore run | withContext run => exact fun _ _ _ => Outcome.calm_tamed ..
  | withBoth run => exact fun _ _ _ _ => Outcome.calm_tamed ..

end Behaviour

namespace Handler

/-- A handler of a tag without the chosen panics. -/
def tamed (which : Choice) (tag : String) (h : Handler σ π α) : Handler σ π α :=
  { h with behaviour := h.behaviour.tamed (.ofPanic tag) (which h.callee) }

/-- Whoever contains a handler's panics cannot tell whether it was tamed. -/
theorem contain_call_tamed (which : Choice) (tag : String) (h : Handler C.Store π α)
    (input : Option Context → Option C.Store → CallInput C) (ctx : Context) (payload : π) :
    contain tag <$> (h.tamed which tag).call input ctx payload =
      contain tag <$> h.call input ctx payload := by
  obtain ⟨callee, name, behaviour⟩ := h
  have hsame (input : CallInput C) (run : Nat → C.Store → Outcome HandlerError α × C.Store) :=
    Session.map_call_tamed (contain_tamed tag) which callee (some name) input run
  funext s
  cases behaviour with
  | plain run => exact congrFun (hsame _ fun n store => (run n payload, store)) s
  | withStore run => exact congrFun (hsame _ fun n store => run n store payload) s
  | withContext run => exact congrFun (hsame _ fun n store => (run n ctx payload, store)) s
  | withBoth run => exact congrFun (hsame _ fun n store => run n ctx store payload) s

end Handler

namespace EventBehaviour

/-- What an event handler does without the chosen panics. -/
def tamed (failure : PanicValue → HandlerError) (chosen : Nat → Bool) :
    EventBehaviour π → EventBehaviour π
  | plain run => plain fun n payload => (run n payload).tamed failure (chosen n)
  | withContext run => withContext fun n ctx payload =>
    (run n ctx payload).tamed failure (chosen n)

/-- An event handler never panics. -/
def Calm : EventBehaviour π → Prop
  | plain run => ∀ n payload, (run n payload).Calm
  | withContext run => ∀ n ctx payload, (run n ctx payload).Calm

theorem calm_tamed (failure : PanicValue → HandlerError) (b : EventBehaviour π) :
    (b.tamed failure fun _ => true).Calm := by
  cases b with
  | plain run => exact fun _ _ => Outcome.calm_tamed ..
  | withContext run => exact fun _ _ _ => Outcome.calm_tamed ..

end EventBehaviour

namespace EventHandler

/-- An event handler of a tag without the chosen panics. -/
def tamed (which : Choice) (tag : String) (h : EventHandler π) : EventHandler π :=
  { h with behaviour := h.behaviour.tamed (.ofPanic tag) (which h.callee) }

/-- A tamed event handler is tamed among those that may ask for a store. -/
theorem toHandler_tamed (which : Choice) (tag : String) (h : EventHandler π) :
    ((h.tamed which tag).toHandler : Handler C.Store π Unit) = h.toHandler.tamed which tag := by
  obtain ⟨callee, name, behaviour⟩ := h
  cases behaviour <;> rfl

/-- Whoever contains an event handler's panics cannot tell whether it was tamed. -/
theorem contain_call_tamed (which : Choice) (tag : String) {kind : C.Kind}
    (h : EventHandler (C.Value kind)) (ctx : Context) (event : C.Value kind) :
    contain tag <$> (h.tamed which tag).call ctx event = contain tag <$> h.call ctx event := by
  rw [call, toHandler_tamed]
  exact Handler.contain_call_tamed which tag h.toHandler _ ctx event

end EventHandler

/-! ## Checks, filters and consumers -/

namespace Authorizer

/-- A check before the handler of a tag, without the chosen panics. -/
def tamed (which : Choice) (tag : String) (a : Authorizer) : Authorizer :=
  { a with decide := fun n ctx organisation =>
    (a.decide n ctx organisation).tamed (.ofPanic tag) (which a.callee n) }

/-- A check never panics. -/
def Calm (a : Authorizer) : Prop :=
  ∀ n ctx organisation, (a.decide n ctx organisation).Calm

theorem calm_tamed (tag : String) (a : Authorizer) : (a.tamed Choice.all tag).Calm :=
  fun _ _ _ => Outcome.calm_tamed ..

/-- A check that was tamed decides alike. -/
theorem authorize_tamed (which : Choice) (tag : String) (a : Authorizer) (ctx : Context)
    (organisation : Option Uuid) :
    ((a.tamed which tag).authorize tag ctx organisation : Activity C _) =
      a.authorize tag ctx organisation :=
  Session.map_call_tamed (containCheck_tamed tag) which a.callee a.name
    (.authorizer ctx organisation) fun n store => (a.decide n ctx organisation, store)

end Authorizer

namespace ResultFilter

/-- A filter of the query of a tag, without the chosen panics. -/
def tamed (which : Choice) (tag : String) (f : ResultFilter α) : ResultFilter α :=
  { f with apply := fun n ctx result =>
    (f.apply n ctx result).tamed (.ofPanic tag) (which f.callee n) }

/-- A filter never panics. -/
def Calm (f : ResultFilter α) : Prop :=
  ∀ n ctx result, (f.apply n ctx result).Calm

theorem calm_tamed (tag : String) (f : ResultFilter α) : (f.tamed Choice.all tag).Calm :=
  fun _ _ _ => Outcome.calm_tamed ..

/-- Whoever contains a filter's panics cannot tell whether it was tamed. -/
theorem containCheck_call_tamed (which : Choice) (tag : String) {answer : C.Answer}
    (f : ResultFilter (C.Item answer)) (ctx : Context) (result : Result (C.Item answer)) :
    (containCheck tag <$> (f.tamed which tag).call ctx result : Activity C _) =
      containCheck tag <$> f.call ctx result :=
  Session.map_call_tamed (containCheck_tamed tag) which f.callee f.name
    (.filter answer result ctx) fun n store => (f.apply n ctx result, store)

end ResultFilter

namespace Message

/-- The name under which panics on a message are reported. -/
def panicTag (m : Message) : String :=
  m.typeInfo.getD "unknown"

end Message

namespace MessageConsumer

/-- A consumer of raw messages without the chosen panics. -/
def tamed (which : Choice) (c : MessageConsumer) : MessageConsumer :=
  { c with run := fun n ctx m => (c.run n ctx m).tamed (.ofPanic m.panicTag) (which c.callee n) }

/-- A consumer never panics. -/
def Calm (c : MessageConsumer) : Prop :=
  ∀ n ctx m, (c.run n ctx m).Calm

theorem calm_tamed (c : MessageConsumer) : (c.tamed Choice.all).Calm :=
  fun _ _ _ => Outcome.calm_tamed ..

/-- Whoever contains a consumer's panics cannot tell whether it was tamed. -/
theorem containCheck_call_tamed (which : Choice) (c : MessageConsumer) (queue : String)
    (ctx : Context) (m : Message) :
    (containCheck m.panicTag <$> Session.call (C := C) c.callee (some c.name)
        (.consumer queue m ctx) fun n store => ((c.tamed which).run n ctx m, store)) =
      containCheck m.panicTag <$> Session.call c.callee (some c.name) (.consumer queue m ctx)
        fun n store => (c.run n ctx m, store) :=
  Session.map_call_tamed (containCheck_tamed m.panicTag) which c.callee (some c.name)
    (.consumer queue m ctx) fun n store => (c.run n ctx m, store)

end MessageConsumer
end Switchboard
