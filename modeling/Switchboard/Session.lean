import Switchboard.Error
import Switchboard.Log
import Switchboard.Message

/-!
# Sessions

The state that calls of user code pass through: the shared store, the record of all calls, the log,
and the supply of fresh identifiers.  Every call of a handler, authorizer, filter or consumer goes
through {lit}`Session.call`, so the record is complete by construction.

User code is a function of the number of the call, so that one and the same handler may fail at
first and succeed later.

Main results:

- Definition {lit}`Session.call`: runs user code and records it.
- Definition {lit}`contain`: turns a panic into a failure of the handler.
- Theorem {lit}`Session.calls_call`: a call adds one entry to the record.
-/

namespace Switchboard

/-! ## Outcomes of user code -/

/-- What a panic carries: a text, or a value without one. -/
inductive PanicValue where
  | text (text : String)
  | wordless
deriving DecidableEq

/-- The wording of a panic. -/
def PanicValue.message : PanicValue → String
  | text words => words
  | wordless => "unknown panic"

/-- How a call of user code ends: it returns, or it panics. -/
inductive Outcome (ε α : Type) where
  | returned (result : Except ε α)
  | panicked (value : PanicValue)

namespace Outcome

variable {ε α : Type}

/-- The outcome of a call that succeeds. -/
def ok (value : α) : Outcome ε α :=
  returned (.ok value)

/-- The outcome of a call that fails. -/
def error (e : ε) : Outcome ε α :=
  returned (.error e)

/-- Whether a call succeeded. -/
def succeeded : Outcome ε α → Bool
  | returned (.ok _) => true
  | _ => false

end Outcome

/-- The failure that a panic on a payload type counts as. -/
def HandlerError.ofPanic (tag : String) (value : PanicValue) : HandlerError :=
  .panicked tag value.message

/-- The result of a handler, a panic being a failure of it. -/
def contain {α : Type} (tag : String) : Outcome HandlerError α → Except HandlerError α
  | .returned result => result
  | .panicked value => .error (.ofPanic tag value)

/-- The result of a check, a panic being a failure of the handler it belongs to. -/
def containCheck {α : Type} (tag : String) : Outcome DispatchError α → Except DispatchError α
  | .returned result => result
  | .panicked value => .error (.handler (.ofPanic tag value))

/-! ## The record of calls -/

/-- What a piece of user code was given in a call. -/
inductive CallInput (C : Catalogue) where
  /-- A command or event handler: the payload, and the context and store it asked for. -/
  | handler (kind : C.Kind) (payload : C.Value kind) (context : Option Context)
      (store : Option C.Store)
  /-- A query: the criteria, and the context and store it asked for. -/
  | query (kind : C.Kind) (criteria : C.Value kind) (context : Option Context)
      (store : Option C.Store)
  /-- An authorizer: the context and the organisation of the command. -/
  | authorizer (context : Context) (organisation : Option Uuid)
  /-- A result filter: the result and the context of the query. -/
  | filter (answer : C.Answer) (result : Result (C.Item answer)) (context : Context)
  /-- A consumer of raw messages. -/
  | consumer (queue : String) (message : Message) (context : Context)

/-- One call of a piece of user code. -/
structure Call (C : Catalogue) where
  /-- The number that tells this piece of user code from all others. -/
  callee : Nat
  /-- The name it was given, if it was given one. -/
  name : Option String
  /-- How often it had been called before. -/
  number : Nat
  input : CallInput C
  /-- Whether the call succeeded. -/
  succeeded : Bool

/-! ## Sessions -/

/-- The state that calls of user code pass through. -/
structure Session (C : Catalogue) where
  store : C.Store
  /-- All calls so far, the latest last. -/
  calls : List (Call C)
  /-- All log entries so far, the latest last. -/
  log : List LogEntry
  /-- The number of the next fresh identifier. -/
  nextId : Nat
  /-- Whether a background worker is at work. -/
  background : Bool

/-- An activity within a session. -/
abbrev Activity (C : Catalogue) := StateM (Session C)

section
variable {σ α β : Type}

/-- What comes after goes on with the value and in the state that were reached. -/
theorem bind_apply (first : StateM σ α) (next : α → StateM σ β) (s : σ) :
    (first >>= next) s = next (first s).1 (first s).2 :=
  rfl

theorem pure_apply (value : α) (s : σ) : (pure value : StateM σ α) s = (value, s) :=
  rfl

theorem map_apply (f : α → β) (m : StateM σ α) (s : σ) : (f <$> m) s = (f (m s).1, (m s).2) :=
  rfl

end

namespace Session

variable {C : Catalogue} {ε α : Type}

/-- A session that starts with a store and a first identifier. -/
def start (store : C.Store) (firstId : Nat) : Session C :=
  ⟨store, [], [], firstId, false⟩

/-- How often a piece of user code has been called. -/
def callCount (s : Session C) (callee : Nat) : Nat :=
  s.calls.countP fun call => call.callee == callee

/-- Call a piece of user code and record the call. -/
def call (callee : Nat) (name : Option String) (input : CallInput C)
    (run : Nat → C.Store → Outcome ε α × C.Store) : Activity C (Outcome ε α) := fun s =>
  let number := s.callCount callee
  let (outcome, store) := run number s.store
  (outcome,
    { s with
      store
      calls := s.calls ++ [⟨callee, name, number, input, outcome.succeeded⟩] })

/-- Write a log entry. -/
def report (level : LogLevel) (message : String) (fields : List (String × LogValue)) :
    Activity C Unit := fun s =>
  ((), { s with log := s.log ++ [⟨s.background, level, message, fields⟩] })

/-- Draw a fresh identifier. -/
def draw : Activity C String := fun s =>
  ((Uuid.random s.nextId).text, { s with nextId := s.nextId + 1 })

/-- Let a background worker do something. -/
def inBackground (activity : Activity C α) : Activity C α := fun s =>
  let (value, s') := activity { s with background := true }
  (value, { s' with background := s.background })

/-- A call adds one entry to the record. -/
theorem calls_call (callee : Nat) (name : Option String) (input : CallInput C)
    (run : Nat → C.Store → Outcome ε α × C.Store) (s : Session C) :
    (call callee name input run s).2.calls =
      s.calls ++ [⟨callee, name, s.callCount callee, input,
        (run (s.callCount callee) s.store).1.succeeded⟩] :=
  rfl

/-- Log entries are no calls. -/
@[simp]
theorem calls_report (level : LogLevel) (message : String) (fields : List (String × LogValue))
    (s : Session C) :
    ((report level message fields : Activity C Unit) s).2.calls = s.calls :=
  rfl

end Session
end Switchboard
