import Switchboard.Authorizer
import Switchboard.Handler
import Switchboard.Query.Filter
import Switchboard.Sample.Catalogue
import Switchboard.Transport

/-!
# Scripted user code

Handlers, checks, queries and consumers that follow a script: the step of a call is the one at its
number, and a script that has run out goes on with one and the same step.  With them a course of
events can be laid down beforehand.

Main definitions:

- Definition {lit}`Script.step`: the step of a call.
- Definition {lit}`Answer.lookUp`: what a query finds in the store.
-/

namespace Switchboard
namespace Sample

/-! ## Scripts -/

/-- A list of steps, one for each call, and the step of all calls past its end. -/
structure Script (α : Type) where
  steps : List α
  afterwards : α

namespace Script

variable {α : Type}

/-- The step of a call. -/
def step (script : Script α) (number : Nat) : α :=
  (script.steps[number]?).getD script.afterwards

end Script

/-- A script of calls that succeed or fail and answer nothing. -/
abbrev Trial (ε : Type) := Script (Outcome ε Unit)

/-! ## Handlers -/

/-- Note a handled command in the store. -/
def Store.note (store : Store) (name : String) (kind : Kind) (command : kind.Value) : Store :=
  { store with items := store.items ++ [(name, ⟨kind, command⟩)] }

/-- The end of a call of a command handler with the store: a command that was handled is noted. -/
def endWithStore (name : String) (kind : Kind) (outcome : Outcome HandlerError Unit)
    (store : Store) (command : kind.Value) : Outcome HandlerError Unit × Store :=
  (outcome, if outcome.succeeded then store.note name kind command else store)

/-- A command handler that follows a script. -/
def commandHandler (callee : Nat) (name : String) (needs : Dependencies)
    (script : Trial HandlerError) (kind : Kind) : Handler Store kind.Value Unit :=
  ⟨callee, name,
    match needs with
    | ⟨false, false⟩ => .plain fun n _ => script.step n
    | ⟨false, true⟩ => .withContext fun n _ _ => script.step n
    | ⟨true, false⟩ => .withStore fun n store command =>
      endWithStore name kind (script.step n) store command
    | ⟨true, true⟩ => .withBoth fun n _ store command =>
      endWithStore name kind (script.step n) store command⟩

/-- An event handler that follows a script. -/
def eventHandler (callee : Nat) (name : String) (withContext : Bool)
    (script : Trial HandlerError) (kind : Kind) : EventHandler kind.Value :=
  ⟨callee, name,
    if withContext then .withContext fun n _ _ => script.step n
    else .plain fun n _ => script.step n⟩

/-! ## Queries -/

/-- The book that an account stands for: its organisation owns it. -/
def Account.toBook (account : Account) : Book :=
  ⟨.nil, account.organisation, account.name⟩

/-- What a query for a result type finds in the store. -/
def Answer.lookUp (store : Store) : (answer : Answer) → Option (Result answer.Item)
  | number => some (.single (UInt64.ofNat store.accounts.length))
  | text =>
    if store.accounts.isEmpty then none
    else some (.single (",".intercalate (store.accounts.map Account.name)))
  | account => store.accounts.head?.map .single
  | accounts => some (.sequence store.accounts)
  | book => store.accounts.getLast?.map fun last => .single last.toBook
  | books => some (.sequence (store.accounts.map Account.toBook))

/-- A step of a scripted query. -/
inductive QueryStep (answer : Answer) where
  /-- Look into the store, if the query has it. -/
  | looksUp
  /-- End as laid down. -/
  | ends (outcome : Outcome HandlerError (Option (Result answer.Item)))

/-- How a step of a query ends, which finds nothing in a store that it does not have. -/
def QueryStep.run {answer : Answer} (store : Option Store) :
    QueryStep answer → Outcome HandlerError (Option (Result answer.Item))
  | looksUp => .ok (store.bind fun store => answer.lookUp store)
  | ends outcome => outcome

/-- A query that follows a script. -/
def query (callee : Nat) (name : String) (needs : Dependencies) {answer : Answer}
    (script : Script (QueryStep answer)) (kind : Kind) :
    Handler Store kind.Value (Option (Result answer.Item)) :=
  ⟨callee, name,
    match needs with
    | ⟨false, false⟩ => .plain fun n _ => (script.step n).run none
    | ⟨false, true⟩ => .withContext fun n _ _ => (script.step n).run none
    | ⟨true, false⟩ => .withStore fun n store _ => ((script.step n).run (some store), store)
    | ⟨true, true⟩ => .withBoth fun n _ store _ => ((script.step n).run (some store), store)⟩

/-- A result filter that follows a script, and passes through what it does not stop. -/
def resultFilter {answer : Answer} (callee : Nat) (name : String) (script : Trial DispatchError) :
    ResultFilter answer.Item :=
  ⟨callee, some name, fun n _ result =>
    match script.step n with
    | .returned (.ok ()) => .ok result
    | .returned (.error e) => .error e
    | .panicked value => .panicked value⟩

/-! ## Checks and consumers -/

/-- A step of a scripted authorizer. -/
inductive CheckStep where
  /-- Ask for membership in the organisation. -/
  | asksMembership
  /-- End as laid down. -/
  | ends (outcome : Outcome DispatchError Unit)

/-- An authorizer that follows a script. -/
def authorizer (callee : Nat) (name : String) (script : Script CheckStep) : Authorizer :=
  ⟨callee, some name, fun n ctx organisation =>
    match script.step n with
    | .asksMembership => .returned (Authorizer.member ctx organisation)
    | .ends outcome => outcome⟩

/-- A consumer of raw messages that follows a script. -/
def messageConsumer (callee : Nat) (name : String) (script : Trial DispatchError) :
    MessageConsumer :=
  ⟨callee, name, fun n _ _ => script.step n⟩

end Sample
end Switchboard
