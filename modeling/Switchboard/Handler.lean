import Switchboard.Session

/-!
# Handlers

A handler declares by its shape what it needs besides its payload: the shared store, the context of
the call, both or neither.  It is given exactly that.  Event handlers never ask for the store.

Main definitions:

- Definition {lit}`Handler`: a named command handler or query.
- Definition {lit}`EventHandler`: a named event handler.
- Definitions {lit}`Handler.dependencies` and {lit}`EventHandler.dependencies`: what they ask for.
-/

namespace Switchboard

/-- What a handler asks for besides its payload. -/
structure Dependencies where
  store : Bool
  context : Bool
deriving DecidableEq

/-- What a handler does at each of its calls, by what it asks for.  One that has the store may
leave it changed, even if it fails. -/
inductive Behaviour (σ π α : Type) where
  | plain (run : Nat → π → Outcome HandlerError α)
  | withStore (run : Nat → σ → π → Outcome HandlerError α × σ)
  | withContext (run : Nat → Context → π → Outcome HandlerError α)
  | withBoth (run : Nat → Context → σ → π → Outcome HandlerError α × σ)

/-- A command handler or query over a store, for payloads of one type and with results of one. -/
structure Handler (σ π α : Type) where
  /-- The number that tells this handler from all others. -/
  callee : Nat
  name : String
  behaviour : Behaviour σ π α

namespace Handler

variable {C : Catalogue} {σ π α : Type}

/-- Give a handler another name. -/
def named (h : Handler σ π α) (name : String) : Handler σ π α :=
  { h with name }

/-- What a handler asks for. -/
def dependencies (h : Handler σ π α) : Dependencies :=
  match h.behaviour with
  | .plain _ => ⟨false, false⟩
  | .withStore _ => ⟨true, false⟩
  | .withContext _ => ⟨false, true⟩
  | .withBoth _ => ⟨true, true⟩

/-- Call a handler with what it asks for; the record of the call is made from the same. -/
def call (h : Handler C.Store π α) (input : Option Context → Option C.Store → CallInput C)
    (ctx : Context) (payload : π) : Activity C (Outcome HandlerError α) := fun s =>
  match h.behaviour with
  | .plain run =>
    Session.call h.callee (some h.name) (input none none) (fun n store => (run n payload, store)) s
  | .withStore run =>
    Session.call h.callee (some h.name) (input none (some s.store))
      (fun n store => run n store payload) s
  | .withContext run =>
    Session.call h.callee (some h.name) (input (some ctx) none)
      (fun n store => (run n ctx payload, store)) s
  | .withBoth run =>
    Session.call h.callee (some h.name) (input (some ctx) (some s.store))
      (fun n store => run n ctx store payload) s

end Handler

/-- What an event handler does at each of its calls, by what it asks for. -/
inductive EventBehaviour (π : Type) where
  | plain (run : Nat → π → Outcome HandlerError Unit)
  | withContext (run : Nat → Context → π → Outcome HandlerError Unit)

/-- An event handler for events of one type. -/
structure EventHandler (π : Type) where
  /-- The number that tells this handler from all others. -/
  callee : Nat
  name : String
  behaviour : EventBehaviour π

namespace EventHandler

variable {C : Catalogue} {π : Type}

/-- Give a handler another name. -/
def named (h : EventHandler π) (name : String) : EventHandler π :=
  { h with name }

/-- What a handler asks for. -/
def dependencies (h : EventHandler π) : Dependencies :=
  match h.behaviour with
  | .plain _ => ⟨false, false⟩
  | .withContext _ => ⟨false, true⟩

/-- The same handler among those that may ask for a store. -/
def toHandler (h : EventHandler π) : Handler C.Store π Unit :=
  ⟨h.callee, h.name,
    match h.behaviour with
    | .plain run => .plain run
    | .withContext run => .withContext run⟩

/-- Call a handler with an event, and with the context if it asks for it. -/
def call {kind : C.Kind} (h : EventHandler (C.Value kind)) (ctx : Context)
    (event : C.Value kind) : Activity C (Outcome HandlerError Unit) :=
  h.toHandler.call (.handler kind event) ctx event

end EventHandler
end Switchboard
