import Mathlib.Data.List.Infix
import Switchboard.Network
import Switchboard.Proofs.Command.Sequence

/-!
# The record of calls behind a queue

Whatever a broker and its consumers do, no call is struck from the record.  So what the record shows
in the end, it showed of every earlier moment too.

Main results:

- Theorem {lit}`CommandRegistry.grows_execute`: the record grows while a command is executed.
- Theorem {lit}`Broker.grows_round`: it grows in a round of turns.
- Theorem {lit}`Broker.grows_work`: it grows while the broker works.
-/

namespace Switchboard

open Session

variable {C : Catalogue}

/-- All calls but so many of the earliest succeeded. -/
def Session.Unfailing (earliest : Nat) (s : Session C) : Prop :=
  ∀ call ∈ s.calls.drop earliest, call.succeeded = true

theorem Session.Unfailing.of_prefix {earliest : Nat} {s t : Session C} (h : t.Unfailing earliest)
    (hcalls : s.calls <+: t.calls) : s.Unfailing earliest :=
  fun call hcall => h call ((hcalls.drop earliest).subset hcall)

/-! ## Commands -/

theorem Handler.grows_call {π α : Type} (h : Handler C.Store π α)
    (input : Option Context → Option C.Store → CallInput C) (ctx : Context) (payload : π) :
    Grows (h.call input ctx payload) := by
  intro s
  obtain ⟨call, hcalls, -⟩ := h.calls_call input ctx payload s
  rw [hcalls]
  exact List.prefix_append _ _

namespace CommandRegistry

theorem grows_runEntry (entry : CommandEntry C) (ctx : Context) (command : C.Value entry.kind) :
    Grows (runEntry entry ctx command) := by
  refine grows_bind (entry.handler.grows_call _ _ _) fun outcome => ?_
  split
  · exact grows_pure _
  · exact grows_bind (grows_report _ _ _) fun _ => grows_pure _

theorem grows_authorize (a : Authorizer) (tag : String) (ctx : Context)
    (organisation : Option Uuid) :
    Grows (a.authorize tag ctx organisation : Activity C (Except DispatchError Unit)) :=
  grows_bind (grows_call _ _ _ _) fun _ => grows_pure _

/-- The record grows while a command is executed. -/
theorem grows_execute (r : CommandRegistry C) (ctx : Context) (organisation : Option Uuid)
    {kind : C.Kind} (command : C.Value kind) : Grows (r.execute ctx organisation command) := by
  unfold execute
  split
  · exact grows_pure _
  · refine grows_bind (grows_authorize _ _ _ _) fun result => ?_
    split
    · exact grows_pure _
    · split
      · exact grows_runEntry _ _ _
      · exact grows_pure _

theorem grows_executeAll (r : CommandRegistry C) (pairs : List (Context × Request C)) :
    Grows (r.executeAll pairs) := by
  induction pairs with
  | nil => exact grows_pure _
  | cons pair rest ih =>
    refine grows_bind (r.grows_execute _ _ _) fun result => ?_
    exact grows_bind ih fun results => grows_pure _

end CommandRegistry

theorem CommandFacade.grows_receive (f : CommandFacade C) (ctx : Context) (message : Message) :
    Grows (f.receive ctx message) := by
  unfold receive Facade.route
  split
  · exact grows_bind (grows_report _ _ _) fun _ => grows_pure _
  · split
    · exact grows_bind (grows_report _ _ _) fun _ => grows_pure _
    · split
      · exact grows_pure _
      · exact f.registry.grows_execute _ _ _

/-! ## Consumers -/

/-- Whatever a subscriber makes of a message, no call is struck from the record. -/
def Reception.Keeps (receive : Reception C) : Prop :=
  ∀ subscriber queue ctx message, Grows (receive subscriber queue ctx message)

/-- A single façade for commands keeps the record. -/
theorem Network.keeps_reception (f : CommandFacade C) :
    Reception.Keeps (reception [.commands f]) := by
  intro subscriber queue ctx message
  unfold reception
  cases subscriber with
  | consumer c => exact grows_call _ _ _ _
  | facade address =>
    cases address with
    | zero => exact grows_bind (f.grows_receive ctx message) fun _ => grows_pure _
    | succ address => exact grows_pure _

variable {receive : Reception C}

namespace Consumer

theorem grows_handle (hreceive : Reception.Keeps receive) (c : Consumer) (delivery : Delivery)
    (backlog : Backlog) : Grows (c.handle receive delivery backlog) := by
  refine grows_bind grows_draw fun _ => ?_
  refine grows_bind (hreceive _ _ _ _) fun outcome => ?_
  split
  · exact grows_pure _
  · exact grows_bind (grows_report _ _ _) fun _ => grows_pure _

theorem grows_turn (hreceive : Reception.Keeps receive) (now : Instant) (wait : Duration)
    (backlog : Backlog) (c : Consumer) : Grows (c.turn receive now wait backlog) := by
  unfold turn
  split
  · exact grows_pure _
  · refine grows_bind grows_draw fun _ => ?_
    split
    · exact grows_bind (grows_report _ _ _) fun _ => grows_pure _
    · exact grows_pure _
    · exact grows_pure _
    · exact grows_bind (grows_handle hreceive _ _ _) fun _ => grows_pure _

end Consumer

/-! ## The broker -/

namespace Broker

theorem grows_takeTurns (hreceive : Reception.Keeps receive) (now : Instant) (wait : Duration)
    (backlog : Backlog) (consumers : List Consumer) :
    Grows (takeTurns receive now wait backlog consumers) := by
  induction consumers generalizing backlog with
  | nil => exact grows_pure _
  | cons c rest ih =>
    refine grows_bind (grows_inBackground (c.grows_turn hreceive now wait backlog)) fun turn => ?_
    exact grows_bind (ih turn.backlog) fun _ => grows_pure _

theorem grows_takeLooks (now : Instant) (backlog : Backlog) (receivers : List Receiver) :
    Grows (takeLooks now backlog receivers : Activity C _) := by
  induction receivers generalizing backlog with
  | nil => exact grows_pure _
  | cons r rest ih =>
    refine grows_bind grows_draw fun receipt => ?_
    exact grows_bind (ih _) fun _ => grows_pure _

/-- The record grows in a round of turns. -/
theorem grows_round (hreceive : Reception.Keeps receive) (b : Broker) :
    Grows (b.round receive) := by
  refine grows_bind (grows_takeTurns hreceive _ _ _ _) fun _ => ?_
  exact grows_bind (grows_takeLooks _ _ _) fun _ => grows_pure _

/-- The record grows while the broker works. -/
theorem grows_work (hreceive : Reception.Keeps receive) (rounds : Nat) (b : Broker) :
    Grows (b.work receive rounds) := by
  induction rounds generalizing b with
  | zero => exact grows_pure _
  | succ rounds ih =>
    refine grows_bind (grows_round hreceive b) fun outcome => ?_
    split
    split
    · exact ih _
    · exact grows_pure _

end Broker
end Switchboard
