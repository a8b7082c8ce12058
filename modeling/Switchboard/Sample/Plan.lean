import Switchboard.Json.Decode
import Switchboard.Naming
import Switchboard.Sample.Report
import Switchboard.Sample.Script

/-!
# Plans

Faults, scripts and scripted user code, written down as JSON values.  A step that names no fault
succeeds.

Main definitions:

- Definition {lit}`outcomeOf`: how a step of a script ends.
- Definition {lit}`commandHandlerOf` and its companions: scripted user code.
- Definition {lit}`contextOf?`: a context that is made step by step.
-/

namespace Switchboard

/-! ## Faults -/

/-- The failure of a handler that a JSON value names. -/
def HandlerError.ofJson? (value : Json) : Option HandlerError :=
  ((value.textAt? "rejected").map rejected).orElse fun _ =>
  ((value.textAt? "not_found").map notFound).orElse fun _ =>
  ((value.textAt? "unauthorized").map unauthorized).orElse fun _ =>
  ((value.textAt? "other").map other).orElse fun _ =>
  (value.objectAt? "panicked").map fun details =>
    panicked (details.textAt "payload_type") (details.textAt "message")

/-- The failure of a transport that a JSON value names. -/
def TransportError.ofJson? (value : Json) : Option TransportError :=
  if value.isWord "closed" then some closed
  else
    ((value.objectAt? "subscribe").map fun details =>
      subscribe (details.textAt "queue") (details.textAt "reason")).orElse fun _ =>
    (value.objectAt? "rejected").map fun details =>
      rejected (details.textAt "queue") (details.textAt "reason")

/-- The failure of a dispatch that a JSON value names. -/
def DispatchError.ofJson? (value : Json) : Option DispatchError :=
  ((value.textAt? "permission").map fun words => permission (.stated words)).orElse fun _ =>
  ((value.textAt? "lookup").map fun words => lookup (.stated words)).orElse fun _ =>
  ((value.textAt? "registration").map fun words => registration (.stated words)).orElse fun _ =>
  ((TransportError.ofJson? (value.get "transport")).map transport).orElse fun _ =>
  (HandlerError.ofJson? (value.get "handler")).map handler

/-- The panic that a JSON value names. -/
def PanicValue.ofJson? (value : Json) : Option PanicValue :=
  if value.isWord "panic_static" then some (.text "static panic text")
  else if value.isWord "panic_any" then some .wordless
  else (value.textAt? "panic").map text

/-- The strategy for naming queues that a JSON value describes: by its application, by its
application and queue, or by a table of tags. -/
def QueueNaming.ofJson? (value : Json) : Option QueueNaming :=
  ((value.textAt? "per_type").map perType).orElse fun _ =>
  (((value.get "shared").pair? Json.text? Json.text?).map fun names =>
    shared names.1 names.2).orElse fun _ =>
  ((value.get "table").members?).map fun table =>
    custom fun tag => ((Json.record table).textAt? tag).getD "unnamed"

namespace Sample

variable {ε α : Type}

/-! ## Scripts -/

/-- How a step of a handler ends, if it does not go on: with a panic or with a failure. -/
def handlerFault? (step : Json) : Option (Outcome HandlerError α) :=
  ((PanicValue.ofJson? step).map Outcome.panicked).orElse fun _ =>
  (HandlerError.ofJson? step).map Outcome.error

/-- How a step of a check or consumer ends, if it does not go on: with a panic, also where the
failure of a handler would stand, or with a failure. -/
def dispatchFault? (step : Json) : Option (Outcome DispatchError α) :=
  ((PanicValue.ofJson? step).map Outcome.panicked).orElse fun _ =>
  ((PanicValue.ofJson? (step.get "handler")).map Outcome.panicked).orElse fun _ =>
  (DispatchError.ofJson? step).map Outcome.error

/-- How a step of a script ends, which succeeds if it names no fault. -/
def outcomeOf (fault? : Json → Option (Outcome ε Unit)) (step : Json) : Outcome ε Unit :=
  (fault? step).getD (.ok ())

/-- The steps of a script. -/
def stepsOf (value : Json) : List Json :=
  (value.get "script").elements

/-- A script of successes and failures. -/
def trialOf (fault? : Json → Option (Outcome ε Unit)) (value : Json) : Trial ε :=
  ⟨(stepsOf value).map (outcomeOf fault?), .ok ()⟩

/-- A step of a scripted query. -/
def queryStepOf? (answer : Answer) (step : Json) : Option (QueryStep answer) :=
  if step.isWord "none" then some (.ends (.ok none))
  else
    match (step.members?.getD []).find? fun entry => entry.1 = "value" with
    | some entry => (answer.ofJson? entry.2).map fun found => .ends (.ok (some found))
    | none => some (((handlerFault? step).map .ends).getD .looksUp)

/-- A step of a scripted authorizer. -/
def checkStepOf (step : Json) : CheckStep :=
  if step.isWord "member" then .asksMembership else .ends (outcomeOf dispatchFault? step)

/-! ## User code -/

/-- The name that user code is given. -/
def nameOf (value : Json) : String :=
  (value.textAt? "name").getD "h"

/-- What a handler asks for, by the name of its form; a plain one asks for nothing. -/
def needsOf (value : Json) : Dependencies :=
  match value.textAt? "kind" with
  | some "store" => ⟨true, false⟩
  | some "context" => ⟨false, true⟩
  | some "both" => ⟨true, true⟩
  | _ => ⟨false, false⟩

/-- A scripted command handler. -/
def commandHandlerOf (callee : Nat) (kind : Kind) (value : Json) :
    Handler Store kind.Value Unit :=
  commandHandler callee (nameOf value) (needsOf value) (trialOf handlerFault? value) kind

/-- A scripted event handler. -/
def eventHandlerOf (callee : Nat) (kind : Kind) (value : Json) : EventHandler kind.Value :=
  eventHandler callee (nameOf value) (needsOf value).context (trialOf handlerFault? value) kind

/-- A scripted query. -/
def queryOf? (callee : Nat) (kind : Kind) (answer : Answer) (value : Json) :
    Option (Handler Store kind.Value (Option (Result answer.Item))) := do
  let steps ← (stepsOf value).mapM (queryStepOf? answer)
  return query callee (nameOf value) (needsOf value) ⟨steps, .looksUp⟩ kind

/-- An authorizer: a standard policy by its name, or a scripted one. -/
def authorizerOf (callee : Nat) (value : Json) : Authorizer :=
  if value.isWord "everyone" then .everyone
  else if value.isWord "member" then .organisationMember
  else authorizer callee (nameOf value) ⟨(stepsOf value).map checkStepOf, .ends (.ok ())⟩

/-- A result filter: a standard policy by its name, or a scripted one. -/
def filterOf? (callee : Nat) (answer : Answer) (value : Json) :
    Option (ResultFilter answer.Item) :=
  if value.isWord "none" then some ResultFilter.none
  else if value.isWord "organisation" then answer.owner?.map ResultFilter.organisation
  else some (resultFilter callee (nameOf value) (trialOf dispatchFault? value))

/-- A scripted consumer of raw messages. -/
def messageConsumerOf (callee : Nat) (value : Json) : MessageConsumer :=
  messageConsumer callee (nameOf value) (trialOf dispatchFault? value)

/-! ## Contexts -/

/-- Change a context by what is given for a part of it, if anything is. -/
def changeBy (change : Context → α → Context) (given : Option α) (ctx : Context) : Context :=
  (given.map (change ctx)).getD ctx

/-- Take a step in the making of a context.  A step that names no part of it changes nothing, and
one that lists something else than organisations cannot be taken. -/
def contextStep? (ctx : Context) (step : Json) : Option Context := do
  let organisations ← (step.get "organisations").nullable? (Json.list? Json.uuid?)
  let ctx := changeBy Context.withCorrelation (step.textAt? "correlation_id") ctx
  let ctx := changeBy Context.withCaller (step.textAt? "caller") ctx
  let ctx := changeBy Context.withOrganisations organisations ctx
  let ctx := if (step.get "system").isTrue then ctx.asSystem else ctx
  return changeBy Context.withHandler (step.textAt? "handler") ctx

/-- The context from which the steps start: a new one, one of the system, or a blank one. -/
def contextBase (value : Json) (freshId : String) : Context :=
  match value.textAt? "base" with
  | some "new" => Context.fresh freshId
  | some "system" => Context.system freshId
  | _ => Context.blank

/-- The context that the steps make of a base. -/
def contextOf? (value : Json) (freshId : String) : Option Context :=
  (value.get "with").elements.foldlM contextStep? (contextBase value freshId)

end Sample
end Switchboard
