import Switchboard.Context
import Switchboard.Error
import Switchboard.Handler
import Switchboard.Json.Value
import Switchboard.Log
import Switchboard.Queue.Broker

/-!
# Reports

The JSON values by which contexts, failures, log entries and statistics are reported.

Main definitions:

- Definition {lit}`DispatchError.toJson`: a failure with its kind, its wording and its details.
- Definition {lit}`LogEntry.toJson`: a log entry with its fields in increasing order.
-/

namespace Switchboard

/-! ## Contexts -/

/-- The JSON value of an identifier. -/
def Uuid.toJson (id : Uuid) : Json :=
  .str id.text

/-- The JSON value of a context. -/
def Context.toJson (ctx : Context) : Json :=
  .record [("caller_id", .optionalStr ctx.callerId),
    ("correlation_id", .optionalStr ctx.correlationId),
    ("handler", .optionalStr ctx.handlerName),
    ("organisations", .optional (fun ids => .array (ids.map Uuid.toJson)) ctx.organisations),
    ("system", .bool ctx.isSystem)]

/-! ## Failures -/

/-- The name of the kind of a handler's failure. -/
def HandlerError.kindName : HandlerError → String
  | rejected _ => "Rejected"
  | notFound _ => "NotFound"
  | unauthorized _ => "Unauthorized"
  | panicked _ _ => "Panicked"
  | other _ => "Other"

/-- The JSON value of a handler's failure. -/
def HandlerError.toJson (e : HandlerError) : Json :=
  .record [("is_panic", .bool e.isPanic), ("kind", .str e.kindName), ("message", .str e.message)]

/-- The JSON value of one failure among those of an event. -/
def HandlerFailure.toJson (failure : HandlerFailure) : Json :=
  .record [("error", failure.error.toJson), ("index", .nat failure.index)]

/-- The JSON value of all failures of an event. -/
def AggregateError.toJson (e : AggregateError) : Json :=
  .record [("event_type", .str e.eventType),
    ("failures", .array (e.failures.map HandlerFailure.toJson))]

/-- The name of the kind of a transport's failure. -/
def TransportError.kindName : TransportError → String
  | closed => "Closed"
  | subscribe _ _ => "Subscribe"
  | rejected _ _ => "Rejected"

/-- The JSON value of a transport's failure. -/
def TransportError.toJson (e : TransportError) : Json :=
  .record [("error", .str e.kindName), ("message", .str e.message)]

namespace DispatchError

/-- The name of the kind of a failure. -/
def kindName : DispatchError → String
  | registration _ => "Registration"
  | lookup _ => "Lookup"
  | permission _ => "Permission"
  | handler _ => "Handler"
  | aggregate _ => "Aggregate"
  | serialization _ => "Serialization"
  | transport _ => "Transport"

/-- What is reported of a failure besides its kind. -/
def details (e : DispatchError) : List (String × Json) :=
  match e with
  | serialization .unreadable => []
  | serialization (.refused ⟨_, some _⟩) => []
  | handler inner => [("message", .str e.message), ("handler", inner.toJson)]
  | aggregate inner => [("message", .str e.message), ("aggregate", inner.toJson)]
  | transport inner => [("message", .str e.message), ("kind", .str inner.kindName)]
  | _ => [("message", .str e.message)]

/-- The JSON value of a failure; of a text that cannot be read, and of a refusal that is about a
place, only the kind is told. -/
def toJson (e : DispatchError) : Json :=
  .record (("error", .str e.kindName) :: e.details)

/-- The JSON value of the result of a registration or dispatch. -/
def resultToJson : Except DispatchError Unit → Json
  | .ok () => .str "ok"
  | .error e => e.toJson

end DispatchError

/-- The JSON value of the result of a send or a subscription. -/
def TransportError.resultToJson : Except TransportError Unit → Json
  | .ok () => .str "ok"
  | .error e => e.toJson

/-! ## Log entries -/

/-- The name of a level. -/
def LogLevel.name : LogLevel → String
  | debug => "DEBUG"
  | info => "INFO"
  | error => "ERROR"

/-- The JSON value of a field. -/
def LogValue.toJson : LogValue → Json
  | text content => .str content
  | number n => .nat n

/-- The JSON value of a log entry. -/
def LogEntry.toJson (entry : LogEntry) : Json :=
  let fields := entry.fields.mergeSort fun a b => decide (a.1 ≤ b.1)
  .record [("fields", .record (fields.map fun field => (field.1, field.2.toJson))),
    ("level", .str entry.level.name), ("message", .str entry.message)]

/-! ## Dependencies, statistics and durations -/

/-- The JSON value of what a handler asks for. -/
def Dependencies.toJson (d : Dependencies) : Json :=
  .record [("context", .bool d.context), ("store", .bool d.store)]

/-- The JSON value of a duration in milliseconds, the longest one by name. -/
def Duration.toJson (d : Duration) : Json :=
  if d = Duration.longest then .str "max" else .nat d.toMillis

/-- The JSON value of what consumers have done.  How often they polled is told only when a poll
does not end by itself. -/
def ConsumerStats.toJson (stats : ConsumerStats) (waitTime : Duration) : Json :=
  let polls := if waitTime = Duration.longest then [("polls", Json.nat stats.polls)] else []
  .record (("failed", .nat stats.failed) :: ("handled", .nat stats.handled) :: polls)

end Switchboard
