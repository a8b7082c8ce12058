import Switchboard.Refusal
import Switchboard.Uuid

/-!
# Errors

What can go wrong in a dispatch, by cause, and how each cause is worded.  User code states some
causes itself; those carry their wording with them.

Main definitions:

- Definition {lit}`HandlerError`: failures that handlers report.
- Definition {lit}`TransportError`: failures of a queue transport or broadcast channel.
- Definition {lit}`DispatchError`: everything a registration or a dispatch can answer.
- Definition {lit}`DispatchError.message`: the wording of each.
-/

namespace Switchboard

/-! ## Handlers -/

/-- A failure of a command, query or event handler. -/
inductive HandlerError where
  /-- The handler turned the payload down. -/
  | rejected (reason : String)
  /-- What the payload refers to does not exist. -/
  | notFound (what : String)
  /-- The handler itself found no permission. -/
  | unauthorized (reason : String)
  /-- The handler panicked while it worked on a payload of this type. -/
  | panicked (payloadType : String) (text : String)
  /-- Any other failure. -/
  | other (text : String)
deriving DecidableEq

namespace HandlerError

/-- The wording of a handler's failure. -/
def message : HandlerError → String
  | rejected reason => "rejected: " ++ reason
  | notFound what => "not found: " ++ what
  | unauthorized reason => "unauthorized: " ++ reason
  | panicked payloadType text =>
    "handler for '" ++ payloadType ++ "' encountered a panic: " ++ text
  | other text => text

/-- Whether a failure came from a panic. -/
def isPanic : HandlerError → Bool
  | panicked _ _ => true
  | _ => false

end HandlerError

/-- One failed handler among those of an event. -/
structure HandlerFailure where
  /-- The place of the handler in the order of registration, from zero. -/
  index : Nat
  error : HandlerError
deriving DecidableEq

/-- All failures of one event dispatch. -/
structure AggregateError where
  eventType : String
  failures : List HandlerFailure
deriving DecidableEq

namespace AggregateError

/-- The wording of one failure among those of an event. -/
def failureMessage (eventType : String) (failure : HandlerFailure) : String :=
  "error in handler #" ++ Nat.repr failure.index ++ " for '" ++ eventType ++ "': "
    ++ failure.error.message

/-- The wordings of all failures, with commas between them. -/
def message (error : AggregateError) : String :=
  ",".intercalate (error.failures.map (failureMessage error.eventType))

end AggregateError

/-! ## Transports -/

/-- A failure of a queue transport or of a broadcast channel. -/
inductive TransportError where
  /-- It has been closed. -/
  | closed
  /-- A queue cannot be consumed. -/
  | subscribe (queue : String) (reason : String)
  /-- A queue does not take the message. -/
  | rejected (queue : String) (reason : String)
deriving DecidableEq

/-- The wording of a transport's failure. -/
def TransportError.message : TransportError → String
  | closed => "transport closed"
  | subscribe queue reason => "failed to subscribe to queue " ++ queue ++ ": " ++ reason
  | rejected queue reason => "message rejected by queue " ++ queue ++ ": " ++ reason

/-! ## Dispatches -/

/-- Why a registration, or a dispatch that contradicts one, is refused. -/
inductive RegistrationCause where
  /-- The command already has its handler. -/
  | commandTaken (tag : String)
  /-- The command's tag belongs to another payload type. -/
  | commandType (tag : String)
  /-- The event's tag belongs to another payload type. -/
  | eventType (tag : String)
  /-- The pair of criteria and result already has its query. -/
  | queryTaken (tag : String) (result : String)
  /-- The query under the criteria's tag takes another payload type. -/
  | criteriaType (tag : String)
  /-- The tag is routed to another payload type. -/
  | routedType (tag : String)
  /-- Refused by user code in its own words. -/
  | stated (text : String)
deriving DecidableEq

namespace RegistrationCause

/-- The wording for a tag that belongs to another payload type. -/
def otherType (subject tag : String) : String :=
  subject ++ " " ++ tag ++ " is registered for a different payload type"

/-- The wording of a refused registration. -/
def message : RegistrationCause → String
  | commandTaken tag =>
    "handler already registered for " ++ tag ++ " only one handler allowed per command"
  | commandType tag => otherType "command type" tag
  | eventType tag => otherType "event type" tag
  | queryTaken tag result =>
    "query already registered with criteria type: " ++ tag ++ " and result type: " ++ result
  | criteriaType tag => otherType "query criteria type" tag
  | routedType tag => otherType "type" tag
  | stated text => text

end RegistrationCause

/-- What a dispatch looks for in vain. -/
inductive LookupCause where
  /-- The command has no handler. -/
  | noCommandHandler (tag : String)
  /-- The event has no handler. -/
  | noEventHandler (tag : String)
  /-- No query takes the criteria. -/
  | noQuery (tag : String)
  /-- Queries take the criteria, but none gives the result. -/
  | noQueryReturning (tag : String) (result : String)
  /-- The context names no organisations. -/
  | noOrganisations
  /-- Missed by user code in its own words. -/
  | stated (text : String)
deriving DecidableEq

/-- The wording of a failed look-up. -/
def LookupCause.message : LookupCause → String
  | noCommandHandler tag => "no command handler registered of type: " ++ tag
  | noEventHandler tag => "no handler registered for type '" ++ tag ++ "'"
  | noQuery tag =>
    "no query found taking parameter of type " ++ tag
      ++ ", did you forget to register the query?"
  | noQueryReturning tag result =>
    "found queries accepting criteria " ++ tag ++ " but none returning result " ++ result
  | noOrganisations => "no acls found in context"
  | stated text => text

/-- Why a caller is turned away. -/
inductive PermissionCause where
  /-- The call names no organisation. -/
  | noOrganisation
  /-- The caller may not act on the organisation. -/
  | organisationDenied (organisation : Uuid)
  /-- The caller may not see the organisation's result. -/
  | resultDenied (organisation : Uuid)
  /-- Turned away by user code in its own words. -/
  | stated (text : String)
deriving DecidableEq

/-- The wording of a denied permission. -/
def PermissionCause.message : PermissionCause → String
  | noOrganisation => "no organisation id supplied"
  | organisationDenied organisation =>
    "user does not have access to organisation id: " ++ organisation.text
  | resultDenied organisation =>
    "user does not have access to result for organisation id: " ++ organisation.text
  | stated text => text

/-- Why a payload has no text, or a text no payload. -/
inductive SerializationCause where
  /-- The payload refuses to be written. -/
  | refused (refusal : Refusal)
  /-- The text is not one of the payload type's. -/
  | unreadable
deriving DecidableEq

/-- The wording of a failed conversion between payload and text. -/
def SerializationCause.message : SerializationCause → String
  | refused refusal => "payload serialization failed: " ++ refusal.message
  | unreadable => "payload serialization failed: unreadable text"

/-- Everything a registration or a dispatch can answer besides success. -/
inductive DispatchError where
  | registration (cause : RegistrationCause)
  | lookup (cause : LookupCause)
  | permission (cause : PermissionCause)
  | handler (error : HandlerError)
  | aggregate (error : AggregateError)
  | serialization (cause : SerializationCause)
  | transport (error : TransportError)
deriving DecidableEq

/-- The wording of a failed registration or dispatch. -/
def DispatchError.message : DispatchError → String
  | registration cause => cause.message
  | lookup cause => cause.message
  | permission cause => cause.message
  | handler error => error.message
  | aggregate error => error.message
  | serialization cause => cause.message
  | transport error => error.message

end Switchboard
