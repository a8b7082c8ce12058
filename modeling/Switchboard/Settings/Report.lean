import Switchboard.Json.Value
import Switchboard.Settings.Basic

/-!
# Reports of settings

The JSON values by which settings, and the failure to read them, are reported.
-/

namespace Switchboard

/-- The name of a naming, as it is written in a configuration. -/
def NamingKind.name : NamingKind → String
  | perType => "per_type"
  | shared => "shared"

/-- What is reported of a failure to read settings: its kind, with the key of a value of the wrong
type or the wording of any other failure. -/
def SettingsError.details (e : SettingsError) : List (String × Json) :=
  match e, e.message? with
  | wrongType key, _ => [("kind", .str "Type"), ("key", .str key)]
  | _, some words => [("kind", .str "Message"), ("message", .str words)]
  | _, none => [("kind", .str "Source")]

/-- The JSON value of a failure to read settings. -/
def SettingsError.toJson (e : SettingsError) : Json :=
  .record (("error", .str "Config") :: e.details)

/-- The JSON value of settings, with the queues that they give to tags. -/
def Settings.toJson (s : Settings) (tags : List String) : Json :=
  let broker := s.broker
  .record [
    ("application_name", .str s.applicationName),
    ("names", .strs (tags.map s.queueNaming.queueName)),
    ("queue_name", .optionalStr s.queueName),
    ("queue_options", .record [
      ("visibility_timeout_ms", .nat broker.backlog.visibility.toMillis),
      ("wait_time_ms", .nat broker.waitTime.toMillis)]),
    ("strategy", .str s.namingKind.name),
    ("visibility_timeout_ms", .nat s.visibilityTimeoutMillis.toNat),
    ("wait_time_ms", .nat s.waitTimeMillis.toNat)]

end Switchboard
