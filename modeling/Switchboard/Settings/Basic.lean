import Switchboard.Naming
import Switchboard.Queue.Broker
import Switchboard.Settings.Source
import Switchboard.Text.Quoted

/-!
# Settings

The settings of a switchboard: the name of the application, how queues are named, and the times of
its queue transport.  They are read from a configuration, with defaults for all but the name.

Main definitions:

- Definition {lit}`Settings.ofConfiguration`: the settings in a configuration.
- Definition {lit}`Settings.load`: the settings in environment variables.
- Definition {lit}`Settings.queueNaming`: the naming strategy that they ask for.
-/

namespace Switchboard

/-- Whether each payload type has a queue of its own. -/
inductive NamingKind where
  | perType
  | shared
deriving DecidableEq

/-- The settings of a switchboard. -/
structure Settings where
  applicationName : String
  namingKind : NamingKind
  /-- The name of a shared queue. -/
  queueName : Option String
  visibilityTimeoutMillis : UInt64
  waitTimeMillis : UInt64
deriving DecidableEq

/-- Why a configuration has no settings. -/
inductive SettingsError where
  /-- A setting that has no default is missing. -/
  | missing (field : String)
  /-- A shared queue has no name. -/
  | queueNameRequired
  /-- There is no naming of that name. -/
  | unknownNaming (name : String)
  /-- The naming is neither a name nor a table with one. -/
  | namingShape
  /-- What should be the naming settings is something else. -/
  | namingSettings (found : String)
  /-- A value of the wrong type, under its key. -/
  | wrongType (key : String)
  /-- The document is no JSON object. -/
  | document
  /-- A value is to be laid over the document under a key that is no path. -/
  | pathShape (key : String)
deriving DecidableEq

/-- The wording of a failure that is not about the type of a single value. -/
def SettingsError.message? : SettingsError → Option String
  | missing field => some ("missing field \x60" ++ field ++ "\x60")
  | queueNameRequired =>
    some "naming.queue_name is required for the shared naming strategy"
  | unknownNaming name =>
    some ("enum NamingKind does not have variant constructor " ++ name)
  | namingShape =>
    some ("value of enum NamingKind should be represented by either string or table "
      ++ "with exactly one key")
  | namingSettings found => some ("invalid type: " ++ found ++ ", expected struct NamingSettings")
  | wrongType _ => none
  | document => none
  | pathShape _ => none

namespace Settings

/-- The visibility timeout if none is set. -/
def defaultVisibilityMillis : UInt64 :=
  1800000

/-- The wait of a poll if none is set. -/
def defaultWaitMillis : UInt64 :=
  5000

/-! ## Reading -/

/-- The naming of a name, in letters of any case. -/
def namingOfName (name : String) : Except SettingsError NamingKind :=
  let lowered := Text.lowercase name
  if lowered = "per_type" then .ok .perType
  else if lowered = "shared" then .ok .shared
  else .error (.unknownNaming name)

/-- The naming that a value asks for, by its name or as the only key of a table. -/
def namingOf : ConfigValue → Except SettingsError NamingKind
  | .text name => namingOfName name
  | .table [(name, _)] => namingOfName name
  | _ => .error .namingShape

/-- A text under a key. -/
def textAt (key : String) (value : ConfigValue) : Except SettingsError String :=
  match value.text? with
  | some text => .ok text
  | none => .error (.wrongType key)

/-- A text under a key, which may be nothing. -/
def optionalTextAt (key : String) : ConfigValue → Except SettingsError (Option String)
  | .nothing => .ok none
  | value => (textAt key value).map some

/-- A natural number under a key. -/
def wordAt (key : String) (value : ConfigValue) : Except SettingsError UInt64 :=
  match value.word? with
  | some n => .ok n
  | none => .error (.wrongType key)

/-- Read a value if there is one, or take a default. -/
def orDefault {α : Type} (read : ConfigValue → Except SettingsError α) (default : α) :
    Option ConfigValue → Except SettingsError α
  | some value => read value
  | none => .ok default

/-- The naming settings in a value: a table, or a list of the two in order. -/
def namingSettings : ConfigValue → Except SettingsError (NamingKind × Option String)
  | .table entries => do
    let kind ← orDefault namingOf .perType (Dictionary.search "strategy" entries)
    let queue ← orDefault (optionalTextAt "naming.queue_name") none
      (Dictionary.search "queue_name" entries)
    return (kind, queue)
  | .list items => do
    let kind ← orDefault namingOf .perType items[0]?
    let queue ← orDefault (optionalTextAt "naming[1]") none items[1]?
    return (kind, queue)
  | .nothing => .error (.namingSettings "unit value")
  | .bool value =>
    .error (.namingSettings ("boolean \x60" ++ (if value then "true" else "false") ++ "\x60"))
  | .whole value => .error (.namingSettings ("integer \x60" ++ Int.repr value ++ "\x60"))
  | .real value =>
    .error (.namingSettings ("floating point \x60" ++ value.pointedText ++ "\x60"))
  | .text value => .error (.namingSettings ("string " ++ Text.quoted value))

/-- The settings in a configuration. -/
def ofConfiguration (configuration : ConfigValue) : Except SettingsError Settings := do
  let name ← orDefault (fun value => (textAt "application_name" value).map some) none
    (configuration.get? "application_name")
  let (kind, queue) ← orDefault namingSettings (.perType, none) (configuration.get? "naming")
  let visibility ← orDefault (wordAt "visibility_timeout_ms") defaultVisibilityMillis
    (configuration.get? "visibility_timeout_ms")
  let wait ← orDefault (wordAt "wait_time_ms") defaultWaitMillis
    (configuration.get? "wait_time_ms")
  match name with
  | none => .error (.missing "application_name")
  | some name =>
    if kind = .shared ∧ queue = none then .error .queueNameRequired
    else return ⟨name, kind, queue, visibility, wait⟩

/-- The settings in environment variables. -/
def load (environment : List (String × String)) : Except SettingsError Settings :=
  ofConfiguration (Configuration.ofEnvironment environment)

/-- A value with the path that its key spells. -/
def placed (entry : String × ConfigValue) :
    Except SettingsError (List PathStep × ConfigValue) :=
  match ConfigPath.parse? entry.1 with
  | some path => .ok (path, entry.2)
  | none => .error (.pathShape entry.1)

/-- The configuration in a document, if there is one. -/
def configurationOf : Option String → Except SettingsError ConfigValue
  | none => .ok Configuration.empty
  | some text =>
    match Configuration.ofDocument? text with
    | some configuration => .ok configuration
    | none => .error .document

/-- The settings in a document, if there is one, with single values laid over it. -/
def read (document : Option String) (overrides : List (String × ConfigValue)) :
    Except SettingsError Settings := do
  let above ← overrides.mapM placed
  ofConfiguration (Configuration.writeAll (← configurationOf document) above)

/-! ## Using -/

/-- The naming strategy that the settings ask for. -/
def queueNaming (s : Settings) : QueueNaming :=
  match s.namingKind, s.queueName with
  | .shared, some queue => .shared s.applicationName queue
  | _, _ => .perType s.applicationName

/-- How long a message that was handed out stays hidden. -/
def visibilityTimeout (s : Settings) : Duration :=
  .ofMillis s.visibilityTimeoutMillis.toNat

/-- How long a consumer waits in one poll. -/
def waitTime (s : Settings) : Duration :=
  .ofMillis s.waitTimeMillis.toNat

/-- A broker with the times of the settings. -/
def broker (s : Settings) : Broker :=
  .start s.visibilityTimeout s.waitTime

end Settings
end Switchboard
