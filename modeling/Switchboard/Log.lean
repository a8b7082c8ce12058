/-!
# Log entries

What the switchboard reports while it works.  An entry is written either by the caller's own
thread or by a background worker.
-/

namespace Switchboard

/-- How serious a log entry is. -/
inductive LogLevel where
  | debug
  | info
  | error
deriving DecidableEq

/-- The value of a field in a log entry. -/
inductive LogValue where
  | text (value : String)
  | number (value : Nat)
deriving DecidableEq

/-- A log entry. -/
structure LogEntry where
  /-- Whether a background worker wrote it. -/
  background : Bool
  level : LogLevel
  message : String
  fields : List (String × LogValue)
deriving DecidableEq

end Switchboard
