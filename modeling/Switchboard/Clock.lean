/-!
# The clock

Instants and durations in nanoseconds.  Instants end somewhere: a wait that would reach beyond the
last one never ends by itself.

Main results:

- Definition {lit}`Instant.after?`: the instant a duration later, if there is one.
- Theorem {lit}`Instant.after?_eq_some_iff`: when there is one, and which it is.
-/

namespace Switchboard

/-- A length of time, in nanoseconds. -/
abbrev Duration := Nat

/-- A point in time, in nanoseconds since the clock was started. -/
abbrev Instant := Nat

namespace Duration

/-- A number of milliseconds. -/
def ofMillis (n : Nat) : Duration :=
  n * 1000000

/-- A number of seconds. -/
def ofSeconds (n : Nat) : Duration :=
  n * 1000000000

/-- The whole milliseconds in a duration. -/
def toMillis (d : Duration) : Nat :=
  d / 1000000

/-- The longest duration that can be asked for. -/
def longest : Duration :=
  UInt64.size * 1000000000 - 1

/-- How far a wait that stands beside something else is ahead of it. -/
def headStart : Duration :=
  .ofMillis 8

end Duration

namespace Instant

/-- The last instant. -/
def last : Instant :=
  Nat.pow 2 63 * 1000000000 - 1

/-- The instant a duration later, unless it lies beyond the last one. -/
def after? (t : Instant) (d : Duration) : Option Instant :=
  if t + d ≤ last then some (t + d) else none

theorem after?_eq_some_iff {t u : Instant} {d : Duration} :
    after? t d = some u ↔ u = t + d ∧ t + d ≤ last := by
  unfold after?
  split
  · rename_i h
    simp only [Option.some.injEq]
    exact ⟨fun heq => ⟨heq.symm, h⟩, fun heq => heq.1.symm⟩
  · rename_i h
    simp [h]

/-- Whether a deadline has come; without one it never does. -/
def reached (deadline : Option Instant) (now : Instant) : Bool :=
  match deadline with
  | none => false
  | some t => t ≤ now

end Instant
end Switchboard
