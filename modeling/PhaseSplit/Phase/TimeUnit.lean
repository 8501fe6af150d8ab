import PhaseSplit.Text.Lowercase

/-!
# Time units

The units in which the length of the warmup is given, and its length in whole milliseconds.

* `TimeUnit.ofText?` — the unit that a text names, in any case of letters;
* `TimeUnit.toMillis` — a duration in milliseconds, rounded down.
-/

namespace PhaseSplit

/-- A unit of time. -/
inductive TimeUnit
  | nanoseconds
  | microseconds
  | milliseconds
  | seconds
  | minutes
  | hours
  | days
  deriving DecidableEq

namespace TimeUnit

/-- The units, shortest first. -/
def all : List TimeUnit :=
  [nanoseconds, microseconds, milliseconds, seconds, minutes, hours, days]

/-- The name of a unit. -/
def name : TimeUnit → Text
  | nanoseconds => Text.lit "nanoseconds"
  | microseconds => Text.lit "microseconds"
  | milliseconds => Text.lit "milliseconds"
  | seconds => Text.lit "seconds"
  | minutes => Text.lit "minutes"
  | hours => Text.lit "hours"
  | days => Text.lit "days"

/-- The unit that a text names. -/
def ofText? (t : Text) : Option TimeUnit := all.find? (·.name = t.lower)

/-- A duration in whole milliseconds, rounded down. -/
def toMillis (duration : Int) : TimeUnit → Int
  | nanoseconds => duration / 1000000
  | microseconds => duration / 1000
  | milliseconds => duration
  | seconds => duration * 1000
  | minutes => duration * 60000
  | hours => duration * 3600000
  | days => duration * 86400000

end TimeUnit

/-- A text that names no unit of time. -/
structure UnsupportedUnit where
  text : Text
  deriving DecidableEq

/-- The words for a text that names no unit. -/
def UnsupportedUnit.message (e : UnsupportedUnit) : Text :=
  Text.lit "Unsupported time unit: " ++ e.text

/-- A duration in a named unit, in whole milliseconds. -/
def durationMillis (duration : Int) (unit : Text) : Except UnsupportedUnit Int :=
  match TimeUnit.ofText? unit with
  | some u => .ok (u.toMillis duration)
  | none => .error ⟨unit⟩

end PhaseSplit
