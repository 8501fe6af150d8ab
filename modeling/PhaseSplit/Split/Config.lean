import PhaseSplit.Log
import PhaseSplit.Sample.Columns
import PhaseSplit.Settings

/-!
# Configuration of a split

What the user chooses for one split.  A choice is checked once, and a `SplitConfig` carries the
result of the checks; whether the time unit exists is not among them.

* `SplitChoices.check` — a configuration, or the first reason against it.
-/

namespace PhaseSplit

/-- The choices for one split, before they are checked. -/
structure SplitChoices where
  warmupDuration : Int
  timeUnit : Text
  summarize : Bool
  precision : Int
  showProgress : Bool
  logProgress : Bool
  progressInterval : Int
  columnLimit : Int
  skipInvalidFields : Bool

/-- The choices of a user who names nothing but the length of the warmup. -/
def SplitChoices.default (settings : Settings) (warmupDuration : Int) : SplitChoices where
  warmupDuration
  timeUnit := settings.timeUnit
  summarize := false
  precision := settings.precision
  showProgress := false
  logProgress := false
  progressInterval := settings.progressInterval
  columnLimit := defaultColumnLimit
  skipInvalidFields := false

/-- Choices that have been checked. -/
structure SplitConfig extends SplitChoices where
  warmup_pos : 0 < warmupDuration
  precision_nonneg : 0 ≤ precision
  interval_pos : 0 < progressInterval

/-- Why choices make no configuration. -/
inductive ChoiceFault
  | warmupNotPositive (duration : Int)
  | precisionNegative (precision : Int)
  | intervalNotPositive (interval : Int)
  deriving DecidableEq

/-- The words for a refused choice. -/
def ChoiceFault.message : ChoiceFault → Text
  | .warmupNotPositive n => Text.lit "Warmup duration must be positive: " ++ Text.ofInt n
  | .precisionNegative n => Text.lit "Precision must be non-negative: " ++ Text.ofInt n
  | .intervalNotPositive n => Text.lit "Progress interval must be positive: " ++ Text.ofInt n

/-- The configuration of some choices, or the first reason against them. -/
def SplitChoices.check (c : SplitChoices) : Except ChoiceFault SplitConfig :=
  if warmup : 0 < c.warmupDuration then
    if precision : 0 ≤ c.precision then
      if interval : 0 < c.progressInterval then .ok ⟨c, warmup, precision, interval⟩
      else .error (.intervalNotPositive c.progressInterval)
    else .error (.precisionNegative c.precision)
  else .error (.warmupNotPositive c.warmupDuration)

/-- What is said when a split is set up. -/
def SplitConfig.setupRecord (c : SplitConfig) : LogRecord :=
  debug (Text.lit "Initialized JTLSplitter: " ++ Text.ofInt c.warmupDuration ++ Text.lit " "
    ++ c.timeUnit ++ Text.lit ", summarize="
    ++ if c.summarize then Text.lit "True" else Text.lit "False")

end PhaseSplit
