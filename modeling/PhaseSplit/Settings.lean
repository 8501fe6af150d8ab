import PhaseSplit.Text.Integer
import PhaseSplit.Text.Lowercase

/-!
# Settings

Three defaults may be changed by the environment: the unit of the warmup, the precision of
statistics, and the number of lines between progress reports.

* `Settings.ofEnvironment` — the defaults under an environment.
-/

namespace PhaseSplit

/-- The defaults that the environment may change. -/
structure Settings where
  timeUnit : Text
  precision : Int
  progressInterval : Int

/-- The variables of an environment, by name. -/
abbrev Environment := List (Text × Text)

namespace Settings

/-- The variable of the unit of the warmup. -/
def timeUnitVariable : String := "JTL_SPLITTER_TIME_UNIT"

/-- The variable of the precision of statistics. -/
def precisionVariable : String := "JTL_SPLITTER_PRECISION"

/-- The variable of the number of lines between progress reports. -/
def progressIntervalVariable : String := "JTL_SPLITTER_PROGRESS_INTERVAL"

/-- The variables that change a default. -/
def variableNames : List String := [timeUnitVariable, precisionVariable, progressIntervalVariable]

/-- The value of a variable, if it is set. -/
def valueOf? (environment : Environment) (name : String) : Option Text :=
  (environment.find? (·.1 = Text.lit name)).map (·.2)

/-- The integer of a variable, or the default if it is not set. -/
def integer (environment : Environment) (name : String) (default : Int) :
    Except IntegerFault Int :=
  match valueOf? environment name with
  | none => .ok default
  | some t => readInteger t

/-- The defaults under an environment. -/
def ofEnvironment (environment : Environment) : Except IntegerFault Settings := do
  let timeUnit := (valueOf? environment timeUnitVariable).getD (Text.lit "minutes")
  let precision ← integer environment precisionVariable 2
  let progressInterval ← integer environment progressIntervalVariable 10000
  return ⟨timeUnit.lower, precision, progressInterval⟩

end Settings

end PhaseSplit
