import PhaseSplit.Log
import PhaseSplit.Phase.Basic
import PhaseSplit.Stats.PhaseStats
import PhaseSplit.Text.Integer

/-!
# The accumulator

An accumulator keeps the statistics of both phases and summarizes them on demand.

* `Accumulator.create` — an accumulator for a precision;
* `Accumulator.add` — the accumulator after one more sample of a phase;
* `Accumulator.summarize`, `Accumulator.summarizeAll` — summaries, with what is said about them.
-/

namespace PhaseSplit

/-- Why there is no accumulator for a precision. -/
inductive PrecisionFault
  | negative (precision : Int)
  | tooLongToWrite
  deriving DecidableEq

/-- The words for a missing accumulator. -/
def PrecisionFault.message : PrecisionFault → Text
  | .negative precision => Text.lit "Precision must be non-negative: " ++ Text.ofInt precision
  | .tooLongToWrite => writingLimitText

/-- The statistics of both phases. -/
structure Accumulator where
  precision : Int
  stats : PerPhase PhaseStats

namespace Accumulator

/-- An accumulator without samples.  The precision must have a numeral. -/
def create (precision : Int) : Except PrecisionFault Accumulator :=
  if precision.natAbs < Nat.pow 10 maxDigits then
    if precision < 0 then .error (.negative precision)
    else .ok ⟨precision, .const (.empty precision)⟩
  else .error .tooLongToWrite

/-- What a new accumulator says. -/
def creationRecord (a : Accumulator) : LogRecord :=
  debug (Text.lit "Initialized StatAccumulator with precision " ++ Text.ofInt a.precision)

/-- The accumulator after one more sample of a phase. -/
def add (a : Accumulator) (phase : Phase) (m : Measured) : Accumulator :=
  { a with stats := a.stats.modify phase (·.add m) }

/-- The number of samples of both phases. -/
def total (a : Accumulator) : Nat := a.stats.warmup.count + a.stats.measurement.count

/-- What is said about a phase without samples. -/
def emptyPhaseRecord (phase : Phase) : LogRecord :=
  warning (Text.lit "No samples in " ++ phase.name
    ++ Text.lit " phase, summary will be all zeros")

/-- The summary of a phase, with what is said about it. -/
def summarize (a : Accumulator) (phase : Phase) : Log × Except SummaryFault Summary :=
  let stats := a.stats.get phase
  (if stats.count = 0 then [emptyPhaseRecord phase] else [], stats.summary)

/-- The summaries of both phases, with what is said about them; a fault ends it. -/
def summarizeAll (a : Accumulator) : Log × Except SummaryFault (PerPhase Summary) :=
  match a.summarize .warmup with
  | (log, .error e) => (log, .error e)
  | (log, .ok warmup) =>
    match a.summarize .measurement with
    | (log', .error e) => (log ++ log', .error e)
    | (log', .ok measurement) => (log ++ log', .ok ⟨warmup, measurement⟩)

end Accumulator

end PhaseSplit
