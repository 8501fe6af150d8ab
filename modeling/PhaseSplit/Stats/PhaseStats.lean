import PhaseSplit.Sample.Basic
import PhaseSplit.Stats.Rate
import PhaseSplit.Stats.Summary

/-!
# Statistics of a phase

The running statistics of the samples of one phase.  Every elapsed time is kept, so percentiles
are exact.

* `Measured` — what one sample contributes;
* `PhaseStats.add` — the statistics after one more sample;
* `PhaseStats.summary` — the summary, every number rounded to the same precision.
-/

namespace PhaseSplit

/-- What one sample contributes to the statistics. -/
structure Measured where
  timestamp : Int
  elapsed : Int
  success : Bool
  received : Int
  sent : Int
  deriving DecidableEq

/-- What a sample contributes. -/
def Sample.measured (s : Sample) : Measured :=
  ⟨s.timestamp, s.elapsed, s.success, s.received, s.sent⟩

/-- The running statistics of a phase. -/
structure PhaseStats where
  precision : Int
  count : Nat
  errors : Nat
  elapsedSum : Int
  least : Option Int
  greatest : Option Int
  elapsedValues : Array Int
  received : Int
  sent : Int
  firstTimestamp : Option Int
  lastTimestamp : Option Int
  deriving DecidableEq

/-- The lesser of a number and one that may be missing. -/
def lesser (known : Option Int) (n : Int) : Int :=
  match known with
  | none => n
  | some m => if n < m then n else m

/-- The greater of a number and one that may be missing. -/
def greater (known : Option Int) (n : Int) : Int :=
  match known with
  | none => n
  | some m => if m < n then n else m

/-- Why a phase has no summary. -/
inductive SummaryFault
  | percentile (e : PercentileFault)
  | range (e : RangeFault)
  deriving DecidableEq

/-- The words for a missing summary. -/
def SummaryFault.message : SummaryFault → String
  | .percentile e => e.message
  | .range e => e.message

namespace PhaseStats

/-- The statistics of no samples. -/
def empty (precision : Int) : PhaseStats :=
  ⟨precision, 0, 0, 0, none, none, #[], 0, 0, none, none⟩

/-- The statistics after one more sample. -/
def add (s : PhaseStats) (m : Measured) : PhaseStats where
  precision := s.precision
  count := s.count + 1
  errors := if m.success then s.errors else s.errors + 1
  elapsedSum := s.elapsedSum + m.elapsed
  least := some (lesser s.least m.elapsed)
  greatest := some (greater s.greatest m.elapsed)
  elapsedValues := s.elapsedValues.push m.elapsed
  received := s.received + m.received
  sent := s.sent + m.sent
  firstTimestamp := some (lesser s.firstTimestamp m.timestamp)
  lastTimestamp := some (greater s.lastTimestamp m.timestamp)

/-- A fault of arithmetic as a reason for a missing summary. -/
def arithmetic {α : Type} (x : Except RangeFault α) : Except SummaryFault α := x.mapError .range

/-- The summary of at least one sample, between the extremes of elapsed time and timestamp. -/
def summaryWithin (s : PhaseStats) (least greatest first last : Int) :
    Except SummaryFault Summary := do
  let rounded (x : Binary64) : Except SummaryFault Quantity :=
    arithmetic (.binary <$> x.roundToPlaces s.precision)
  let seconds ← arithmetic (spanSeconds first last)
  let table ←
    (percentileValues s.elapsedValues.toList summaryPercentiles).mapError .percentile
  let errors ← arithmetic (Binary64.ofInt s.errors)
  let count ← arithmetic (Binary64.ofInt s.count)
  let errorPercentage ← rounded (((exactly 100).mul errors).div count)
  let average ← rounded (← arithmetic (Binary64.ofQuotient s.elapsedSum s.count))
  let percentiles ← table.mapM fun (p, x) => do return (p, ← rounded x)
  let throughput ← rounded (← arithmetic (requestRate s.count (.binary seconds)))
  let receivedRate ← rounded (← arithmetic (kilobyteRate s.received (.binary seconds)))
  let sentRate ← rounded (← arithmetic (kilobyteRate s.sent (.binary seconds)))
  return {
    count := .whole s.count
    errorCount := .whole s.errors
    errorPercentage, average
    least := .whole least
    greatest := .whole greatest
    percentiles, throughput, receivedRate, sentRate }

/-- The summary of the samples, all zeros if there are none. -/
def summary (s : PhaseStats) : Except SummaryFault Summary :=
  match s.least, s.greatest, s.firstTimestamp, s.lastTimestamp with
  | some least, some greatest, some first, some last => s.summaryWithin least greatest first last
  | _, _, _, _ => .ok .empty

/-- The description of the statistics. -/
def describe (s : PhaseStats) : Text :=
  Text.lit "PhaseStats(samples=" ++ Text.ofNat s.count ++ Text.lit ", errors="
    ++ Text.ofNat s.errors ++ Text.lit ")"

end PhaseStats

end PhaseSplit
