import PhaseSplit.Number.Quantity

/-!
# Durations and rates

* `spanSeconds` — the time between two timestamps in seconds, at least a millisecond;
* `requestRate` — samples per second;
* `kilobyteRate` — kilobytes per second.
-/

namespace PhaseSplit

/-- The least span between two timestamps, in milliseconds. -/
def leastSpan : Int := 1

/-- A small integer as a binary number. -/
def exactly (n : Nat) : Binary64 := Binary64.ofRatio false n 1

/-- The milliseconds of a second. -/
def millisPerSecond : Binary64 := exactly 1000

/-- The bytes of a kilobyte. -/
def bytesPerKilobyte : Binary64 := exactly 1024

/-- The seconds from the first to the last timestamp, at least the least span. -/
def spanSeconds (first last : Int) : Except RangeFault Binary64 := do
  let millis ← Binary64.ofInt (max leastSpan (last - first))
  return millis.div millisPerSecond

/-- Samples per second, zero if no time has passed. -/
def requestRate (count : Int) (seconds : Quantity) : Except RangeFault Binary64 :=
  if seconds.nonPositive then .ok .zero
  else
    match seconds with
    | .whole n => Binary64.ofQuotient count n
    | .binary x => do return (← Binary64.ofInt count).div x

/-- Kilobytes per second, zero if no time has passed. -/
def kilobyteRate (bytes : Int) (seconds : Quantity) : Except RangeFault Binary64 :=
  if seconds.nonPositive then .ok .zero
  else do
    let amount ← Binary64.ofInt bytes
    return (amount.div bytesPerKilobyte).div (← seconds.toBinary64)

end PhaseSplit
