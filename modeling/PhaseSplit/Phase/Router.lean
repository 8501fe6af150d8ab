import PhaseSplit.Log
import PhaseSplit.Phase.Epoch
import PhaseSplit.Phase.TimeUnit
import PhaseSplit.Text.Integer

/-!
# The router

A router assigns samples to phases in the order of the input and counts its decisions.

* `Router.create` — a router for a length of warmup;
* `Router.route` — the phase of the next sample, and the router after it.
-/

namespace PhaseSplit

/-- Why there is no router for a length of warmup. -/
inductive RouterFault
  | unsupportedUnit (e : UnsupportedUnit)
  | warmupTooLongToWrite
  deriving DecidableEq

/-- The words for a missing router. -/
def RouterFault.message : RouterFault → Text
  | .unsupportedUnit e => e.message
  | .warmupTooLongToWrite => writingLimitText

/-- A router: the length of the warmup as given and in milliseconds, the epoch, and the numbers of
samples assigned to the phases. -/
structure Router where
  warmupDuration : Int
  timeUnit : Text
  warmupMillis : Int
  epoch : Epoch
  routed : PerPhase Nat

namespace Router

/-- A router that has seen no sample.  The length in milliseconds must have a numeral. -/
def create (duration : Int) (unit : Text) : Except RouterFault Router :=
  match durationMillis duration unit with
  | .error e => .error (.unsupportedUnit e)
  | .ok millis =>
    if millis.natAbs < Nat.pow 10 maxDigits then .ok ⟨duration, unit.lower, millis, none, .const 0⟩
    else .error .warmupTooLongToWrite

/-- What a new router says. -/
def creationRecord (r : Router) : LogRecord :=
  debug (Text.lit "Initialized PhaseRouter with " ++ Text.ofInt r.warmupMillis
    ++ Text.lit " ms warmup")

/-- The phase of the next sample, and the router after it. -/
def route (r : Router) (timestamp : Int) : Phase × Router :=
  let (phase, epoch) := r.epoch.classify timestamp r.warmupMillis
  (phase, { r with epoch := some epoch, routed := r.routed.modify phase (· + 1) })

/-- The description of a router. -/
def describe (r : Router) : Text :=
  Text.lit "PhaseRouter(warmup_ms=" ++ Text.ofInt r.warmupMillis ++ Text.lit ", epoch="
    ++ r.epoch.text ++ Text.lit ")"

end Router

end PhaseSplit
