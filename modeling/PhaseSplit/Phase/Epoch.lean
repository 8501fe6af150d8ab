import PhaseSplit.Phase.Basic

/-!
# The epoch

The epoch is the least timestamp seen so far.  A sample is in the warmup if it lies at most the
length of the warmup after the epoch, the sample's own timestamp taken into account first; a
decision is never revised when the epoch moves.

* `Epoch.observe` — the epoch after one more timestamp;
* `Epoch.classify` — the phase of a sample and the epoch after it.
-/

namespace PhaseSplit

/-- The least timestamp seen, if any was seen. -/
abbrev Epoch := Option Int

namespace Epoch

/-- The epoch after one more timestamp. -/
def observe (e : Epoch) (timestamp : Int) : Int :=
  match e with
  | none => timestamp
  | some least => if timestamp < least then timestamp else least

/-- The phase of a sample `warmupMillis` after an epoch. -/
def phaseAt (epoch timestamp warmupMillis : Int) : Phase :=
  if timestamp - epoch ≤ warmupMillis then .warmup else .measurement

/-- The phase of a sample, and the epoch after it. -/
def classify (e : Epoch) (timestamp warmupMillis : Int) : Phase × Int :=
  let epoch := e.observe timestamp
  (phaseAt epoch timestamp warmupMillis, epoch)

/-- The text of an epoch. -/
def text : Epoch → Text
  | none => Text.lit "inf"
  | some least => Text.ofInt least

/-- The description of an epoch. -/
def describe (e : Epoch) : Text := Text.lit "EpochState(epoch=" ++ e.text ++ Text.lit ")"

theorem observe_eq_min (least timestamp : Int) :
    observe (some least) timestamp = min least timestamp := by
  simp only [observe]; omega

end Epoch

end PhaseSplit
