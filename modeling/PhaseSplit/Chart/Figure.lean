import PhaseSplit.Number.Binary64
import PhaseSplit.Phase.Basic

/-!
# Figures

What is drawn of the samples of a run, without the drawing: a timeline of latencies and a histogram
of latencies.

* `Figure` — the figures, with the files they are saved to;
* `Figure.title`, `Figure.xLabel`, `Figure.yLabel`, `Figure.legend` — the texts in a figure.
-/

namespace PhaseSplit

/-- A point of a timeline: seconds since the first sample, and the latency. -/
abbrev TimelinePoint := Binary64 × Binary64

/-- A figure.  A timeline has the points of every phase in it, and the time at which the warmup
ends if there is one. -/
inductive Figure
  | timeline (file : Text) (points : List (Phase × List TimelinePoint)) (boundary : Option Binary64)
  | histogram (file : Text) (phases : List Phase)
  deriving DecidableEq

namespace Figure

/-- The file that a figure is saved to. -/
def file : Figure → Text
  | timeline file _ _ => file
  | histogram file _ => file

/-- The title of a figure. -/
def title : Figure → String
  | timeline .. => "Latency Timeline by Phase"
  | histogram .. => "Latency Distribution by Phase"

/-- The words under the horizontal axis. -/
def xLabel : Figure → String
  | timeline .. => "Time since first sample (s)"
  | histogram .. => "Elapsed (ms)"

/-- The words beside the vertical axis. -/
def yLabel : Figure → String
  | timeline .. => "Elapsed (ms)"
  | histogram .. => "Samples"

/-- The entries of the legend. -/
def legend : Figure → List Text
  | timeline _ points boundary =>
    points.map (·.1.name) ++ (if boundary.isSome then [Text.lit "warmup end"] else [])
  | histogram _ phases => phases.map Phase.name

end Figure

end PhaseSplit
