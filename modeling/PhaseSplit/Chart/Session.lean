import PhaseSplit.Chart.Histogram

/-!
# Making charts

The charts of the split of a file: a timeline and a histogram of latencies, saved in a directory
that is made if it is not there.  Without samples no chart is made.

* `plotSplit` — the charts of the split of a file, as work in a session; the result are the files.
-/

namespace PhaseSplit

/-- The name of the file of the timeline. -/
def timelineName : Text := Text.lit "latency_timeline.png"

/-- The name of the file of the histogram. -/
def histogramName : Text := Text.lit "latency_histogram.png"

/-- What is said where there are no samples for a chart. -/
def noDataRecord (chart : String) : LogRecord :=
  warning (Text.lit "No data available for latency " ++ Text.lit chart)

/-- What is said about a chart that has been saved. -/
def chartRecord (chart : String) (file : Text) : LogRecord :=
  info (Text.lit "Created latency " ++ Text.lit chart ++ Text.lit ": " ++ file)

/-- The timeline of some samples, saved in a directory. -/
def plotTimeline (samples : ChartSamples) (directory : Text) : Session ChartFault Text := do
  let file := Path.join directory timelineName
  let timeline ← Session.ofExcept id (Timeline.ofSamples samples)
  Session.saveFigure .file .library (.timeline file timeline.points timeline.boundary)
  Session.say (chartRecord "timeline" file)
  return file

/-- The histogram of some samples, saved in a directory. -/
def plotHistogram (samples : ChartSamples) (directory : Text) : Session ChartFault Text := do
  let file := Path.join directory histogramName
  Session.ofExcept id (Histogram.check samples.latencies)
  Session.saveFigure .file .library (.histogram file samples.phasesPresent)
  Session.say (chartRecord "histogram" file)
  return file

/-- The charts of some samples, if there are any, saved in a directory. -/
def plotSamples (samples : Option ChartSamples) (directory : Text) :
    Session ChartFault (List Text) := do
  match samples with
  | some samples =>
    let timeline ← plotTimeline samples directory
    let histogram ← plotHistogram samples directory
    return [timeline, histogram]
  | none =>
    Session.say (noDataRecord "timeline")
    Session.say (noDataRecord "histogram")
    return []

/-- The charts of the split of a file, saved in a directory. -/
def plotSplit (path directory : Text) : Session ChartFault (List Text) := do
  Session.makeDirectories .file .directories directory
  plotSamples (← loadSamples path) directory

end PhaseSplit
