import PhaseSplit.Session
import PhaseSplit.Split.OutputPaths
import PhaseSplit.Split.Stream
import PhaseSplit.Text.Utf8

/-!
# Splitting a file

A result file is split into files next to it.  The input is opened before the outputs, both outputs
are emptied before the first line is read, summaries are written after the last line, and the input
is removed only after everything has been written.

* `splitFile` — the split of a file, as work in a session;
* `FileSplitResult` — its result.
-/

namespace PhaseSplit

/-- Why the split of a file fails. -/
inductive FileSplitFault
  | file (e : FileFault)
  | split (e : SplitFault)
  | range (e : RangeFault)
  | interrupted
  | endlessDuration
  | noDuration
  deriving DecidableEq

/-- The words for the failed split of a file. -/
def FileSplitFault.message : FileSplitFault → Text
  | .file e => e.message
  | .split e => e.message
  | .range e => Text.lit e.message
  | .interrupted => []
  | .endlessDuration => Text.lit "cannot convert float infinity to integer"
  | .noDuration => Text.lit "cannot convert float NaN to integer"

/-- The result of the split of a file. -/
structure FileSplitResult where
  split : SplitResult
  paths : OutputPaths
  seconds : Binary64

/-! ## Records -/

/-- What is said about the paths of a split before it starts. -/
def openingRecords (config : SplitConfig) (path : Text) : Log :=
  let paths := OutputPaths.ofInput path
  let name (p : Text) : Text := Path.fileName p
  [info (Text.lit "Splitting " ++ name path ++ Text.lit " file into "
      ++ name paths.samples.warmup ++ Text.lit " and " ++ name paths.samples.measurement
      ++ Text.lit "."),
    info (Text.lit "Warmup Time: " ++ Text.ofInt config.warmupDuration ++ Text.lit " "
      ++ config.timeUnit)]
  ++ (if config.summarize then
      [info (Text.lit "Summarization is enabled. Summary statistics will be written to "
        ++ name paths.summaries.warmup ++ Text.lit " and " ++ name paths.summaries.measurement
        ++ Text.lit ".")]
    else [])
  ++ (if config.showProgress then [info (Text.lit "Started splitting...")] else [])

/-- What is said about a summary file. -/
def summaryWrittenRecord (s : Summary) (path : Text) : LogRecord :=
  debug (Text.lit "Wrote summary with " ++ s.count.text ++ Text.lit " samples to " ++ path)

/-- What is said about an input that has been removed. -/
def removedRecord (path : Text) : LogRecord :=
  info (Text.lit "Deleted " ++ Path.fileName path)

/-- What is said about the time a split took. -/
def doneRecord (seconds : Int) : LogRecord :=
  info (Text.lit "Done in " ++ Text.ofInt (seconds / 60) ++ Text.lit " min, "
    ++ Text.ofInt (seconds % 60) ++ Text.lit " sec.")

/-! ## The split -/

/-- The lines of a file of these bytes. -/
def linesOf (content : List UInt8) : List Text := (Text.decode content).lines

/-- What the split of a file of these bytes leaves. -/
def splitContent (config : SplitConfig) (content : List UInt8) : SplitOutcome :=
  splitLines config (linesOf content)

/-- A summary written to a file. -/
def writeSummary (s : Summary) (path : Text) : Session FileSplitFault Unit := do
  let text ← Session.ofExcept .range (s.fileText (some summaryIndent))
  Session.writeFile .file path text.encode
  Session.say (summaryWrittenRecord s path)

/-- The whole seconds of a time. -/
def wholeSeconds (x : Binary64) : Except FileSplitFault Int :=
  match x.truncate? with
  | some n => .ok n
  | none => .error (if x = .nan then .noDuration else .endlessDuration)

/-- The lines of an input split into its outputs; the outputs keep what was written when the split
ends without a result. -/
def splitInto (config : SplitConfig) (paths : OutputPaths) (content : List UInt8) :
    Session FileSplitFault SplitResult := do
  Session.writeFile .file paths.samples.warmup []
  Session.writeFile .file paths.samples.measurement []
  let outcome := splitContent config content
  Session.sayAll outcome.log
  Session.announce outcome.progress
  Session.writeFile .file paths.samples.warmup (outcome.sheets.text .warmup).encode
  Session.writeFile .file paths.samples.measurement (outcome.sheets.text .measurement).encode
  Session.ofExcept .split outcome.result

/-- The summaries written to their files, where there are summaries. -/
def writeSummaries (paths : OutputPaths) : Option (PerPhase Summary) → Session FileSplitFault Unit
  | some summaries => do
    writeSummary summaries.warmup paths.summaries.warmup
    writeSummary summaries.measurement paths.summaries.measurement
  | none => pure ()

/-- The input removed, where that is asked for. -/
def discardInput (path : Text) : (removeInput : Bool) → Session FileSplitFault Unit
  | true => do
    Session.removeFile .file path
    Session.say (removedRecord path)
  | false => pure ()

/-- The time since the start of a split, said in whole seconds. -/
def reportTime (start : Binary64) : Session FileSplitFault Binary64 := do
  let stop ← Session.readClock .interrupted
  let seconds := stop.sub start
  let whole ← Session.ofExcept id (wholeSeconds seconds)
  Session.say (doneRecord whole)
  return seconds

/-- The split of a file. -/
def splitFile (config : SplitConfig) (path : Text) (removeInput : Bool) :
    Session FileSplitFault FileSplitResult := do
  let start ← Session.readClock .interrupted
  let paths := OutputPaths.ofInput path
  Session.sayAll (openingRecords config path)
  let content ← Session.readFile .file path
  let result ← splitInto config paths content
  writeSummaries paths result.summaries
  discardInput path removeInput
  let seconds ← reportTime start
  return ⟨result, paths, seconds⟩

end PhaseSplit
