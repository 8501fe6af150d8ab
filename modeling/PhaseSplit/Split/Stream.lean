import PhaseSplit.Phase.Router
import PhaseSplit.Split.Config
import PhaseSplit.Split.Sheets
import PhaseSplit.Stats.Accumulator

/-!
# Splitting lines

One pass over the lines of a result file.  The first line is the header; every other line is
written to the output of its phase, or rejected: for too many columns, or, if the configuration
says so, for a faulty field.  A line that cannot be rejected ends the split and has no effect.

* `SplitState.step` — the state after one more line;
* `SplitState.run` — the state after the lines before the first that ends the split;
* `splitLines` — the outputs, the progress, the log and the result of a split.
-/

namespace PhaseSplit

/-- The state of a split between two lines. -/
structure SplitState where
  router : Router
  sheets : Sheets
  accumulator : Option Accumulator
  tooWide : Array Int
  invalid : Array Int
  processed : Nat
  progress : Array Nat
  log : Log

/-- Why a split ends without a result. -/
inductive SplitFault
  | router (e : RouterFault)
  | precision (e : PrecisionFault)
  | line (e : LineFault)
  | summary (e : SummaryFault)
  deriving DecidableEq

/-- The words for a split that ends without a result. -/
def SplitFault.message : SplitFault → Text
  | .router e => e.message
  | .precision e => e.message
  | .line e => e.message
  | .summary e => Text.lit e.message

/-- The result of a split. -/
structure SplitResult where
  rows : PerPhase Nat
  tooWide : List Int
  invalid : List Int
  epoch : Epoch
  summaries : Option (PerPhase Summary)

/-- All that a split leaves: outputs, progress and log as far as they got, and the result. -/
structure SplitOutcome where
  sheets : Sheets
  progress : List Nat
  log : Log
  result : Except SplitFault SplitResult

/-! ## Records -/

/-- What is said about an input without a line. -/
def emptyInputRecord : LogRecord := warning (Text.lit "Input is empty, no header to copy")

/-- What is said about a line that is rejected for a faulty field. -/
def invalidLineRecord (e : FieldFault) : LogRecord :=
  warning (Text.lit "Skipping line: " ++ e.message)

/-- What is said about a line that is rejected for too many columns. -/
def tooWideRecord (lineNumber : Int) (line : Text) : LogRecord :=
  warning (Text.lit "Line " ++ Text.ofInt lineNumber
    ++ Text.lit " has more columns than expected: " ++ line)

/-- What is said about progress. -/
def progressRecord (processed : Nat) : LogRecord :=
  info (Text.lit "Processed " ++ Text.ofNat processed ++ Text.lit " lines.")

/-- What is said at the end of a split. -/
def routedRecord (rows : PerPhase Nat) (rejected : Nat) : LogRecord :=
  info (Text.lit "Routed " ++ Text.ofNat rows.warmup ++ Text.lit " warmup and "
    ++ Text.ofNat rows.measurement ++ Text.lit " measurement samples, skipped "
    ++ Text.ofNat rejected ++ Text.lit " lines")

/-! ## One line -/

namespace SplitState

/-- Whether progress is due after a number of samples. -/
def progressDue (config : SplitConfig) (processed : Nat) : Bool :=
  config.showProgress && (processed : Int) % config.progressInterval == 0

/-- The state after progress has been reported, where it is due. -/
def report (config : SplitConfig) (s : SplitState) : SplitState :=
  if progressDue config s.processed then
    { s with
      progress := s.progress.push s.processed
      log := if config.logProgress then s.log ++ [progressRecord s.processed] else s.log }
  else s

/-- The state after a sample. -/
def accept (config : SplitConfig) (s : SplitState) (x : Sample) : SplitState :=
  let (phase, router) := s.router.route x.timestamp
  report config
    { s with
      router
      sheets := s.sheets.writeRow x.line phase
      accumulator := s.accumulator.map (·.add phase x.measured)
      processed := s.processed + 1 }

/-- The state after a line that is rejected for a faulty field. -/
def rejectInvalid (s : SplitState) (e : FieldFault) : SplitState :=
  { s with invalid := s.invalid.push e.lineNumber, log := s.log ++ [invalidLineRecord e] }

/-- The state after a line that is rejected for too many columns. -/
def rejectTooWide (s : SplitState) (lineNumber : Int) (line : Text) : SplitState :=
  { s with
    tooWide := s.tooWide.push lineNumber
    log := s.log ++ [tooWideRecord lineNumber line] }

/-- The state after one more line, or the fault that ends the split. -/
def step (config : SplitConfig) (s : SplitState) (lineNumber : Int) (line : Text) :
    Except LineFault SplitState :=
  match readLine config.columnLimit lineNumber line.stripTerminator with
  | .ok (.sample x) => .ok (s.accept config x)
  | .ok (.tooManyColumns n l) => .ok (s.rejectTooWide n l)
  | .error (.invalidField e) =>
    if config.skipInvalidFields then .ok (s.rejectInvalid e) else .error (.invalidField e)
  | .error (.tooManyDigits count) => .error (.tooManyDigits count)

/-- The state after the lines before the first that ends the split, with its fault. -/
def run (config : SplitConfig) : SplitState → (lineNumber : Int) → List Text →
    SplitState × Option LineFault
  | s, _, [] => (s, none)
  | s, n, line :: lines =>
    match s.step config n line with
    | .ok s' => run config s' (n + 1) lines
    | .error e => (s, some e)

/-! ## Start and end -/

/-- The state before the first line. -/
def start (config : SplitConfig) : Except (SplitFault × Log) SplitState :=
  match Router.create config.warmupDuration config.timeUnit with
  | .error e => .error (.router e, [])
  | .ok router =>
    let initial : SplitState :=
      ⟨router, .empty, none, #[], #[], 0, #[], [router.creationRecord]⟩
    if config.summarize then
      match Accumulator.create config.precision with
      | .error e => .error (.precision e, initial.log)
      | .ok a =>
        .ok { initial with accumulator := some a, log := initial.log ++ [a.creationRecord] }
    else .ok initial

/-- The state after the first line, if there is one. -/
def readHeader (s : SplitState) : List Text → SplitState
  | [] => { s with log := s.log ++ [emptyInputRecord] }
  | header :: _ => { s with sheets := s.sheets.writeHeader header.stripTerminator }

/-- The number of the line after the header. -/
def firstRow : Int := 2

/-- What a split leaves that has come to this state without a fault. -/
def finish (s : SplitState) : SplitOutcome :=
  let result (summaries : Option (PerPhase Summary)) : SplitResult :=
    ⟨s.sheets.rows, s.tooWide.toList, s.invalid.toList, s.router.epoch, summaries⟩
  let last := routedRecord s.sheets.rows (s.tooWide.size + s.invalid.size)
  match s.accumulator.map (·.summarizeAll) with
  | none => ⟨s.sheets, s.progress.toList, s.log ++ [last], .ok (result none)⟩
  | some (log, .ok summaries) =>
    ⟨s.sheets, s.progress.toList, s.log ++ log ++ [last], .ok (result (some summaries))⟩
  | some (log, .error e) => ⟨s.sheets, s.progress.toList, s.log ++ log, .error (.summary e)⟩

/-- What a split leaves that has come to this state and then to a fault. -/
def abort (s : SplitState) (e : LineFault) : SplitOutcome :=
  ⟨s.sheets, s.progress.toList, s.log, .error (.line e)⟩

end SplitState

/-- A split of the lines of a result file, with or without line ends. -/
def splitLines (config : SplitConfig) (lines : List Text) : SplitOutcome :=
  match SplitState.start config with
  | .error (e, log) => ⟨.empty, [], log, .error e⟩
  | .ok s =>
    match (s.readHeader lines).run config SplitState.firstRow lines.tail with
    | (s, none) => s.finish
    | (s, some e) => s.abort e

end PhaseSplit
