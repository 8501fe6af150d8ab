import PhaseSplit.Csv.Column
import PhaseSplit.Csv.Reader
import PhaseSplit.Session
import PhaseSplit.Split.OutputPaths
import PhaseSplit.Text.Utf8

/-!
# Samples of a split

The samples in the two outputs of a split, as far as a chart needs them: the time and the latency
of each, and its phase.  An output that is not there is passed over with a warning.

* `loadSamples` — the samples of the split of a file, if there are any;
* `ChartSamples` — the samples, warmup first.
-/

namespace PhaseSplit

/-- The samples of a chart, by row. -/
structure ChartSamples where
  times : Csv.Column
  latencies : Csv.Column
  phases : List Phase
  deriving DecidableEq

/-- Why charts cannot be made. -/
inductive ChartFault
  | file (e : FileFault)
  | directories
  | archive (e : ArchiveFault)
  | encoding (e : Text.Fault)
  | openQuote (line : Nat)
  | noColumns
  | tooFewColumns
  | range (e : RangeFault)
  | incomparable (left right : String)
  | noDifference (left right : String)
  | noFlagDifference
  | noPlace (kind : String)
  | noNumber (text : Text) (position : Nat)
  | integerTooWide (position : Nat)
  | noBins (count : Nat)
  | library (e : LibraryFault)
  deriving DecidableEq

/-- An output that cannot be read. -/
def ChartFault.ofAccess : AccessFault → ChartFault
  | .file e => .file e
  | .archive e => .archive e
  | .library e => .library e

/-- The words for charts that cannot be made. -/
def ChartFault.message : ChartFault → Text
  | .file e => e.message
  | .directories => Text.lit "maximum recursion depth exceeded"
  | .archive e => e.message
  | .encoding e => e.message
  | .openQuote line =>
    Text.lit "Error tokenizing data. C error: EOF inside string starting at row "
      ++ Text.ofNat line
  | .noColumns => Text.lit "No columns to parse from file"
  | .tooFewColumns =>
    Text.lit "Usecols do not match columns, columns expected but not found: [0, 1]"
  | .range e => Text.lit e.message
  | .incomparable left right =>
    Text.lit "'<=' not supported between instances of '" ++ Text.lit left ++ Text.lit "' and '"
      ++ Text.lit right ++ Text.lit "'"
  | .noDifference left right =>
    Text.lit "unsupported operand type(s) for -: '" ++ Text.lit left ++ Text.lit "' and '"
      ++ Text.lit right ++ Text.lit "'"
  | .noFlagDifference =>
    Text.lit "numpy boolean subtract, the `-` operator, is not supported, "
      ++ Text.lit "use the bitwise_xor, the `^` operator, or the logical_xor function instead."
  | .noPlace kind =>
    Text.lit "'value' must be an instance of str or bytes, not a " ++ Text.lit kind
  | .noNumber text position =>
    Text.lit "Unable to parse string " ++ text.quoted ++ Text.lit " at position "
      ++ Text.ofNat position
  | .integerTooWide position =>
    Text.lit "Integer out of range. at position " ++ Text.ofNat position
  | .noBins count =>
    Text.lit "Too many bins for data range. Cannot create " ++ Text.ofNat count
      ++ Text.lit " finite-sized bins."
  | .library e => e.message

namespace ChartSamples

/-- The number of samples. -/
def count (s : ChartSamples) : Nat := s.phases.length

/-- Some samples after others. -/
def append (a b : ChartSamples) : ChartSamples :=
  ⟨a.times.append b.times, a.latencies.append b.latencies, a.phases ++ b.phases⟩

/-- The phases that occur, in the order of a run. -/
def phasesPresent (s : ChartSamples) : List Phase := Phase.all.filter s.phases.contains

/-- The number of rows that are read before the names of the columns are looked at. -/
def rowsAhead : Nat := 2

/-- The samples of a phase in the rows of an output.  The first row has the names of the columns,
and there must be two of them; all of them are read, but only the cells of the first two columns. -/
def ofRows (phase : Phase) (table : Csv.Rows) : Except ChartFault ChartSamples := do
  let refuseQuote : Except ChartFault Unit :=
    match table.openQuote with
    | some line => .error (.openQuote line)
    | none => .ok ()
  if table.complete.length < rowsAhead then refuseQuote
  match table.complete with
  | [] => throw .noColumns
  | header :: rows =>
    let _ ← (header.mapM Csv.readText).mapError ChartFault.encoding
    if header.length < 2 then throw .tooFewColumns
    refuseQuote
    let column (index : Nat) : Except ChartFault Csv.Column :=
      (Csv.Column.ofCells (rows.map (·.getD index []))).mapError ChartFault.encoding
    return ⟨← column 0, ← column 1, rows.map fun _ => phase⟩

/-- The samples of a phase in an output of these bytes. -/
def ofBytes (phase : Phase) (content : List UInt8) : Except ChartFault ChartSamples :=
  ofRows phase (Csv.read (Text.decode content))

end ChartSamples

/-- What is said about an output that is not there. -/
def outputMissingRecord (path : Text) : LogRecord :=
  warning (Text.lit "Split file not found: " ++ path)

/-- What is said about an output that has been read. -/
def samplesLoadedRecord (s : ChartSamples) (phase : Phase) (path : Text) : LogRecord :=
  info (Text.lit "Loaded " ++ Text.ofNat s.count ++ Text.lit " " ++ phase.name
    ++ Text.lit " samples from " ++ path)

/-- The samples of a phase in the output at a path, if it is there. -/
def loadOutput (phase : Phase) (path : Text) : Session ChartFault (Option ChartSamples) := do
  if (← get).files.pathExists path then
    let content ← Session.fetch .ofAccess path
    let samples ← Session.ofExcept id (ChartSamples.ofBytes phase content)
    Session.say (samplesLoadedRecord samples phase path)
    return some samples
  else
    Session.say (outputMissingRecord path)
    return none

/-- The samples of two outputs, of which each may be missing. -/
def ChartSamples.joined? : Option ChartSamples → Option ChartSamples → Option ChartSamples
  | some a, some b => some (a.append b)
  | some a, none => some a
  | none, b => b

/-- The samples of the split of a file, if there are any. -/
def loadSamples (path : Text) : Session ChartFault (Option ChartSamples) := do
  let outputs := (OutputPaths.ofInput path).samples
  let warmup ← loadOutput .warmup outputs.warmup
  let measurement ← loadOutput .measurement outputs.measurement
  return (ChartSamples.joined? warmup measurement).filter (·.count ≠ 0)

end PhaseSplit
