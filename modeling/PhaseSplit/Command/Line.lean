import PhaseSplit.Command.Options
import PhaseSplit.Files.Tree
import PhaseSplit.Phase.TimeUnit
import PhaseSplit.Settings
import PhaseSplit.Text.Integer

/-!
# The command line

A command line names one of three commands, each with its own options, after options for all of
them.  Values are checked in the order in which they stand; what is missing is found after that, and
what is left over last.

* `Invocation.ofArguments` — what a command line asks for, or why it asks for nothing;
* `Invocation` — a command and how much is said while it runs.
-/

namespace PhaseSplit

/-- What a split is asked to do. -/
structure SplitRequest where
  warmupDuration : Int
  timeUnit : Text
  path : Text
  removeInput : Bool
  showProgress : Bool
  summarize : Bool
  precision : Int
  skipInvalidFields : Bool
  deriving DecidableEq

/-- What a report is asked to do. -/
structure ReportRequest where
  paths : List Text
  output : Text
  deriving DecidableEq

/-- What a plot is asked to do. -/
structure PlotRequest where
  path : Text
  directory : Text
  deriving DecidableEq

/-- A command with its options. -/
inductive Command
  | split (r : SplitRequest)
  | report (r : ReportRequest)
  | plot (r : PlotRequest)
  deriving DecidableEq

/-- A command, if there is one, and whether debugging is on. -/
structure Invocation where
  verbose : Bool
  command : Option Command
  deriving DecidableEq

/-- The commands by name, and the program as a whole: each has its own page of help. -/
inductive CommandPage
  | program
  | split
  | report
  | plot
  deriving DecidableEq

/-- The words with which a command is called. -/
def CommandPage.title : CommandPage → Text
  | .program => Text.lit "jtl-splitter"
  | .split => Text.lit "jtl-splitter split"
  | .report => Text.lit "jtl-splitter report"
  | .plot => Text.lit "jtl-splitter plot"

/-- Why a command line asks for nothing: it asks for help, or it is refused. -/
inductive NoInvocation
  | help (page : CommandPage)
  | refused (page : CommandPage) (e : ArgumentFault)
  deriving DecidableEq

namespace Invocation

/-- The refusal of a value of an option. -/
def refuseValue {κ : Type} (page : CommandPage) (spec : OptionSpec κ) (e : ValueFault) :
    NoInvocation :=
  .refused page (.refusedValue spec.title e)

/-- An option by its names. -/
def optionSpec {κ : Type} (key : κ) (names : List String) (takesValue : Bool) : OptionSpec κ :=
  ⟨key, names.map Text.lit, takesValue⟩

/-- The titles of the options of a table with one of some keys. -/
def titlesOf {κ : Type} [DecidableEq κ] (table : OptionTable κ) (keys : List κ) : List Text :=
  (table.filter fun spec => keys.contains spec.key).map OptionSpec.title

/-! ## Splitting -/

/-- The options of a split. -/
inductive SplitOption
  | help
  | warmupTime
  | timeUnit
  | file
  | remove
  | progress
  | summarize
  | precision
  | skipInvalidFields
  deriving DecidableEq

/-- The table of the options of a split. -/
def splitOptions : OptionTable SplitOption :=
  [optionSpec .help ["-h", "--help"] false,
    optionSpec .warmupTime ["-t", "--warmup-time"] true,
    optionSpec .timeUnit ["-u", "--time-unit"] true,
    optionSpec .file ["-f", "--jtlfile"] true,
    optionSpec .remove ["-d", "--delete-jtl-file-on-exit"] false,
    optionSpec .progress ["-p", "--progress"] false,
    optionSpec .summarize ["-s", "--summarize"] false,
    optionSpec .precision ["-n", "--precision"] true,
    optionSpec .skipInvalidFields ["--skip-invalid-fields"] false]

/-- A split as far as its options have been read. -/
structure SplitDraft where
  warmupDuration : Option Int
  path : Option Text
  timeUnit : Text
  precision : Int
  removeInput : Bool
  showProgress : Bool
  summarize : Bool
  skipInvalidFields : Bool

/-- A split before any option has been read. -/
def SplitDraft.start (settings : Settings) : SplitDraft :=
  ⟨none, none, settings.timeUnit, settings.precision, false, false, false, false⟩

/-- The length of a warmup, which is positive. -/
def readWarmup (t : Text) : Except ValueFault Int :=
  match readInteger t with
  | .error _ => .error (.notInteger t)
  | .ok n => if 0 < n then .ok n else .error (.warmupNotPositive t)

/-- A precision, which is not negative. -/
def readPrecision (t : Text) : Except ValueFault Int :=
  match readInteger t with
  | .error _ => .error (.notInteger t)
  | .ok n => if 0 ≤ n then .ok n else .error (.precisionNegative t)

/-- The name of a unit of time, in lower case. -/
def readTimeUnit (t : Text) : Except ValueFault Text :=
  let names := TimeUnit.all.map TimeUnit.name
  if names.contains t.lower then .ok t.lower else .error (.notAmong t.lower names)

/-- The path of a file. -/
def readFilePath (files : FileTree) (t : Text) : Except ValueFault Text :=
  match files.at? t with
  | none => .error (.fileMissing t)
  | some .directory => .error (.fileNotRegular t)
  | some (.file _) => .ok t

/-- A split after one more option. -/
def SplitDraft.take (files : FileTree) (d : SplitDraft) :
    OptionTable.Occurrence SplitOption → Except NoInvocation SplitDraft
  | .flag spec =>
    match spec.key with
    | .help => .error (.help .split)
    | .remove => .ok { d with removeInput := true }
    | .progress => .ok { d with showProgress := true }
    | .summarize => .ok { d with summarize := true }
    | .skipInvalidFields => .ok { d with skipInvalidFields := true }
    | _ => .ok d
  | .value spec t =>
    let read {α : Type} (value : Except ValueFault α) : Except NoInvocation α :=
      value.mapError (refuseValue .split spec)
    match spec.key with
    | .warmupTime => do return { d with warmupDuration := some (← read (readWarmup t)) }
    | .timeUnit => do return { d with timeUnit := ← read (readTimeUnit t) }
    | .file => do return { d with path := some (← read (readFilePath files t)) }
    | .precision => do return { d with precision := ← read (readPrecision t) }
    | _ => .ok d
  | .operands _ => .ok d

/-- The split that a draft asks for, if nothing is missing. -/
def SplitDraft.finish (d : SplitDraft) : Except NoInvocation SplitRequest :=
  match d.warmupDuration, d.path with
  | some warmupDuration, some path =>
    .ok { d with warmupDuration, path }
  | warmup, path =>
    let missing := (if warmup.isNone then [SplitOption.warmupTime] else [])
      ++ (if path.isNone then [SplitOption.file] else [])
    .error (.refused .split (.required (titlesOf splitOptions missing)))

/-- The split that arguments ask for, and the arguments left over. -/
def parseSplit (settings : Settings) (files : FileTree) (arguments : List Text) :
    Except NoInvocation (Command × List Text) := do
  let (draft, extras) ← splitOptions.parse .none (.refused .split) (SplitDraft.take files)
    (.start settings) arguments
  return (.split (← draft.finish), extras)

/-! ## Reporting -/

/-- The options of a report. -/
inductive ReportOption
  | help
  | output
  deriving DecidableEq

/-- The table of the options of a report. -/
def reportOptions : OptionTable ReportOption :=
  [optionSpec .help ["-h", "--help"] false, optionSpec .output ["-o", "--output"] true]

/-- The file that a report is written to if none is named. -/
def defaultReportFile : Text := Text.lit "summary.csv"

/-- A report after one more option, or its paths. -/
def takeReport (d : ReportRequest) :
    OptionTable.Occurrence ReportOption → Except NoInvocation ReportRequest
  | .flag spec =>
    match spec.key with
    | .help => .error (.help .report)
    | _ => .ok d
  | .value _ t => .ok { d with output := t }
  | .operands paths => .ok { d with paths }

/-- The report that arguments ask for, and the arguments left over. -/
def parseReport (arguments : List Text) : Except NoInvocation (Command × List Text) := do
  let (draft, extras) ← reportOptions.parse .atLeastOne (.refused .report) takeReport
    ⟨[], defaultReportFile⟩ arguments
  if draft.paths = [] then throw (.refused .report (.required [Text.lit "paths"]))
  return (.report draft, extras)

/-! ## Plotting -/

/-- The options of a plot. -/
inductive PlotOption
  | help
  | file
  | directory
  deriving DecidableEq

/-- The table of the options of a plot. -/
def plotOptions : OptionTable PlotOption :=
  [optionSpec .help ["-h", "--help"] false, optionSpec .file ["-f", "--jtlfile"] true,
    optionSpec .directory ["-o", "--output-dir"] true]

/-- The directory that plots are saved in if none is named. -/
def defaultPlotDirectory : Text := Text.lit "plots"

/-- A plot after one more option: its path, if it is known, and its directory. -/
def takePlot (d : Option Text × Text) :
    OptionTable.Occurrence PlotOption → Except NoInvocation (Option Text × Text)
  | .flag spec =>
    match spec.key with
    | .help => .error (.help .plot)
    | _ => .ok d
  | .value spec t =>
    match spec.key with
    | .file => .ok (some t, d.2)
    | .directory => .ok (d.1, t)
    | .help => .ok d
  | .operands _ => .ok d

/-- The plot that arguments ask for, and the arguments left over. -/
def parsePlot (arguments : List Text) : Except NoInvocation (Command × List Text) := do
  let (draft, extras) ← plotOptions.parse .none (.refused .plot) takePlot
    (none, defaultPlotDirectory) arguments
  match draft with
  | (some path, directory) => return (.plot ⟨path, directory⟩, extras)
  | (none, _) => throw (.refused .plot (.required (titlesOf plotOptions [.file])))

/-! ## The program -/

/-- The options of the program. -/
inductive ProgramOption
  | help
  | verbose
  deriving DecidableEq

/-- The table of the options of the program. -/
def programOptions : OptionTable ProgramOption :=
  [optionSpec .help ["-h", "--help"] false, optionSpec .verbose ["-v", "--verbose"] false]

/-- The names of the commands. -/
def commandNames : List Text := [Text.lit "split", Text.lit "report", Text.lit "plot"]

/-- The command that a name and the arguments after it ask for, and the arguments left over. -/
def parseCommand (settings : Settings) (files : FileTree) (name : Text) (arguments : List Text) :
    Except NoInvocation (Command × List Text) :=
  if name = Text.lit "split" then parseSplit settings files arguments
  else if name = Text.lit "report" then parseReport arguments
  else if name = Text.lit "plot" then parsePlot arguments
  else .error (.refused .program
    (.refusedValue (Text.lit "command") (.notAmong name commandNames)))

/-- An invocation after one more option or the command, with the arguments that the command leaves
over. -/
def take (settings : Settings) (files : FileTree) (d : Invocation × List Text) :
    OptionTable.Occurrence ProgramOption → Except NoInvocation (Invocation × List Text)
  | .flag spec =>
    match spec.key with
    | .help => .error (.help .program)
    | .verbose => .ok ({ d.1 with verbose := true }, d.2)
  | .value _ _ => .ok d
  | .operands [] => .ok d
  | .operands (name :: arguments) => do
    let (command, extras) ← parseCommand settings files name arguments
    return ({ d.1 with command := some command }, extras)

/-- What a command line asks for. -/
def ofArguments (settings : Settings) (files : FileTree) (arguments : List Text) :
    Except NoInvocation Invocation := do
  let ((invocation, after), before) ← programOptions.parse .word (.refused .program)
    (take settings files) (⟨false, none⟩, []) arguments
  match before ++ after with
  | [] => return invocation
  | extras => throw (.refused .program (.unrecognized extras))

end Invocation

end PhaseSplit
