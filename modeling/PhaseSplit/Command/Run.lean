import PhaseSplit.Chart.Session
import PhaseSplit.Command.Help
import PhaseSplit.Report.Session
import PhaseSplit.Split.File

/-!
# Running a command

A command runs as work in a session.  A fault that a user can mend is told in the log and ends the
program with status 1; any other fault leaves the program.

* `splitChosen` — the split of a file with some choices;
* `Command.work` — the work of a command;
* `CommandFault.telling` — how a fault is told, if the program tells it;
* `runProgram` — the program: the end it comes to, what it prints, and the world after it.
-/

namespace PhaseSplit

/-- Why a choice or a default is of no use: it is refused, or no page of help shows it. -/
inductive DefaultFault
  | refused (e : ChoiceFault)
  | page (e : PageFault)
  deriving DecidableEq

/-- The words for a useless choice or default. -/
def DefaultFault.message : DefaultFault → Text
  | .refused e => e.message
  | .page e => e.message

instance : Coe ChoiceFault DefaultFault := ⟨.refused⟩

/-- Why a command fails. -/
inductive CommandFault
  | choice (e : DefaultFault)
  | split (e : FileSplitFault)
  | report (e : ReportFault)
  | chart (e : ChartFault)
  | noPlots
  deriving DecidableEq

/-- The words for a failed command. -/
def CommandFault.message : CommandFault → Text
  | .choice e => e.message
  | .split e => e.message
  | .report e => e.message
  | .chart e => e.message
  | .noPlots => Text.lit "No plots were created"

/-! ## Splits -/

/-- Work with another kind of fault. -/
def Command.within {ε ε' α : Type} (wrap : ε → ε') (work : Session ε α) : Session ε' α :=
  ExceptT.adapt wrap work

/-- What is said when a split is set up; a warmup whose length has no numeral ends it here. -/
def sayChoices (config : SplitConfig) : Session CommandFault Unit :=
  if config.warmupDuration.natAbs < Nat.pow 10 maxDigits then Session.say config.setupRecord
  else throw (.split (.split (.router .warmupTooLongToWrite)))

/-- The split of a file with some choices. -/
def splitChosen (choices : SplitChoices) (path : Text) (removeInput : Bool) :
    Session CommandFault FileSplitResult := do
  let config ← Session.ofExcept (fun e => .choice (.refused e)) choices.check
  sayChoices config
  Command.within .split (splitFile config path removeInput)

/-! ## Work -/

namespace Command

/-- The name of a command. -/
def name : Command → Text
  | split _ => Text.lit "split"
  | report _ => Text.lit "report"
  | plot _ => Text.lit "plot"

/-- The choices that a request for a split makes. -/
def splitChoices (settings : Settings) (r : SplitRequest) : SplitChoices :=
  { SplitChoices.default settings r.warmupDuration with
    timeUnit := r.timeUnit
    summarize := r.summarize
    precision := r.precision
    showProgress := r.showProgress
    logProgress := true
    skipInvalidFields := r.skipInvalidFields }

/-- The work of a split. -/
def splitWork (settings : Settings) (r : SplitRequest) : Session CommandFault Unit := do
  let _ ← splitChosen (splitChoices settings r) r.path r.removeInput

/-- The work of a report. -/
def reportWork (r : ReportRequest) : Session CommandFault Unit :=
  within .report do
    let table ← loadTable r.paths
    writeTable table r.output

/-- What is said about plots that have been saved. -/
def plotRecords (directory : Text) (plots : List Text) : Log :=
  info (Text.lit "Successfully created " ++ Text.ofNat plots.length ++ Text.lit " plots in "
    ++ directory)
  :: plots.map fun plot => info (Text.lit "  - " ++ plot)

/-- The work of a plot. -/
def plotWork (r : PlotRequest) : Session CommandFault Unit := do
  let plots ← within .chart (plotSplit r.path r.directory)
  if plots = [] then throw .noPlots
  Session.sayAll (plotRecords r.directory plots)

/-- The work of a command. -/
def work (settings : Settings) : Command → Session CommandFault Unit
  | split r => splitWork settings r
  | report r => reportWork r
  | plot r => plotWork r

end Command

/-! ## Faults -/

/-- How a fault is told. -/
inductive Telling
  | interruption
  | inPhase
  | ofFiles
  | alone
  deriving DecidableEq

/-- How a fault of the file tree is told: not at all where the path is no path. -/
def FileFault.telling (e : FileFault) : Option Telling :=
  match e.reason with
  | .nullCharacter | .unwritable _ => none
  | _ => some .ofFiles

/-- How a fault of an archive is told, if it is one of the system. -/
def ArchiveFault.telling : ArchiveFault → Option Telling
  | .noBzip2 => some .ofFiles
  | _ => none

/-- How a fault of a library is told, if it is one of the system. -/
def LibraryFault.telling (e : LibraryFault) : Option Telling :=
  if e.isOfSystem then some .ofFiles else none

/-- How a fault is told, if the program tells it. -/
def CommandFault.telling : CommandFault → Option Telling
  | .choice _ => none
  | .split .interrupted => some .interruption
  | .split (.split (.line (.invalidField _))) => some .inPhase
  | .split (.file e) => e.telling
  | .split _ => none
  | .report .noSummaries => some .inPhase
  | .report (.file e) => e.telling
  | .report (.archive e) => e.telling
  | .report (.unwritable (.library e)) => e.telling
  | .report _ => none
  | .chart (.file e) => e.telling
  | .chart (.archive e) => e.telling
  | .chart (.library e) => e.telling
  | .chart _ => none
  | .noPlots => some .alone

/-- What is said about a fault of a command. -/
def Telling.record (told : Telling) (command : Command) (e : CommandFault) : LogRecord :=
  match told with
  | .interruption => info (Text.lit "Operation interrupted by user")
  | .inPhase =>
    ⟨.error, Text.lit "Error in " ++ command.name ++ Text.lit " phase: " ++ e.message⟩
  | .ofFiles =>
    ⟨.error, Text.lit "I/O error in " ++ command.name ++ Text.lit " phase: " ++ e.message⟩
  | .alone => ⟨.error, e.message⟩

/-! ## The program -/

/-- The end of the program: a status, or a fault that leaves it. -/
inductive Ending
  | status (code : Nat)
  | fault (e : CommandFault)
  deriving DecidableEq

/-- What the program leaves: its end, what it has printed, the least severity of the records that
are shown, and the world. -/
structure ProgramOutcome where
  ending : Ending
  output : Text
  errorOutput : Text
  verbose : Bool
  world : World

/-- The records that are shown. -/
def ProgramOutcome.shownLog (o : ProgramOutcome) : Log :=
  if o.verbose then o.world.log else o.world.log.atLeastInfo

/-- A command run in a world: the end, and the world after it. -/
def Command.run (settings : Settings) (command : Command) (world : World) : Ending × World :=
  match (command.work settings).result world with
  | (.ok _, world) => (.status 0, world)
  | (.error e, world) =>
    match e.telling with
    | some told => (.status 1, { world with log := world.log ++ [told.record command e] })
    | none => (.fault e, world)

/-- The program after it has shown a page of help, with this status. -/
def showPage (settings : Settings) (page : CommandPage) (code : Nat) (verbose : Bool)
    (world : World) : ProgramOutcome :=
  match page.help settings world.host with
  | .ok text => ⟨.status code, text, [], verbose, world⟩
  | .error e => ⟨.fault (.choice (.page e)), [], [], verbose, world⟩

/-- The program run with some arguments in a world. -/
def runProgram (settings : Settings) (arguments : List Text) (world : World) : ProgramOutcome :=
  match Invocation.ofArguments settings world.files arguments with
  | .error (.help page) => showPage settings page 0 false world
  | .error (.refused page e) =>
    ⟨.status 2, [], refusalText world.host.columns page e, false, world⟩
  | .ok ⟨verbose, none⟩ => showPage settings .program 1 verbose world
  | .ok ⟨verbose, some command⟩ =>
    let (ending, world) := command.run settings world
    ⟨ending, [], [], verbose, world⟩

/-- A record as a line, with the time at which it was made. -/
def LogRecord.line (r : LogRecord) (time : Text) : Text :=
  time ++ Text.lit " - " ++ r.severity.name ++ Text.lit " - " ++ r.message ++ Text.lit "\n"

end PhaseSplit
