import PhaseSplit.Command.Layout
import PhaseSplit.Command.Line
import PhaseSplit.Host
import PhaseSplit.Text.Template

/-!
# Help

The page of help of every command.  What is said of an option is a template, and the unit of time in
the settings is part of one: so a percent sign in it starts a field, and a page may be impossible.

* `CommandPage.usage` — the usage of a command;
* `CommandPage.page` — the page of help of a command;
* `CommandPage.help` — the text of a page, if the terminal shows it;
* `refusalText` — what is said about a command line that is refused.
-/

namespace PhaseSplit

/-! ## Options -/

/-- How an option is written: the name of its value, if it takes one, and whether it must be
given. -/
structure OptionForm where
  value : Option Text
  isRequired : Bool

namespace OptionForm

/-- An option without a value. -/
def flag : OptionForm := ⟨none, false⟩

/-- An option with a value. -/
def optional (value : String) : OptionForm := ⟨some (Text.lit value), false⟩

/-- An option that must be given, with a value. -/
def required (value : String) : OptionForm := ⟨some (Text.lit value), true⟩

/-- The parts of a usage for an option of this form and name. -/
def usageParts (form : OptionForm) (name : Text) : List Text :=
  match form.value with
  | none => [Text.lit "[" ++ name ++ Text.lit "]"]
  | some value =>
    if form.isRequired then [name, value]
    else [Text.lit "[" ++ spaced [name, value] ++ Text.lit "]"]

/-- An option of this form as its entry shows it, by all of its names. -/
def title (form : OptionForm) (names : List Text) : Text :=
  Text.join (Text.lit ", ") (names.map fun name => spaced (name :: form.value.toList))

end OptionForm

namespace OptionTable

variable {κ : Type}

/-- The parts of a usage for the options of a table. -/
def usageParts (table : OptionTable κ) (form : κ → OptionForm) : List Text :=
  table.flatMap fun spec => (form spec.key).usageParts (spec.names.headD [])

/-- The section of the options of a table. -/
def helpSection (table : OptionTable κ) (form : κ → OptionForm)
    (words : κ → Except Template.Fault Text) : Except Template.Fault HelpSection := do
  let entries ← table.mapM fun spec => do
    return ⟨HelpPage.entryIndent, (form spec.key).title spec.names, ← words spec.key⟩
  return ⟨"options", entries⟩

end OptionTable

/-! ## Pages -/

/-- Why a page of help is not shown: it cannot be made, or the output refuses it. -/
inductive PageFault
  | template (e : Template.Fault)
  | output (words : Text)
  deriving DecidableEq

/-- The words for a page that is not shown. -/
def PageFault.message : PageFault → Text
  | .template e => e.message
  | .output words => words

namespace CommandPage

open Invocation

/-- What is said of the option that asks for help. -/
def helpWords : Text := Text.lit "show this help message and exit"

/-- The options of the program. -/
def programForm : ProgramOption → OptionForm
  | .help | .verbose => .flag

/-- What is said of the options of the program. -/
def programWords : ProgramOption → Text
  | .help => helpWords
  | .verbose => Text.lit "Enable debug logging"

/-- The names of the units of time. -/
def unitNames : List Text := TimeUnit.all.map TimeUnit.name

/-- The options of a split. -/
def splitForm : SplitOption → OptionForm
  | .warmupTime => .required "WARMUP_TIME"
  | .timeUnit =>
    ⟨some (Text.lit "\x7b" ++ Text.join (Text.lit ",") unitNames ++ Text.lit "\x7d"), false⟩
  | .file => .required "JTLFILE"
  | .precision => .optional "PRECISION"
  | .help | .remove | .progress | .summarize | .skipInvalidFields => .flag

/-- The template for the unit of time. -/
def unitTemplate (settings : Settings) : Text :=
  Text.lit "Time Unit (default: " ++ settings.timeUnit ++ Text.lit ")"

/-- The values that the fields of the template for the unit of time may show: all that is kept of
the option. -/
def unitValues (settings : Settings) (address : Text) : List (Text × Template.Value) :=
  [(Text.lit "option_strings", .ofTexts [Text.lit "-u", Text.lit "--time-unit"]),
    (Text.lit "dest", .ofText (Text.lit "time_unit")),
    (Text.lit "nargs", .nothing),
    (Text.lit "const", .nothing),
    (Text.lit "default", .ofText settings.timeUnit),
    (Text.lit "type", .ofText (Text.lit "lower")),
    (Text.lit "choices", .ofText (Text.join (Text.lit ", ") unitNames)),
    (Text.lit "required", .ofFlag false),
    (Text.lit "help", .ofText (unitTemplate settings)),
    (Text.lit "metavar", .nothing),
    (Text.lit "container", .ofObject "argparse" "_ArgumentGroup" address),
    (Text.lit "prog", .ofText CommandPage.split.title)]

/-- What is said of the options of a split.  No template but that for the unit of time has a percent
sign. -/
def splitWords (settings : Settings) (address : Text) : SplitOption → Except Template.Fault Text
  | .help => .ok helpWords
  | .warmupTime => .ok (Text.lit "Warmup Time")
  | .timeUnit => Template.expand (unitValues settings address) (unitTemplate settings)
  | .file => .ok (Text.lit "JTL File")
  | .remove => .ok (Text.lit "Delete JTL File on exit")
  | .progress => .ok (Text.lit "Show progress")
  | .summarize => .ok (Text.lit "Summarize results")
  | .precision =>
    .ok (Text.lit "Precision to use in statistics (default: " ++ Text.ofInt settings.precision
      ++ Text.lit ")")
  | .skipInvalidFields =>
    .ok (Text.lit "Skip lines with malformed numeric or boolean fields instead of failing")

/-- The options of a report. -/
def reportForm : ReportOption → OptionForm
  | .help => .flag
  | .output => .optional "OUTPUT"

/-- What is said of the options of a report. -/
def reportWords : ReportOption → Text
  | .help => helpWords
  | .output => Text.lit "Output CSV file (default: " ++ defaultReportFile ++ Text.lit ")"

/-- The options of a plot. -/
def plotForm : PlotOption → OptionForm
  | .help => .flag
  | .file => .required "JTLFILE"
  | .directory => .optional "OUTPUT_DIR"

/-- What is said of the options of a plot. -/
def plotWords : PlotOption → Text
  | .help => helpWords
  | .file => Text.lit "JTL File the split files were created from"
  | .directory =>
    Text.lit "Output directory for generated plots (default: " ++ defaultPlotDirectory
      ++ Text.lit ")"

/-- The names of the commands, as one word. -/
def commandsWord : Text :=
  Text.lit "\x7b" ++ Text.join (Text.lit ",") commandNames ++ Text.lit "\x7d"

/-- The usage of a command. -/
def usage (page : CommandPage) : Usage :=
  match page with
  | program =>
    ⟨page.title, programOptions.usageParts programForm, [commandsWord, Text.lit "..."]⟩
  | split => ⟨page.title, splitOptions.usageParts splitForm, []⟩
  | report =>
    ⟨page.title, reportOptions.usageParts reportForm,
      [Text.lit "paths", Text.lit "[paths ...]"]⟩
  | plot => ⟨page.title, plotOptions.usageParts plotForm, []⟩

/-- The entries of the commands, below one for all of them. -/
def commandEntries : List HelpEntry :=
  let command (name words : String) : HelpEntry := ⟨4, Text.lit name, Text.lit words⟩
  [⟨HelpPage.entryIndent, commandsWord, Text.lit "Available commands"⟩,
    command "split" "Split a JTL file into warmup and measurement",
    command "report" "Collect summary JSON files into a CSV table",
    command "plot" "Plot latency per phase from split files"]

/-- The entry of the paths of a report. -/
def pathsEntry : HelpEntry :=
  ⟨HelpPage.entryIndent, Text.lit "paths",
    Text.lit "Summary JSON files or directories containing them"⟩

/-- What is said on the page of the program after its sections. -/
def examples : List Text :=
  ["Examples:",
    "  # Drop the first 5 minutes and summarize both phases",
    "  jtl-splitter split -f results.jtl -t 5 -s",
    "",
    "  # Warmup given in seconds, delete the original file afterwards",
    "  jtl-splitter split -f results.jtl -t 90 -u seconds -d",
    "",
    "  # Collect summaries of several runs into one CSV",
    "  jtl-splitter report results/ -o summary.csv",
    "",
    "  # Plot latency per phase from the split files of results.jtl",
    "  jtl-splitter plot -f results.jtl --output-dir plots",
    "            "].map Text.lit

/-- The page of help of a command. -/
def page (settings : Settings) (address : Text) (page : CommandPage) :
    Except Template.Fault HelpPage :=
  match page with
  | program => do
    let options ← programOptions.helpSection programForm (.ok ∘ programWords)
    return ⟨page.usage, [Text.lit "Split JTL results file into warmup and measurement"],
      [⟨"positional arguments", commandEntries⟩, options], examples⟩
  | split => do
    let options ← splitOptions.helpSection splitForm (splitWords settings address)
    return ⟨page.usage, [], [options], []⟩
  | report => do
    let options ← reportOptions.helpSection reportForm (.ok ∘ reportWords)
    return ⟨page.usage, [], [⟨"positional arguments", [pathsEntry]⟩, options], []⟩
  | plot => do
    let options ← plotOptions.helpSection plotForm (.ok ∘ plotWords)
    return ⟨page.usage, [], [options], []⟩

/-- The columns of a terminal that are left free on the right. -/
def margin : Nat := 2

/-- The text of the page of help of a command, if the terminal of a machine shows it. -/
def help (settings : Settings) (host : Host) (page : CommandPage) : Except PageFault Text := do
  let page ← (page.page settings host.address).mapError .template
  let text := textOfLines (page.lines (host.columns - margin))
  match host.outputFault text with
  | some words => throw (.output words)
  | none => return text

end CommandPage

/-- What is said about a command line that is refused: the usage and the reason. -/
def refusalText (columns : Nat) (page : CommandPage) (e : ArgumentFault) : Text :=
  textOfLines (page.usage.lines (columns - CommandPage.margin)) ++ page.title
    ++ Text.lit ": error: " ++ e.message ++ Text.lit "\n"

end PhaseSplit
