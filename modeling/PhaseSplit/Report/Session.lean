import PhaseSplit.Json.Reader
import PhaseSplit.Report.Files
import PhaseSplit.Report.SummaryName
import PhaseSplit.Report.Table
import PhaseSplit.Session
import PhaseSplit.Text.Lines
import PhaseSplit.Text.Utf8

/-!
# Making a report

The summary files that some paths stand for are read into a table, and the table is written to a
file.  Files that are not named as summaries are passed over with a warning.

* `loadTable` — the table of the summary files that some paths stand for;
* `writeTable` — a table written to a file, in a directory that is made if it is not there; a row
  that holds anything but characters, or values too deep inside each other, is refused, with those
  before it written.
-/

namespace PhaseSplit

/-- Why a table cannot be written: its characters, its values, its directory, or the library that
writes it. -/
inductive WriteFault
  | characters (u : Text.Unwritable)
  | tooDeep
  | directories
  | library (e : LibraryFault)
  deriving DecidableEq

/-- The words for a table that cannot be written. -/
def WriteFault.message : WriteFault → Text
  | .characters u => u.message
  | .tooDeep =>
    Text.lit "maximum recursion depth exceeded while getting the repr of an object"
  | .directories => Text.lit "maximum recursion depth exceeded"
  | .library e => e.message

/-- Why a report fails. -/
inductive ReportFault
  | file (e : FileFault)
  | archive (e : ArchiveFault)
  | encoding (e : Text.Fault)
  | json (e : Json.ReadFault)
  | notObject (kind : String)
  | table (e : TableFault)
  | unwritable (e : WriteFault)
  | noSummaries
  deriving DecidableEq

/-- An output that cannot be written. -/
def ReportFault.ofAccess : AccessFault → ReportFault
  | .file e => .file e
  | .archive e => .archive e
  | .library e => .unwritable (.library e)

/-- The words for a failed report. -/
def ReportFault.message : ReportFault → Text
  | .file e => e.message
  | .archive e => e.message
  | .encoding e => e.message
  | .json e => e.message
  | .notObject kind => Text.lit "'" ++ Text.lit kind ++ Text.lit "' object is not a mapping"
  | .table e => e.message
  | .unwritable e => e.message
  | .noSummaries => Text.lit "No summary files found"

/-! ## Records -/

/-- What is said about a file that is not named as a summary. -/
def passedOverRecord (path : Text) : LogRecord :=
  warning (Text.lit "Not a phase summary file, skipping: " ++ path)

/-- What is said about a summary that has been read. -/
def loadedRecord (n : SummaryName) : LogRecord :=
  debug (Text.lit "Loaded " ++ n.phase.name ++ Text.lit " summary for " ++ n.run)

/-- What is said about a table. -/
def tableRecord (t : SummaryTable) : LogRecord :=
  info (Text.lit "Loaded " ++ Text.ofNat t.rows.length ++ Text.lit " summaries")

/-- What is said about a table that has been written. -/
def tableWrittenRecord (t : SummaryTable) (path : Text) : LogRecord :=
  info (Text.lit "Wrote summary table with " ++ Text.ofNat t.rows.length ++ Text.lit " rows to "
    ++ path)

/-! ## Reading -/

/-- The object in a summary file of these bytes, with some room for collections in it. -/
def readSummaryObject (room : Nat) (content : List UInt8) : Except ReportFault Json.Members := do
  let cs ← (Text.decodeStrict content).mapError ReportFault.encoding
  let text := Text.unifyBreaks (Text.ofChars cs)
  match ← (Json.read text.shown room).mapError ReportFault.json with
  | .object members => return members
  | value => throw (.notObject value.kindName)

/-- The entries of a summary, after the name and the phase that its file name says; an entry of the
file stands in the place of these. -/
def withName (n : SummaryName) (members : Json.Members) : Json.Members :=
  members.foldl (fun row (name, value) => row.put name value)
    [(SummaryTable.nameColumn, .str n.run), (SummaryTable.phaseColumn, .str n.phase.name)]

/-- The entries of the summary in a file, if the file is named as a summary. -/
def loadSummary (path : Text) : Session ReportFault (Option Json.Members) := do
  match SummaryName.ofPath? path with
  | none =>
    Session.say (passedOverRecord path)
    return none
  | some n =>
    let content ← Session.readFile .file path
    let room := (← get).host.readingRoom
    let members ← Session.ofExcept id (readSummaryObject room content)
    Session.say (loadedRecord n)
    return some (withName n members)

/-- The entries of the summaries in the files that are named as summaries. -/
def loadSummaries : List Text → Session ReportFault (List Json.Members)
  | [] => return []
  | path :: paths => do
    let summary ← loadSummary path
    let summaries ← loadSummaries paths
    return summary.toList ++ summaries

/-- The table of the summary files that some paths stand for. -/
def loadTable (paths : List Text) : Session ReportFault SummaryTable := do
  let summaries ← loadSummaries (reportFiles (← get).files paths)
  if summaries.isEmpty then throw .noSummaries
  let table ← Session.ofExcept .table (SummaryTable.ofSummaries summaries)
  Session.say (tableRecord table)
  return table

/-! ## Writing -/

/-- Why a row cannot be written, if it cannot, with room for some levels of values in its cells. -/
def rowFault? (room : Nat) (r : TableRow) : Option WriteFault :=
  if (r.name :: r.values).any (room < ·.height) then some .tooDeep
  else (Text.unwritable? (!·.isChar) (SummaryTable.rowLine r)).map .characters

/-- The lines of the rows before the first that cannot be written, and why writing stops. -/
def writableRows (room : Nat) : List TableRow → List Text × Option WriteFault
  | [] => ([], none)
  | row :: rows =>
    match rowFault? room row with
    | some e => ([], some e)
    | none =>
      let (written, stop) := writableRows room rows
      (SummaryTable.rowLine row :: written, stop)

/-- A table written to a file in a directory that is there. -/
def writeRows (table : SummaryTable) (path : Text) : Session ReportFault Unit := do
  let (written, stop) := writableRows (← get).host.writingRoom table.rows
  Session.store .ofAccess path (Text.encode (SummaryTable.headerLine ++ written.flatten))
  match stop with
  | some e => throw (.unwritable e)
  | none => Session.say (tableWrittenRecord table path)

/-- A table written to a file, in a directory that is made if it is not there. -/
def writeTable (table : SummaryTable) (path : Text) : Session ReportFault Unit := do
  let directory := Path.directory path
  unless directory = [] do
    Session.makeDirectories .file (.unwritable .directories) directory
  writeRows table path

end PhaseSplit
