import PhaseSplit.Command.Run
import Std.Time.Format

/-!
# The program on a machine

What a command line asks for is decided by `runProgram` on a world.  This module makes that world
from the files next to the paths on the command line, and carries out what the run has changed.

* `main` — the program.
-/

namespace PhaseSplit.Machine

/-! ## Places -/

/-- The place that names lead to from `here`. -/
def follow (here : Place) (name : Text) : Place :=
  if name = [] || name = Text.lit "." then here
  else if name = Text.lit ".." then here.dropLast
  else here ++ [name]

/-- The place of a path. -/
def placeOf (home : Place) (path : Text) : Place :=
  (Text.splitAt Path.slash path).foldl follow (if path.head? = some Path.slash then [] else home)

/-- The path of a place. -/
def pathOf (place : Place) : String :=
  Text.toShownString (Path.slash :: Text.join [Path.slash] place)

/-- The parts of an argument that may be a path: all of it, or a value after a short option or after
an equals sign. -/
def pathsIn (argument : Text) : List Text :=
  [argument, argument.drop 2, (cutAtEquals argument).2.getD []]

/-! ## Reading -/

/-- What stands at a path. -/
def readNode (path : String) : IO (Option Node) := do
  let path := (← IO.currentDir) / path
  if ← path.isDir then return some .directory
  if ← path.pathExists then return some (.file (← IO.FS.readBinFile path).toList)
  return none

/-- The names in a directory. -/
def readNames (path : String) : IO (List Text) := do
  let path := (← IO.currentDir) / path
  if ← path.isDir then return (← path.readDir).toList.map fun entry => Text.lit entry.fileName
  return []

/-- The places in a place. -/
def placesIn (place : Place) : IO (List Place) := do
  return (← readNames (pathOf place)).map fun name => place ++ [name]

/-- The places that a run may look at for a path: those above it, those next to it and those in
it. -/
def placesFor (place : Place) : IO (List Place) := do
  let above := (List.range (place.length + 1)).map place.take
  return above ++ (← placesIn place.dropLast) ++ (← placesIn place)

/-- The files that a run with these arguments may look at. -/
def readTree (arguments : List Text) : IO FileTree := do
  let home := placeOf [] (Text.lit (← IO.currentDir).toString)
  let paths := [] :: arguments.flatMap pathsIn
  let places ← paths.flatMapM fun path => placesFor (placeOf home path)
  let nodes ← places.eraseDups.filterMapM fun place => do
    return (← readNode (pathOf place)).map fun node => (place, node)
  return ⟨nodes, home⟩

/-- The variables of the environment that the program reads. -/
def readEnvironment : IO Environment :=
  Settings.variableNames.filterMapM fun name => do
    return (← IO.getEnv name).map fun value => (Text.lit name, Text.lit value)

/-- The width of the terminal, as far as the environment tells it. -/
def readColumns : IO Nat := do
  let columns := (← IO.getEnv "COLUMNS").bind String.toNat?
  return (columns.filter (0 < ·)).getD Host.plain.columns

/-- The machine: its output takes characters only. -/
def readHost : IO Host := do
  return { Host.plain with
    columns := ← readColumns
    outputFault := fun t => (Text.unwritable? (!·.isChar) t).map Text.Unwritable.message }

/-- The time on a clock that never goes back. -/
def readClock : IO ClockReading := do
  return .seconds (.ofRatio false (← IO.monoNanosNow) 1000000000)

/-! ## Writing -/

/-- The bytes of a text. -/
def bytesOf (t : Text) : ByteArray := ⟨t.encode.toArray⟩

/-- What a run has changed, carried out: new directories before the files in them. -/
def writeTree (before after : FileTree) : IO Unit := do
  for (place, node) in after.nodes.reverse do
    unless before.node? place = some node do
      match node with
      | .directory => IO.FS.createDirAll (pathOf place)
      | .file content => IO.FS.writeBinFile (pathOf place) ⟨content.toArray⟩
  for (place, _) in before.nodes do
    if (after.node? place).isNone then IO.FS.removeFile (pathOf place)

/-- The time of day, to a thousandth of a second. -/
def readTime : IO Text := do
  return Text.lit ((← Std.Time.PlainDateTime.now).format "uuuu-MM-dd HH:mm:ss,SSS")

/-- What a run has printed and logged. -/
def writeOutput (o : ProgramOutcome) : IO Unit := do
  let time ← readTime
  (← IO.getStdout).write (bytesOf o.output)
  (← IO.getStderr).write
    (bytesOf (o.errorOutput ++ o.shownLog.flatMap fun record => record.line time))

/-- The status for the end of a run; a fault that leaves the program is told. -/
def statusOf : Ending → IO UInt32
  | .status code => return code.toUInt32
  | .fault e => do
    (← IO.getStderr).write (bytesOf (e.message ++ Text.lit "\n"))
    return 1

/-- The program run with these settings and arguments.  The clock is part of the world, so a first
run says how long the run takes, and a second one is carried out. -/
def run (settings : Settings) (arguments : List Text) : IO UInt32 := do
  let files ← readTree arguments
  let host ← readHost
  let runWith (clock : List ClockReading) : IO ProgramOutcome :=
    IO.lazyPure fun _ =>
      runProgram settings arguments { World.initial files clock with host }
  let started ← readClock
  let _ ← runWith [started]
  let outcome ← runWith [started, ← readClock]
  writeTree files outcome.world.files
  writeOutput outcome
  statusOf outcome.ending

/-- The program run with the settings of the environment, unless one of them is no setting. -/
def start (arguments : List Text) : IO UInt32 := do
  match Settings.ofEnvironment (← readEnvironment) with
  | .ok settings => run settings arguments
  | .error e =>
    (← IO.getStderr).write (bytesOf (e.message ++ Text.lit "\n"))
    return 1

end PhaseSplit.Machine

/-- The program: the status says how it has ended. -/
def main (arguments : List String) : IO UInt32 :=
  PhaseSplit.Machine.start (arguments.map PhaseSplit.Text.lit)
