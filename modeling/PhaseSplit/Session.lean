import PhaseSplit.Host
import PhaseSplit.Log

/-!
# Sessions

Work on files, as functions of a world: a file tree, the readings that a clock will give, the log,
the progress and the figures so far, and the machine on which the work is done.  Work that fails
leaves the world as it was at the failure.

* `World` — what work can see and change;
* `Session` — work that gives a result or fails;
* `Session.say`, `readClock`, `readFile`, `writeFile`, `removeFile`, `makeDirectories`, `fetch`,
  `store`, `saveFigure` — the steps.
-/

namespace PhaseSplit

/-- What the clock gives when it is read: a time, or an interruption by the user. -/
inductive ClockReading
  | seconds (x : Binary64)
  | interrupt
  deriving DecidableEq

/-- What work can see.  It changes all of this but the machine. -/
structure World where
  files : FileTree
  clock : List ClockReading
  log : Log
  progress : List Nat
  figures : List Figure
  host : Host

/-- A world before any work, on a plain machine. -/
def World.initial (files : FileTree) (clock : List ClockReading) : World :=
  ⟨files, clock, [], [], [], .plain⟩

/-- Work that gives a result or fails for a reason. -/
abbrev Session (ε α : Type) := ExceptT ε (StateM World) α

namespace Session

variable {ε α : Type}

/-- The result of work and the world after it. -/
def result (work : Session ε α) (world : World) : Except ε α × World := work.run.run world

/-- Records at the end of the log. -/
def sayAll (records : Log) : Session ε Unit := modify fun w => { w with log := w.log ++ records }

/-- A record at the end of the log. -/
def say (record : LogRecord) : Session ε Unit := sayAll [record]

/-- Numbers of samples at which progress was made. -/
def announce (progress : List Nat) : Session ε Unit :=
  modify fun w => { w with progress := w.progress ++ progress }

/-- The result of a computation. -/
def ofExcept {ε' : Type} (wrap : ε' → ε) : Except ε' α → Session ε α
  | .ok a => pure a
  | .error e => throw (wrap e)

/-- The next reading of the clock; the last one repeats, and a clock without readings stands at
zero. -/
def readClock (interrupted : ε) : Session ε Binary64 := do
  let w ← get
  match w.clock with
  | [] => pure .zero
  | reading :: later =>
    unless later = [] do set { w with clock := later }
    match reading with
    | .seconds x => pure x
    | .interrupt => throw interrupted

/-- The content of a file. -/
def readFile (wrap : FileFault → ε) (path : Text) : Session ε (List UInt8) := do
  ofExcept wrap ((← get).files.read path)

/-- A change of the file tree. -/
def changeFiles (wrap : FileFault → ε) (change : FileTree → Except FileFault FileTree) :
    Session ε Unit := do
  let w ← get
  let files ← ofExcept wrap (change w.files)
  set { w with files }

/-- A file with this content, new or in the place of an older one. -/
def writeFile (wrap : FileFault → ε) (path : Text) (content : List UInt8) : Session ε Unit :=
  changeFiles wrap (·.write path content)

/-- A file removed. -/
def removeFile (wrap : FileFault → ε) (path : Text) : Session ε Unit :=
  changeFiles wrap (·.remove path)

/-- A directory, with those above it, if they are not there; those above it stay also if it cannot
be made.  Nothing is made where there is no room for so many of them. -/
def makeDirectories (wrap : FileFault → ε) (noRoom : ε) (path : Text) : Session ε Unit := do
  let w ← get
  if w.host.makingRoom < w.files.missingAbove path then throw noRoom
  let (files, fault) := w.files.makeDirectories path
  set { w with files }
  match fault with
  | some e => throw (wrap e)
  | none => pure ()

/-- The content of what a path stands for to the library of tables. -/
def fetch (wrap : AccessFault → ε) (path : Text) : Session ε (List UInt8) := do
  let w ← get
  ofExcept wrap (w.host.read w.files path)

/-- A content written to what a path stands for to the library of tables. -/
def store (wrap : AccessFault → ε) (path : Text) (content : List UInt8) : Session ε Unit := do
  let w ← get
  let (files, fault) := w.host.write w.files path content
  set { w with files }
  match fault with
  | some e => throw (wrap e)
  | none => pure ()

/-- A figure saved to its file, if it can be drawn; no pixels are drawn here, so the file is
empty. -/
def saveFigure (wrap : FileFault → ε) (refuse : LibraryFault → ε) (figure : Figure) :
    Session ε Unit := do
  match (← get).host.draw figure with
  | some e => throw (refuse e)
  | none =>
    writeFile wrap figure.file []
    modify fun w => { w with figures := w.figures ++ [figure] }

end Session

end PhaseSplit
