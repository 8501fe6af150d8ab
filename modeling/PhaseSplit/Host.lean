import PhaseSplit.Chart.Figure
import PhaseSplit.Files.Resource
import PhaseSplit.Json.Reader

/-!
# Hosts

What a run finds on its machine besides files and time: a terminal, an output that may refuse a
text, limited room for values and directories inside each other, and libraries that draw figures and
open what is no ordinary file.  A host is the record of its answers, and they may be any.

* `Host` — the answers of a machine;
* `Host.read`, `Host.write` — what a path stands for, as the library of tables reads and writes it;
* `Host.plain` — a machine that opens no archive and reaches nothing but its files.
-/

namespace PhaseSplit

/-- The answers of a machine: the width of its terminal, the address of an object that a page of
help may show, the words with which its output refuses a text, the levels of values for which there
is room below the outermost value, the number of directories above another that can be made with it,
and what its libraries do with figures and with paths that are not ordinary. -/
structure Host where
  columns : Nat
  address : Text
  outputFault : Text → Option Text
  readingRoom : Nat
  writingRoom : Nat
  makingRoom : Nat
  draw : Figure → Option LibraryFault
  fetch : FileTree → Text → Except AccessFault (List UInt8)
  store : FileTree → Text → List UInt8 → FileTree × Option AccessFault

namespace Host

/-- The content of what a path stands for. -/
def read (host : Host) (t : FileTree) (path : Text) : Except AccessFault (List UInt8) :=
  if Path.isOrdinary path then (t.read path).mapError .file else host.fetch t path

/-- The files after a content has been written to what a path stands for, and why it has not been
written. -/
def write (host : Host) (t : FileTree) (path : Text) (content : List UInt8) :
    FileTree × Option AccessFault :=
  if Path.isOrdinary path then
    match t.write path content with
    | .ok t => (t, none)
    | .error e => (t, some (.file e))
  else host.store t path content

/-! ## A plain machine -/

/-- The content of a file that is no archive, or why it cannot be read. -/
def fetchPlain (t : FileTree) (path : Text) : Except AccessFault (List UInt8) := do
  if Archive.ofPath? path = some .zstandard then throw (.archive .noMeans)
  let content ← (t.read path).mapError .file
  match Archive.ofPath? path with
  | none => return content
  | some kind =>
    if Archive.hasMarks content kind then
      throw (.library ⟨false, Text.lit "Archives are not opened"⟩)
    else throw (.archive (Archive.fault content kind))

/-- The files with a file of this content, which is left empty if it should be packed. -/
def storePlain (t : FileTree) (path : Text) (content : List UInt8) :
    FileTree × Option AccessFault :=
  if Archive.ofPath? path = some .zstandard then (t, some (.archive .noMeans))
  else
    match t.write path (if Archive.isPacked path then [] else content) with
    | .ok t => (t, none)
    | .error e => (t, some (.file e))

/-- A machine that shows every text in 80 columns, draws every figure, opens no archive and reaches
nothing but its files. -/
def plain : Host where
  columns := 80
  address := Text.lit "0x0"
  outputFault _ := none
  readingRoom := Json.usualRoom
  writingRoom := 985
  makingRoom := 992
  draw _ := none
  fetch := fetchPlain
  store := storePlain

end Host

end PhaseSplit
