import PhaseSplit.Text.Glyph

/-!
# Paths

Paths as texts: names with slashes between them.

* `Path.fileName`, `Path.directory` — the part after the last slash, and the part before it;
* `Path.headAndTail` — the same parts of a path that may end in slashes;
* `Path.join` — a name in a directory;
* `Path.splitExtension` — a file name as stem and extension.
-/

namespace PhaseSplit.Path

/-- The slash between names. -/
def slash : Glyph := .char '/'

/-- The dot before an extension. -/
def dot : Glyph := .char '.'

/-- The part of a text after the last `g`, all of it if there is none. -/
def afterLast (g : Glyph) (t : Text) : Text := (t.reverse.takeWhile (· ≠ g)).reverse

/-- The part of a text up to the last `g`, that one included. -/
def uptoLast (g : Glyph) (t : Text) : Text := (t.reverse.dropWhile (· ≠ g)).reverse

/-- The part of a path after the last slash. -/
def fileName (p : Text) : Text := afterLast slash p

/-- A text without the slashes at its end. -/
def dropSlashes (t : Text) : Text := (t.reverse.dropWhile (· = slash)).reverse

/-- The part of a path before its file name, without slashes at its end unless it is all
slashes. -/
def directory (p : Text) : Text :=
  let head := uptoLast slash p
  if head.all (· = slash) then head else dropSlashes head

/-- The directory of a path and its name, without the slashes at its end. -/
def headAndTail (p : Text) : Text × Text :=
  let p := if fileName p = [] then directory p else p
  (directory p, fileName p)

/-- The path of a name in a directory. -/
def join (directory name : Text) : Text :=
  if name.head? = some slash then name
  else if directory = [] || directory.getLast? = some slash then directory ++ name
  else directory ++ slash :: name

/-- A file name as stem and extension.  The extension starts at the last dot, and dots at the start
of the name begin no extension. -/
def splitExtension (name : Text) : Text × Text :=
  let stem := (uptoLast dot name).dropLast
  if stem.all (· = dot) then (name, []) else (stem, dot :: afterLast dot name)

theorem uptoLast_append_afterLast (g : Glyph) (t : Text) : uptoLast g t ++ afterLast g t = t := by
  rw [uptoLast, afterLast, ← List.reverse_append, List.takeWhile_append_dropWhile,
    List.reverse_reverse]

end PhaseSplit.Path
