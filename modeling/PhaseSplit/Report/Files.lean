import PhaseSplit.Files.Glob
import PhaseSplit.Split.OutputPaths

/-!
# Files of a report

A report is asked for by paths.  A directory stands for the summary files in it, in the order of
their paths; its own name may be a pattern.  Every other path stands for itself.

* `reportFiles` — the files that a list of paths stands for.
-/

namespace PhaseSplit

/-- The pattern for the names of summary files. -/
def summaryPattern : Text := .char '*' :: OutputPaths.summaryEnding

/-- The files that a path stands for. -/
def filesFor (t : FileTree) (path : Text) : List Text :=
  if t.isDirectory path then (t.pathsMatching path summaryPattern).mergeSort Text.notAfter
  else [path]

/-- The files that a list of paths stands for. -/
def reportFiles (t : FileTree) (paths : List Text) : List Text := paths.flatMap (filesFor t)

end PhaseSplit
