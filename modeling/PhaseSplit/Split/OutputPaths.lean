import PhaseSplit.Files.Path
import PhaseSplit.Phase.Basic

/-!
# Output paths

The outputs of a split stand next to the input, under names made from its name: `results.jtl` gives
`results-warmup.jtl`, `results-measurement.jtl`, `results-warmup-summary.json` and
`results-measurement-summary.json`.

* `OutputPaths.ofInput` — the four paths for an input path;
* `OutputPaths.stemOf` — the part of a file name that its outputs share.
-/

namespace PhaseSplit

/-- The paths of the outputs of a split. -/
structure OutputPaths where
  samples : PerPhase Text
  summaries : PerPhase Text
  deriving DecidableEq

namespace OutputPaths

/-- The extension of outputs whose input has none that is kept. -/
def defaultExtension : Text := Text.lit ".jtl"

/-- The length of the extensions that are kept, the dot included. -/
def extensionLength : Nat := 4

/-- The end of the name of a summary file. -/
def summaryEnding : Text := Text.lit "-summary.json"

/-- The stem and the extension of outputs, by the file name of the input.  An extension is kept if
it has three characters after the dot. -/
def stemOf (fileName : Text) : Text × Text :=
  let (stem, extension) := Path.splitExtension fileName
  if extension.length ≠ extensionLength || stem = [] then (fileName, defaultExtension)
  else (stem, extension)

/-- The name of an output of a phase. -/
def outputName (stem : Text) (phase : Phase) (ending : Text) : Text :=
  stem ++ Text.lit "-" ++ phase.name ++ ending

/-- The paths of the outputs for the path of an input. -/
def ofInput (path : Text) : OutputPaths :=
  let (stem, extension) := stemOf (Path.fileName path)
  let sibling (phase : Phase) (ending : Text) : Text :=
    Path.join (Path.directory path) (outputName stem phase ending)
  { samples := ⟨sibling .warmup extension, sibling .measurement extension⟩
    summaries := ⟨sibling .warmup summaryEnding, sibling .measurement summaryEnding⟩ }

end OutputPaths

end PhaseSplit
