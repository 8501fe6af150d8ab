import PhaseSplit.Phase.Basic
import PhaseSplit.Text.Lines

/-!
# Output sheets

The two outputs of a split, as sheets of lines, and the count of sample lines on each.

* `Sheets.writeHeader` — the header copied to both sheets;
* `Sheets.writeRow` — a sample line added to the sheet of its phase.
-/

namespace PhaseSplit

/-- The lines of an output. -/
abbrev Sheet := Array Text

/-- The text of an output: every line closed by a line feed. -/
def Sheet.text (s : Sheet) : Text := s.toList.flatMap (· ++ [Text.lineFeed])

/-- The outputs of the two phases, and the numbers of sample lines on them. -/
structure Sheets where
  sheets : PerPhase Sheet
  rows : PerPhase Nat
  deriving DecidableEq

namespace Sheets

/-- Empty outputs. -/
def empty : Sheets := ⟨.const #[], .const 0⟩

/-- The outputs with a header on both. -/
def writeHeader (s : Sheets) (header : Text) : Sheets :=
  { s with sheets := s.sheets.map (·.push header) }

/-- The outputs with a sample line on that of its phase. -/
def writeRow (s : Sheets) (line : Text) (phase : Phase) : Sheets where
  sheets := s.sheets.modify phase (·.push line)
  rows := s.rows.modify phase (· + 1)

/-- The text of the output of a phase. -/
def text (s : Sheets) (phase : Phase) : Text := Sheet.text (s.sheets.get phase)

end Sheets

end PhaseSplit
