import PhaseSplit.Sample.Columns
import PhaseSplit.Sample.Field

/-!
# Samples

One line of a result file after the header is one sample, unless it has too many columns.

* `Sample` — the interpreted values of a line, with the line itself;
* `readLine` — what a line holds.
-/

namespace PhaseSplit

/-- A sample: when it started, how long it took, whether it succeeded, how many bytes came and
went, and the line that says so. -/
structure Sample where
  timestamp : Int
  elapsed : Int
  success : Bool
  received : Int
  sent : Int
  line : Text
  lineNumber : Int
  deriving DecidableEq

/-- The words for a truth value. -/
def truthText (b : Bool) : Text := if b then Text.lit "True" else Text.lit "False"

/-- The description of a sample. -/
def Sample.describe (s : Sample) : Text :=
  Text.lit "JTLRecord(line=" ++ Text.ofInt s.lineNumber ++ Text.lit ", timestamp="
    ++ Text.ofInt s.timestamp ++ Text.lit ", elapsed=" ++ Text.ofInt s.elapsed
    ++ Text.lit ", success=" ++ truthText s.success ++ Text.lit ")"

/-- What a line holds: a sample, or more columns than there should be. -/
inductive LineContent
  | sample (s : Sample)
  | tooManyColumns (lineNumber : Int) (line : Text)
  deriving DecidableEq

/-- The description of what a line holds. -/
def LineContent.describe : LineContent → Text
  | .sample s => s.describe
  | .tooManyColumns lineNumber _ =>
    Text.lit "TooManyColumns(line=" ++ Text.ofInt lineNumber ++ Text.lit ")"

/-- The sample of a line that has been cut into columns. -/
def readSample (line : Text) (lineNumber : Int) (columns : List Text) :
    Except LineFault Sample := do
  let timestamp ← Field.timestamp.readInt lineNumber columns
  let elapsed ← Field.elapsed.readInt lineNumber columns
  let success ← Field.success.readBool lineNumber columns
  let received ← Field.received.readInt lineNumber columns
  let sent ← Field.sent.readInt lineNumber columns
  return ⟨timestamp, elapsed, success, received, sent, line, lineNumber⟩

/-- What a line holds. -/
def readLine (limit : Int) (lineNumber : Int) (line : Text) : Except LineFault LineContent :=
  match splitColumns limit line with
  | none => .ok (.tooManyColumns lineNumber line)
  | some columns => .sample <$> readSample line lineNumber columns

end PhaseSplit
