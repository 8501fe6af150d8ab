import PhaseSplit.Csv.Writer
import PhaseSplit.Phase.Basic
import PhaseSplit.Report.Column
import PhaseSplit.Stats.Summary

/-!
# Tables of summaries

One row for every summary, with the name of its run, its phase, and its entries.  Rows are sorted
by name and within a name by phase; rows alike in both keep their order.

* `SummaryTable.ofSummaries` — the table of some summaries, or why they make none;
* `SummaryTable.lines`, `SummaryTable.csv` — the text of a table, by lines and as a whole;
* `SummaryTable.measurementOnly` — the rows of the measurement phase.
-/

namespace PhaseSplit

/-- Why summaries make no table. -/
inductive TableFault
  | unusableKey (kind : String)
  deriving DecidableEq

/-- The words for summaries that make no table. -/
def TableFault.message : TableFault → Text
  | .unusableKey kind => Text.lit "unhashable type: '" ++ Text.lit kind ++ Text.lit "'"

/-- A row of a table. -/
structure TableRow where
  name : Cell
  phase : Option Phase
  values : List Cell

/-- The rows of a table, in order. -/
structure SummaryTable where
  rows : List TableRow

/-! ## Order -/

/-- What a name is sorted by: numbers come before texts, and cells without a name last. -/
inductive NameKey
  | number (q : Quantity)
  | text (t : Text)
  | empty
  deriving DecidableEq

namespace NameKey

/-- The key of a name, unless it is a collection. -/
def ofCell : Cell → Except TableFault NameKey
  | .value (.bool b) => .ok (.number (.whole (if b then 1 else 0)))
  | .value (.int n) => .ok (.number (.whole n))
  | .value (.float x) => .ok (.number (.binary x))
  | .value (.str t) => .ok (.text t)
  | .value (.array items) => .error (.unusableKey (Json.array items).kindName)
  | .value (.object members) => .error (.unusableKey (Json.object members).kindName)
  | .value .null => .ok .empty
  | .empty => .ok .empty

/-- Whether a key comes before another. -/
def before : NameKey → NameKey → Bool
  | number p, number q => p.before q
  | number _, _ => true
  | text _, number _ => false
  | text s, text t => s.before t
  | text _, empty => true
  | empty, _ => false

end NameKey

/-- The place of a phase within a name: the warmup first, and what is neither phase last. -/
def phaseRank : Option Phase → Nat
  | some .warmup => 0
  | some .measurement => 1
  | none => 2

/-- Whether a row with this key and phase may stand before another. -/
def rowNotAfter (a b : NameKey × TableRow) : Bool :=
  a.1.before b.1 || (!b.1.before a.1 && phaseRank a.2.phase ≤ phaseRank b.2.phase)

namespace SummaryTable

/-! ## Rows -/

/-- The name of the column of run names. -/
def nameColumn : Text := Text.lit "name"

/-- The name of the column of phases. -/
def phaseColumn : Text := Text.lit "phase"

/-- The names of the columns. -/
def columns : List Text := nameColumn :: phaseColumn :: Summary.entryNames

/-- The phase that an entry names, unless it is a collection. -/
def phaseOf : Entry → Except TableFault (Option Phase)
  | some (.str t) => .ok (Phase.ofName? t)
  | some (.array items) => .error (.unusableKey (Json.array items).kindName)
  | some (.object members) => .error (.unusableKey (Json.object members).kindName)
  | _ => .ok none

/-- The names that occur in some summaries. -/
def namesOf (summaries : List Json.Members) : List Text :=
  (summaries.flatMap (·.map (·.1))).eraseDups

/-- The entries of some summaries under a name. -/
def entriesOf (summaries : List Json.Members) (name : Text) : List Entry :=
  summaries.map (Json.Members.get? name)

/-- The forms of all columns that some summaries have. -/
def formsOf (summaries : List Json.Members) : List (Text × ColumnForm) :=
  (namesOf summaries).map fun name => (name, .ofEntries (entriesOf summaries name))

/-- The cell of a summary under a name. -/
def cellOf (forms : List (Text × ColumnForm)) (summary : Json.Members) (name : Text) : Cell :=
  match forms.lookup name with
  | some form => form.cell (Json.Members.get? name summary)
  | none => .empty

/-- The row of a summary of this phase. -/
def rowOf (forms : List (Text × ColumnForm)) (summary : Json.Members) (phase : Option Phase) :
    TableRow where
  name := cellOf forms summary nameColumn
  phase
  values := Summary.entryNames.map (cellOf forms summary)

/-- The table of some summaries, in the order in which they were read. -/
def ofSummaries (summaries : List Json.Members) : Except TableFault SummaryTable := do
  let forms := formsOf summaries
  let phases ← (entriesOf summaries phaseColumn).mapM phaseOf
  let rows := (summaries.zip phases).map fun (summary, phase) => rowOf forms summary phase
  let keys ← (rows.map (·.name)).mapM NameKey.ofCell
  return ⟨((keys.zip rows).mergeSort rowNotAfter).map (·.2)⟩

/-- The rows of the measurement phase. -/
def measurementOnly (t : SummaryTable) : SummaryTable :=
  ⟨t.rows.filter (·.phase = some .measurement)⟩

/-! ## Text -/

/-- The texts of the cells of a row. -/
def cellTexts (r : TableRow) : List Text :=
  r.name.text :: (r.phase.map Phase.name).getD [] :: r.values.map Cell.text

/-- The line with the names of the columns. -/
def headerLine : Text := Csv.row columns

/-- The line of a row. -/
def rowLine (r : TableRow) : Text := Csv.row (cellTexts r)

/-- The lines of a table: the names of the columns, and the rows. -/
def lines (t : SummaryTable) : List Text := headerLine :: t.rows.map rowLine

/-- The text of a table. -/
def csv (t : SummaryTable) : Text := t.lines.flatten

end SummaryTable

end PhaseSplit
