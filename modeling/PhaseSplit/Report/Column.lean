import PhaseSplit.Json.Literal
import PhaseSplit.Number.Quantity

/-!
# Columns of a table

A column of a table holds what the files of a report have under one name.  A column of numbers in
which one is binary, or in which one is missing, is binary throughout, unless its integers fit no
machine word; every other column shows its values as they are.

* `ColumnForm.ofEntries` — the form of a column;
* `ColumnForm.cell` — an entry as a cell of a column of this form.
-/

namespace PhaseSplit

/-- What a file has under a name: a value or nothing. -/
abbrev Entry := Option Json

/-- A cell of a table. -/
inductive Cell
  | empty
  | value (v : Json)

/-- The text of a cell. -/
def Cell.text : Cell → Text
  | .empty => []
  | .value v => v.cellText

/-- The number of levels of values inside a cell. -/
def Cell.height : Cell → Nat
  | .empty => 0
  | .value v => v.height

/-- How the entries of a column become cells. -/
inductive ColumnForm
  | binary
  | asGiven
  deriving DecidableEq

namespace ColumnForm

/-! ## Kinds of entries -/

/-- Whether an entry rules out numbers: a truth value, a text or a collection. -/
def isOther : Entry → Bool
  | some (.bool _) | some (.str _) | some (.array _) | some (.object _) => true
  | _ => false

/-- Whether an entry makes integers binary: a binary number, or nothing. -/
def isBinary : Entry → Bool
  | none | some .null | some (.float _) => true
  | _ => false

/-- The integers among some entries. -/
def integers (entries : List Entry) : List Int :=
  entries.filterMap fun
    | some (.int n) => some n
    | _ => none

/-- Whether machine words of one kind, signed or unsigned, hold all of some integers. -/
def fitWords (ns : List Int) : Bool :=
  ns.all (fun n => -Int.pow 2 63 ≤ n && n < Int.pow 2 63)
    || ns.all (fun n => 0 ≤ n && n < Int.pow 2 64)

/-! ## Forms -/

/-- The form of a column: binary if all entries are numbers or missing, one of them is binary or
missing, and the integers fit machine words of one kind. -/
def ofEntries (entries : List Entry) : ColumnForm :=
  if entries.any isBinary && !entries.any isOther && fitWords (integers entries) then .binary
  else .asGiven

/-- An integer as a binary value. -/
def binaryValue (n : Int) : Json :=
  match Binary64.ofInt n with
  | .ok x => .float x
  | .error _ => .int n

/-- An entry as a cell. -/
def cell (form : ColumnForm) : Entry → Cell
  | none => .empty
  | some .null => .empty
  | some (.float x) => if x = .nan then .empty else .value (.float x)
  | some (.int n) => .value (if form = .binary then binaryValue n else .int n)
  | some v => .value v

end ColumnForm

end PhaseSplit
