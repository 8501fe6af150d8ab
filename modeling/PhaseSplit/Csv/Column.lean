import PhaseSplit.Csv.Numeral
import PhaseSplit.Number.Quantity
import PhaseSplit.Text.Utf8

/-!
# Columns of cells

The cells of a column are read together: as integers if all of them are integers of one machine
word, else as binary numbers if all of them are numbers or missing, else as truth values, else as
texts.  Integers that fit no machine word stay integers beside missing cells only; otherwise they
are texts, and so are the missing cells.  A text is refused where its bytes spell no character.

* `Csv.Column.ofCells` — the column that some cells write;
* `Csv.Column.append` — the column of two columns, one after the other.
-/

namespace PhaseSplit.Csv

/-- A value of a column. -/
inductive CellValue
  | number (q : Quantity)
  | flag (b : Bool)
  | text (t : Text)
  | missing
  deriving DecidableEq

/-- What the values of a column have in common: integers of a machine word, binary numbers, truth
values, texts among which some may be missing, or nothing. -/
inductive ColumnKind
  | signedWords
  | unsignedWords
  | binary
  | flags
  | texts
  | mixed
  deriving DecidableEq

/-- A column. -/
structure Column where
  kind : ColumnKind
  values : List CellValue
  deriving DecidableEq

/-- The cells that hold no value. -/
def missingWords : List Text :=
  ["", "#N/A", "#N/A N/A", "#NA", "-1.#IND", "-1.#QNAN", "-NaN", "-nan", "1.#IND", "1.#QNAN",
    "<NA>", "N/A", "NA", "NULL", "NaN", "None", "n/a", "nan", "null"].map Text.lit

/-- Whether a cell holds no value. -/
def isMissing (cell : Text) : Bool := missingWords.contains cell

/-- The least integer of a signed word. -/
def leastSigned : Int := -Int.pow 2 63

/-- The greatest integer of a signed word. -/
def greatestSigned : Int := Int.pow 2 63 - 1

/-- The greatest integer of an unsigned word. -/
def greatestUnsigned : Int := Int.pow 2 64 - 1

/-! ## Integers -/

/-- Why cells are no column of integers. -/
inductive NotWhole
  | outOfRange
  | otherNumbers
  deriving DecidableEq

/-- The integers of cells, none for a missing one. -/
def signedCells : List Text → Except NotWhole (List (Option Int))
  | [] => .ok []
  | cell :: cells =>
    if isMissing cell then (signedCells cells).map (none :: ·)
    else
      match readWhole leastSigned greatestSigned cell with
      | .value n => (signedCells cells).map (some n :: ·)
      | .outOfRange => .error .outOfRange
      | .notWhole => .error .otherNumbers

/-- Whether a cell starts with a minus sign. -/
def isNegative (cell : Text) : Bool := (cell.dropWhile isCellBlank).head? = some (.char '-')

/-- The integers of cells without a sign, none for a missing or negative one. -/
def unsignedCells : List Text → Except NotWhole (List (Option Int))
  | [] => .ok []
  | cell :: cells =>
    if isMissing cell || isNegative cell then (unsignedCells cells).map (none :: ·)
    else
      match readWhole 0 greatestUnsigned cell with
      | .value n => (unsignedCells cells).map (some n :: ·)
      | .outOfRange => .error .outOfRange
      | .notWhole => .error .otherNumbers

/-! ## Values -/

/-- The values of some integers. -/
def wholeValues (cells : List (Option Int)) : List CellValue :=
  cells.map fun
    | some n => .number (.whole n)
    | none => .missing

/-- A value as a binary number. -/
def CellValue.toBinary : CellValue → CellValue
  | .number (.whole n) =>
    match Binary64.ofInt n with
    | .ok x => .number (.binary x)
    | .error _ => .number (.whole n)
  | .flag b => .number (.binary (if b then .finite false Binary64.one else .zero))
  | v => v

/-- A value as an integer, where it is a truth value. -/
def CellValue.toWhole : CellValue → CellValue
  | .flag b => .number (.whole (if b then 1 else 0))
  | v => v

/-- The values of cells of which each is missing or read by `read?`. -/
def readAll (read? : Text → Option CellValue) (cells : List Text) : Option (List CellValue) :=
  cells.mapM fun cell => if isMissing cell then some .missing else read? cell

/-- The truth value of a cell. -/
def readFlag? (cell : Text) : Option CellValue :=
  let word := cell.asciiLower
  if word = Text.lit "true" then some (.flag true)
  else if word = Text.lit "false" then some (.flag false)
  else none

/-- The text of a cell. -/
def readText (cell : Text) : Except Text.Fault CellValue :=
  (Text.decodeStrict cell.encode).map fun cs => .text (Text.ofChars cs)

namespace Column

/-! ## Columns -/

/-- The column of some signed words; with a missing one among them they become binary. -/
def ofSigned (cells : List (Option Int)) : Column :=
  let values := wholeValues cells
  if cells.contains none then ⟨.binary, values.map CellValue.toBinary⟩ else ⟨.signedWords, values⟩

/-- The column of texts that some cells write, as they stand. -/
def ofPlainTexts (cells : List Text) : Except Text.Fault Column :=
  (cells.mapM readText).map (⟨.texts, ·⟩)

/-- The column of texts that some cells write, of which some may be missing. -/
def ofTexts (cells : List Text) : Except Text.Fault Column :=
  (cells.mapM fun cell => if isMissing cell then .ok .missing else readText cell).map (⟨.texts, ·⟩)

/-- The column that some cells write, integers apart. -/
def ofOtherCells (cells : List Text) : Except Text.Fault Column :=
  match readAll (fun cell => (readBinary? cell).map fun x => .number (.binary x)) cells with
  | some values => .ok ⟨.binary, values⟩
  | none =>
    match readAll readFlag? cells with
    | some values => .ok ⟨if values.contains .missing then .mixed else .flags, values⟩
    | none => ofTexts cells

/-- The column of integers of any size that some cells write, and of texts if one is none. -/
def ofIntegers (cells : List Text) : Except Text.Fault Column :=
  match readAll (fun cell => (readInteger? cell).map fun n => .number (.whole n)) cells with
  | some values => .ok ⟨.mixed, values⟩
  | none => ofPlainTexts cells

/-- The column that some cells write of which one leaves the signed words. -/
def ofLargeCells (cells : List Text) : Except Text.Fault Column :=
  match unsignedCells cells with
  | .ok values =>
    if !values.contains none then .ok ⟨.unsignedWords, wholeValues values⟩
    else if values.any (·.any (greatestSigned < ·)) then ofPlainTexts cells
    else ofIntegers cells
  | .error .outOfRange => ofIntegers cells
  | .error .otherNumbers => ofOtherCells cells

/-- The column that some cells write; without cells it is no column of numbers. -/
def ofCells (cells : List Text) : Except Text.Fault Column :=
  match signedCells cells with
  | .ok [] => .ok ⟨.mixed, []⟩
  | .ok values => .ok (ofSigned values)
  | .error .outOfRange => ofLargeCells cells
  | .error .otherNumbers => ofOtherCells cells

/-! ## Joining -/

/-- The kind that holds the values of two kinds in a row, if it is not just a mixture.  Truth values
after numbers become numbers, and before integers too. -/
def joinedKind : ColumnKind → ColumnKind → ColumnKind
  | .signedWords, .signedWords | .signedWords, .flags | .flags, .signedWords => .signedWords
  | .unsignedWords, .unsignedWords | .unsignedWords, .flags | .flags, .unsignedWords =>
    .unsignedWords
  | .signedWords, .unsignedWords | .unsignedWords, .signedWords => .binary
  | .binary, .binary | .binary, .signedWords | .binary, .unsignedWords | .binary, .flags => .binary
  | .signedWords, .binary | .unsignedWords, .binary => .binary
  | .flags, .flags => .flags
  | .texts, .texts => .texts
  | _, _ => .mixed

/-- A value as one of a column of this kind. -/
def valueAs : ColumnKind → CellValue → CellValue
  | .signedWords, v | .unsignedWords, v => v.toWhole
  | .binary, v => v.toBinary
  | _, v => v

/-- The column of two columns, one after the other. -/
def append (a b : Column) : Column :=
  let kind := joinedKind a.kind b.kind
  ⟨kind, (a.values ++ b.values).map (valueAs kind)⟩

end Column

end PhaseSplit.Csv
