import PhaseSplit.Text.Integer

/-!
# Interpreted fields

Five columns of a sample line are interpreted, four as integers in a range and one as a truth
value; all others pass through untouched.

* `Field` — the interpreted columns, with place, name and range;
* `FieldFault` — a column that is missing or does not hold what it should;
* `Field.readInt`, `Field.readBool` — the value of a column.
-/

namespace PhaseSplit

/-- An interpreted column. -/
inductive Field
  | timestamp
  | elapsed
  | success
  | received
  | sent
  deriving DecidableEq

namespace Field

/-- The place of a column, from 0. -/
def index : Field → Nat
  | timestamp => 0
  | elapsed => 1
  | success => 7
  | received => 9
  | sent => 10

/-- The name of a column in the header. -/
def name : Field → Text
  | timestamp => Text.lit "timeStamp"
  | elapsed => Text.lit "elapsed"
  | success => Text.lit "success"
  | received => Text.lit "bytes"
  | sent => Text.lit "sentBytes"

/-- What a column should hold. -/
def expected : Field → Text
  | success => Text.lit "boolean"
  | _ => Text.lit "integer"

/-- The number of binary digits of the integers of a column, the sign included. -/
def bits : Field → Nat
  | timestamp => 64
  | _ => 32

/-- Whether an integer is in the range of a column. -/
def inRange (f : Field) (n : Int) : Bool :=
  -Int.pow 2 (f.bits - 1) ≤ n && n < Int.pow 2 (f.bits - 1)

end Field

/-- A column that is missing or does not hold what it should. -/
structure FieldFault where
  lineNumber : Int
  field : Field
  value : Option Text
  deriving DecidableEq

/-- The words for a faulty column. -/
def FieldFault.message (e : FieldFault) : Text :=
  Text.lit "Line " ++ Text.ofInt e.lineNumber ++ Text.lit ": column "
    ++ Text.ofNat e.field.index ++ Text.lit " (" ++ e.field.name
    ++ Text.lit ") is not a valid " ++ e.field.expected ++ Text.lit ": "
    ++ match e.value with
      | none => Text.lit "<missing>"
      | some t => t.quoted

/-- Why a line gives no sample. -/
inductive LineFault
  | invalidField (e : FieldFault)
  | tooManyDigits (count : Nat)
  deriving DecidableEq

/-- The words for a line that gives no sample. -/
def LineFault.message : LineFault → Text
  | .invalidField e => e.message
  | .tooManyDigits count => (IntegerFault.tooManyDigits count).message

namespace Field

/-- The integer of a column among `columns`. -/
def readInt (f : Field) (lineNumber : Int) (columns : List Text) : Except LineFault Int :=
  let value := columns[f.index]?
  let invalid := LineFault.invalidField ⟨lineNumber, f, value⟩
  match value.bind Numeral.ofAscii? with
  | none => .error invalid
  | some n =>
    if maxDigits < n.digits.length then .error (.tooManyDigits n.digits.length)
    else if f.inRange n.value then .ok n.value
    else .error invalid

/-- The truth value that a text names, in any case of letters. -/
def truth? (t : Text) : Option Bool :=
  if t.asciiLower = Text.lit "true" then some true
  else if t.asciiLower = Text.lit "false" then some false
  else none

/-- The truth value of a column among `columns`. -/
def readBool (f : Field) (lineNumber : Int) (columns : List Text) : Except LineFault Bool :=
  let value := columns[f.index]?
  match value.bind truth? with
  | none => .error (.invalidField ⟨lineNumber, f, value⟩)
  | some b => .ok b

end Field

end PhaseSplit
