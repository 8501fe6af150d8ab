import PhaseSplit.Number.Decimal
import PhaseSplit.Text.Integer

/-!
# Numbers in cells

Three readings of a number in a cell, with blanks around it allowed: as an integer of a machine
word, as an integer of any size, and as a binary number.

* `Csv.readWhole` — the reading as a machine word;
* `Csv.readInteger?` — the reading as an integer of any size;
* `Csv.readBinary?` — the nearest binary number.
-/

namespace PhaseSplit.Csv

/-- A character between a number and the ends of its cell. -/
def isCellBlank (g : Glyph) : Bool :=
  g = .char ' ' || g = .char '\t' || g = .char '\n' || g = .char '\x0b' || g = .char '\x0c'
    || g = .char '\r'

/-- The values of the ASCII digits at the start of a text, and what follows them. -/
def cellDigits : Text → List Nat × Text
  | [] => ([], [])
  | g :: t =>
    match g.asciiDigit? with
    | some d =>
      let (digits, rest) := cellDigits t
      (d :: digits, rest)
    | none => ([], g :: t)

/-! ## Integers -/

/-- What a cell is as an integer. -/
inductive WholeReading
  | value (n : Int)
  | outOfRange
  | notWhole
  deriving DecidableEq

/-- The integer of a cell between two bounds; what follows its digits decides before the bounds. -/
def readWhole (least greatest : Int) (cell : Text) : WholeReading :=
  let (negative, body) := Numeral.splitSign (cell.dropWhile isCellBlank)
  match cellDigits body with
  | ([], _) => .notWhole
  | (digits, rest) =>
    let size : Int := digitsValue digits
    let n := if negative then -size else size
    if !rest.all isCellBlank then .notWhole
    else if n < least || greatest < n then .outOfRange
    else .value n

/-- The integer of a cell, of any size that is converted; single underscores may stand between its
digits. -/
def readInteger? (cell : Text) : Option Int := do
  let (negative, body) := Numeral.splitSign (cell.dropWhile isCellBlank)
  let (digits, rest) ← Numeral.scanDigits Glyph.asciiDigit? false body
  if rest.all isCellBlank then (Numeral.toInt ⟨negative, digits⟩).toOption else none

/-! ## Binary numbers -/

/-- The digits after a point, and what follows them. -/
def fractionDigits : Text → List Nat × Text
  | .char '.' :: t => cellDigits t
  | t => ([], t)

/-- The exponent at the start of a text, and what follows it; a letter without digits is none. -/
def cellExponent (t : Text) : Option (Int × Text) :=
  match t with
  | .char c :: rest =>
    if c = 'e' || c = 'E' then
      let (negative, body) := Numeral.splitSign rest
      match cellDigits body with
      | ([], _) => none
      | (digits, rest) => some (Numeral.value ⟨negative, digits⟩, rest)
    else some (0, t)
  | _ => some (0, t)

/-- The number that the digits of a cell write. -/
def readDigits? (cell : Text) : Option Binary64 := do
  let (negative, body) := Numeral.splitSign (cell.dropWhile isCellBlank)
  let (whole, rest) := cellDigits body
  let (fraction, rest) := fractionDigits rest
  let digits := whole ++ fraction
  if digits = [] then none
  let (exponent, rest) ← cellExponent rest
  let d : Decimal := ⟨digitsValue digits, exponent - fraction.length⟩
  if rest.all isCellBlank then some (d.nearest negative digits.length) else none

/-- The words for infinities, in lower case. -/
def infinityWords : List (Text × Bool) :=
  [(Text.lit "inf", false), (Text.lit "+inf", false), (Text.lit "-inf", true),
    (Text.lit "infinity", false), (Text.lit "+infinity", false), (Text.lit "-infinity", true)]

/-- The number of a cell. -/
def readBinary? (cell : Text) : Option Binary64 :=
  match readDigits? cell with
  | some x => some x
  | none => (infinityWords.lookup cell.asciiLower).map .infinite

end PhaseSplit.Csv
