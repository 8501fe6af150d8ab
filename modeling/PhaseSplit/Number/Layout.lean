import PhaseSplit.Number.Decimal
import PhaseSplit.Text.Glyph

/-!
# Written numbers

The text of a floating-point number.  Which exponents are written positionally and whether a
whole number keeps its point are decisions of a `NumberLayout`.

* `NumberLayout.measure` — the layout of measured values: every digit that matters;
* `NumberLayout.label` — the layout of percentiles in names: six digits at most;
* `Binary64.text`, `Binary64.labelText` — numbers in these layouts.
-/

namespace PhaseSplit

/-- Decisions on the text of a number. -/
structure NumberLayout where
  /-- The least exponent of a leading digit that is written positionally. -/
  least : Int
  /-- The least exponent from which on powers of ten are used. -/
  scientific : Int
  /-- Whether a whole number in positional form ends in a point and a zero. -/
  keepPoint : Bool

namespace NumberLayout

/-- Measured values are positional from a ten-thousandth up to ten to the sixteenth, and keep the
point. -/
def measure : NumberLayout := ⟨-4, 16, true⟩

/-- Percentiles in names are positional from a ten-thousandth up to a million, without an empty
fraction. -/
def label : NumberLayout := ⟨-4, 6, false⟩

/-- A power of ten with its sign and at least two digits. -/
def exponentText (e : Int) : List Char :=
  let digits := Nat.toDigits 10 e.natAbs
  (if e < 0 then '-' else '+') :: (if digits.length < 2 then '0' :: digits else digits)

/-- A decimal in positional form. -/
def positional (layout : NumberLayout) (digits : List Char) (exponent : Int) : List Char :=
  if 0 ≤ exponent then
    digits ++ List.replicate exponent.toNat '0' ++ (if layout.keepPoint then ['.', '0'] else [])
  else
    let places := (-exponent).toNat
    let padded := List.replicate (places + 1 - digits.length) '0' ++ digits
    padded.take (padded.length - places) ++ '.' :: padded.drop (padded.length - places)

/-- The text of a decimal. -/
def decimalText (layout : NumberLayout) (d : Decimal) : List Char :=
  let digits := Nat.toDigits 10 d.coefficient
  let leading := d.exponent + digits.length - 1
  if layout.least ≤ leading && leading < layout.scientific then
    layout.positional digits d.exponent
  else
    let mantissa :=
      match digits with
      | first :: second :: rest => first :: '.' :: second :: rest
      | one => one
    mantissa ++ 'e' :: exponentText leading

/-- The text of a number whose decimal digits `digits` finds. -/
def numberText (layout : NumberLayout) (digits : Nat → Decimal) : Binary64 → List Char
  | .nan => "nan".toList
  | .infinite s => if s then "-inf".toList else "inf".toList
  | .finite s u =>
    let d := if u = 0 then ⟨0, 0⟩ else digits u
    (if s then ['-'] else []) ++ layout.decimalText d

end NumberLayout

namespace Binary64

/-- The text of a measured value: the fewest digits that are read back as the same number. -/
def text (x : Binary64) : Text :=
  Text.ofChars (NumberLayout.measure.numberText shortest x)

/-- The number of digits of a percentile in a name. -/
def labelDigits : Nat := 6

/-- The text of a percentile in a name. -/
def labelText (x : Binary64) : Text :=
  Text.ofChars (NumberLayout.label.numberText (significant · labelDigits) x)

end Binary64

end PhaseSplit
