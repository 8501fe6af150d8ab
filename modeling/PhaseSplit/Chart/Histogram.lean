import PhaseSplit.Chart.Timeline

/-!
# Histograms

What the latencies of some samples must be for a histogram.  Texts are counted one by one, and
numbers in bins of equal width.  A mixture of the two is taken for what its first value is: for
numbers, as which its texts are read then, or for texts, among which there must be no number.

* `Histogram.check` — why there is no histogram of a column, if there is none.
-/

namespace PhaseSplit.Histogram

/-! ## Bins -/

/-- The number of bins. -/
def binCount : Nat := 50

/-- A whole number as a binary one. -/
def binaryOfNat (n : Nat) : Binary64 := .finite false (n * Binary64.one)

/-- Half of one. -/
def half : Binary64 := .finite false (Binary64.one / 2)

/-- The edges of the bins from `low` to `high`, two numbers that differ. -/
def edgesBetween (low high : Binary64) : List Binary64 :=
  let width := high.sub low
  let count := binaryOfNat binCount
  let step := width.div count
  let distance (k : Nat) : Binary64 :=
    if step.same .zero then ((binaryOfNat k).div count).mul width else (binaryOfNat k).mul step
  (List.range binCount).map (fun k => (distance k).add low) ++ [high]

/-- The edges of the bins from `low` to `high`. -/
def edges (low high : Binary64) : List Binary64 :=
  if low.same high then edgesBetween (low.sub half) (high.add half) else edgesBetween low high

/-- Whether every bin has an inside. -/
def isAscending (edges : List Binary64) : Bool :=
  (edges.zip (edges.drop 1)).all fun (x, y) => !(y.lt x || x.same y)

/-- The lesser of two numbers. -/
def lesser (x y : Binary64) : Binary64 := if y.lt x then y else x

/-- The greater of two numbers. -/
def greater (x y : Binary64) : Binary64 := if x.lt y then y else x

/-- Why some finite numbers cannot be counted in bins. -/
def checkNumbers : List Binary64 → Except ChartFault Unit
  | [] => .ok ()
  | x :: xs =>
    if isAscending (edges (xs.foldl lesser x) (xs.foldl greater x)) then .ok ()
    else .error (.noBins binCount)

/-! ## Mixtures -/

/-- Whether a text writes an integer that is in the range of no machine word. -/
def isTooWide (t : Text) : Bool :=
  Csv.readWhole Csv.leastSigned Csv.greatestUnsigned t = .outOfRange

/-- A text among numbers as a number; an empty one is missing. -/
def numberOfText (position : Nat) (t : Text) : Except ChartFault Binary64 :=
  match Csv.readBinary? t with
  | some x => if isTooWide t then .error (.integerTooWide position) else .ok x
  | none => if t = [] then .ok .nan else .error (.noNumber t position)

/-- The number of a value that stands at a position among others. -/
def numberAt (position : Nat) : Csv.CellValue → Except ChartFault Binary64
  | .text t => numberOfText position t
  | v => (Timeline.quantity v).toBinary64.mapError ChartFault.range

/-- The numbers of some values of which the first stands at a position. -/
def numbersFrom : (position : Nat) → List Csv.CellValue → Except ChartFault (List Binary64)
  | _, [] => .ok []
  | position, v :: values => do
    return (← numberAt position v) :: (← numbersFrom (position + 1) values)

/-- Whether a value is an infinity. -/
def isInfinite : Csv.CellValue → Bool
  | .number (.binary (.infinite _)) => true
  | _ => false

/-- Why there is no histogram of some values as numbers. -/
def checkAsNumbers (values : List Csv.CellValue) : Except ChartFault Unit := do
  let numbers ← numbersFrom 0 (values.filter (!isInfinite ·))
  checkNumbers (numbers.filter Binary64.isFinite)

/-- Why there is no histogram of some values as texts. -/
def checkAsTexts (values : List Csv.CellValue) : Except ChartFault Unit :=
  match values.find? (!Timeline.isText ·) with
  | some v => .error (.noPlace (Timeline.kindName v))
  | none => .ok ()

/-- Why there is no histogram of a column, if there is none. -/
def check (c : Csv.Column) : Except ChartFault Unit :=
  let values := Timeline.present c.values
  match values.find? (!isInfinite ·) with
  | some (.text _) => checkAsTexts values
  | _ => checkAsNumbers values

end PhaseSplit.Histogram
