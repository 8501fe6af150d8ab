import PhaseSplit.Chart.Samples

/-!
# Timelines

The points of a timeline: for every sample the seconds since the first one, and its latency.  The
first sample is the one with the least time, whatever its row.  Integers of a machine word are
subtracted as words.  Where the column of the times or that of the latencies has a kind, a sample
without a finite number in it is a point without a place.

* `Timeline.ofSamples` — the points by phase, and the time at which the warmup ends.
-/

namespace PhaseSplit

/-- The points of a timeline by phase, and the time at which the warmup ends, if there is one. -/
structure Timeline where
  points : List (Phase × List TimelinePoint)
  boundary : Option Binary64
  deriving DecidableEq

namespace Timeline

/-! ## Order of times -/

/-- The quantity of a value, a truth value being zero or one. -/
def quantity? : Csv.CellValue → Option Quantity
  | .number q => some q
  | .flag b => some (.whole (if b then 1 else 0))
  | .text _ => none
  | .missing => none

/-- The quantity of a value, no number where it has none. -/
def quantity (v : Csv.CellValue) : Quantity := (quantity? v).getD (.binary .nan)

/-- The word for the kind of a value. -/
def kindName : Csv.CellValue → String
  | .number (.whole _) => "int"
  | .number (.binary _) => "float"
  | .flag _ => "bool"
  | .text _ => "str"
  | .missing => "float"

/-- Whether `x` comes before `y`, if the two can be compared. -/
def before? : Csv.CellValue → Csv.CellValue → Option Bool
  | .text s, .text t => some (s.before t)
  | x, y => do return (← quantity? x).before (← quantity? y)

/-- The least of some values that come after `x`. -/
def leastFrom : Csv.CellValue → List Csv.CellValue → Except ChartFault Csv.CellValue
  | x, [] => .ok x
  | x, y :: ys =>
    match before? y x with
    | some isBefore => leastFrom (if isBefore then y else x) ys
    | none => .error (.incomparable (kindName x) (kindName y))

/-- The values that are not missing. -/
def present (values : List Csv.CellValue) : List Csv.CellValue := values.filter (· ≠ .missing)

/-- The least of some values, of which the missing ones do not count. -/
def least (values : List Csv.CellValue) : Except ChartFault Csv.CellValue :=
  match present values with
  | [] => .ok .missing
  | v :: vs => leastFrom v vs

/-- The greater of two values, the first if they cannot be compared. -/
def greater (x y : Csv.CellValue) : Csv.CellValue := if before? x y = some true then y else x

/-- The greatest of some values, of which the missing ones do not count. -/
def greatest (values : List Csv.CellValue) : Csv.CellValue :=
  match present values with
  | [] => .missing
  | v :: vs => vs.foldl greater v

/-! ## Seconds -/

/-- The number of values of a machine word. -/
def wordCount : Nat := Nat.pow 2 64

/-- The milliseconds in a second. -/
def millis : Binary64 := .finite false (1000 * Binary64.one)

/-- The difference of two quantities in a column of this kind. -/
def difference (kind : Csv.ColumnKind) (x y : Quantity) : Except RangeFault Binary64 :=
  match kind, x, y with
  | .signedWords, .whole m, .whole n => Binary64.ofInt ((m - n).bmod wordCount)
  | .unsignedWords, .whole m, .whole n => Binary64.ofInt ((m - n) % wordCount)
  | _, .whole m, .whole n => Binary64.ofInt (m - n)
  | _, x, y => return (← x.toBinary64).sub (← y.toBinary64)

/-- Whether a value is a text. -/
def isText : Csv.CellValue → Bool
  | .text _ => true
  | _ => false

/-- The seconds from `start` to some times of a column of this kind.  Truth values and texts have no
difference, and between a text and missing times it is no number. -/
def seconds (kind : Csv.ColumnKind) (start : Csv.CellValue) (times : List Csv.CellValue) :
    Except ChartFault (List Binary64) :=
  if kind = .flags then .error .noFlagDifference
  else if isText start then
    if times.any isText then .error (.noDifference "str" "str")
    else .ok (times.map fun _ => .nan)
  else
    times.mapM fun time =>
      match difference kind (quantity time) (quantity start) with
      | .ok d => .ok (d.div millis)
      | .error e => .error (.range e)

/-! ## Latencies -/

/-- The heights of some latencies, after the texts that have a height already.  Texts stand at
their number in the order in which they first occur. -/
def heights (texts : List Text) : List Csv.CellValue → Except ChartFault (List Binary64 × List Text)
  | [] => .ok ([], texts)
  | v :: values => do
    let texts :=
      match v with
      | .text t => if texts.contains t then texts else texts ++ [t]
      | _ => texts
    let place :=
      match v with
      | .text t => Quantity.whole (texts.idxOf t)
      | v => quantity v
    let height ← place.toBinary64.mapError ChartFault.range
    let (rest, texts) ← heights texts values
    return (height :: rest, texts)

/-- The heights of the latencies of a phase; a missing one among texts has none. -/
def phaseHeights (texts : List Text) (values : List Csv.CellValue) :
    Except ChartFault (List Binary64 × List Text) :=
  if values.any isText && values.contains .missing then .error (.noPlace (kindName .missing))
  else heights texts values

/-! ## Points -/

/-- Whether a number of a column of this kind takes its point off the timeline: in a mixture none
does. -/
def isOff (kind : Csv.ColumnKind) (x : Binary64) : Bool := kind ≠ .mixed && !x.isFinite

/-- The point of two numbers; it has no place if one of them is off. -/
def point (s : ChartSamples) (x y : Binary64) : TimelinePoint :=
  if isOff s.times.kind x || isOff s.latencies.kind y then (.nan, .nan) else (x, y)

/-- The rows of a phase: time and latency. -/
def rowsOf (s : ChartSamples) (phase : Phase) : List (Csv.CellValue × Csv.CellValue) :=
  ((s.phases.zip (s.times.values.zip s.latencies.values)).filter (·.1 = phase)).map (·.2)

/-- The points of some phases, after the texts that have a height already. -/
def pointsFrom (s : ChartSamples) (start : Csv.CellValue) :
    (texts : List Text) → List Phase → Except ChartFault (List (Phase × List TimelinePoint))
  | _, [] => .ok []
  | texts, phase :: phases => do
    let rows := rowsOf s phase
    let xs ← seconds s.times.kind start (rows.map (·.1))
    let (ys, texts) ← phaseHeights texts (rows.map (·.2))
    let rest ← pointsFrom s start texts phases
    return (phase, List.zipWith (point s) xs ys) :: rest

/-- The time at which the warmup ends, if there is a warmup. -/
def boundary? (s : ChartSamples) (start : Csv.CellValue) : Except ChartFault (Option Binary64) :=
  match rowsOf s .warmup with
  | [] => .ok none
  | rows => (seconds s.times.kind start [greatest (rows.map (·.1))]).map (·.head?)

/-- The timeline of some samples. -/
def ofSamples (s : ChartSamples) : Except ChartFault Timeline := do
  let start ← least s.times.values
  let points ← pointsFrom s start [] s.phasesPresent
  return ⟨points, ← boundary? s start⟩

end Timeline

end PhaseSplit
