import PhaseSplit.Number.Quantity

/-!
# Percentiles

The percentile of a list of values is one of the values, found by its rank and never interpolated.
The rank is computed on exact fractions, so that 99.9 percent of 1000 values is rank 999.

* `nearestRank` — the rank of a percentile among a number of values;
* `percentileValues` — the values of several percentiles.
-/

namespace PhaseSplit

/-- The least integer not below `n / d`. -/
def ceilDiv (n : Int) (d : Nat) : Int := -(-n / (d : Int))

/-- The rank, from 1, of the percentile `num / den` among `count` values in ascending order: the
least rank that has at least that part of the values at or below it, within the values there are. -/
def rankOf (num : Int) (den : Nat) (count : Int) : Int :=
  min (max (ceilDiv (num * count) (100 * den)) 1) count

/-- The rank of a percentile among `count` values. -/
def nearestRank (p : Quantity) (count : Int) : Int :=
  match p.ratio? with
  | some (num, den) => rankOf num den count
  | none => min 1 count

/-- The values of percentiles, in the order in which the percentiles were first named. -/
abbrev PercentileTable (α : Type) := List (Quantity × α)

/-- The table with a value for a percentile: in the place of an equal one, else at the end. -/
def PercentileTable.put {α : Type} (p : Quantity) (a : α) : PercentileTable α → PercentileTable α
  | [] => [(p, a)]
  | (q, b) :: rest =>
    if q.same p then (q, a) :: rest else (q, b) :: PercentileTable.put p a rest

/-- The percentiles of every phase summary. -/
def summaryPercentiles : List Quantity :=
  [.whole 50, .whole 75, .whole 90, .whole 95, .whole 99,
    .binary ((Decimal.mk 999 (-1)).toBinary64 false)]

/-- Why a list of values has no percentiles. -/
inductive PercentileFault
  | valueTooLarge
  | range (e : RangeFault)
  deriving DecidableEq

/-- The words for missing percentiles. -/
def PercentileFault.message : PercentileFault → String
  | .valueTooLarge => "Python int too large to convert to C long"
  | .range e => e.message

/-- Whether an integer has a place in the arrays that are sorted. -/
def fitsInt64 (n : Int) : Bool := -Int.pow 2 63 ≤ n && n < Int.pow 2 63

/-- The element of rank `nearestRank p n` of `n` values in ascending order. -/
def atPercentile (ordered : Array Int) (p : Quantity) : Option Int :=
  ordered[(nearestRank p ordered.size - 1).toNat]?

/-- The value of a percentile of values in ascending order, zero if there are no values. -/
def percentileValue (ordered : Array Int) (p : Quantity) : Except PercentileFault Binary64 :=
  match atPercentile ordered p with
  | none => .ok .zero
  | some v => (Binary64.ofInt v).mapError .range

/-- The value of each percentile. -/
def percentileValues (values : List Int) (percentiles : List Quantity) :
    Except PercentileFault (PercentileTable Binary64) :=
  if values.all fitsInt64 then
    let ordered := (values.mergeSort (· ≤ ·)).toArray
    percentiles.foldlM (fun table p => table.put p <$> percentileValue ordered p) []
  else .error .valueTooLarge

end PhaseSplit
