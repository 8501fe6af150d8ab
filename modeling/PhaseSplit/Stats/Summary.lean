import PhaseSplit.Json.Writer
import PhaseSplit.Stats.Percentile

/-!
# Summaries

The statistics of one phase, and the form in which they are written.

* `Summary` — counts, average, extremes, percentiles and rates;
* `Summary.entries` — the named entries, in the order in which they are written;
* `Summary.fileText` — the text of a summary file.
-/

namespace PhaseSplit

/-- The statistics of a phase. -/
structure Summary where
  count : Quantity
  errorCount : Quantity
  errorPercentage : Quantity
  average : Quantity
  least : Quantity
  greatest : Quantity
  percentiles : PercentileTable Quantity
  throughput : Quantity
  receivedRate : Quantity
  sentRate : Quantity

namespace Summary

/-- The summary of no samples. -/
def empty : Summary where
  count := .whole 0
  errorCount := .whole 0
  errorPercentage := .binary .zero
  average := .binary .zero
  least := .whole 0
  greatest := .whole 0
  percentiles := summaryPercentiles.map fun p => (p, .binary .zero)
  throughput := .binary .zero
  receivedRate := .binary .zero
  sentRate := .binary .zero

/-- The name under which a percentile is written. -/
def percentileName (p : Quantity) : Except RangeFault Text := do
  return Text.lit "percentile" ++ (← p.toBinary64).labelText

/-- Named quantities, in order. -/
abbrev Entries := List (Text × Quantity)

/-- The entries with a value under a name: in the place of an earlier one, else at the end. -/
def Entries.put (name : Text) (value : Quantity) : Entries → Entries
  | [] => [(name, value)]
  | (n, v) :: rest => if n = name then (n, value) :: rest else (n, v) :: Entries.put name value rest

/-- The entries before the percentiles. -/
def leadingEntries (s : Summary) : Entries :=
  [(Text.lit "count", s.count),
    (Text.lit "errorCount", s.errorCount),
    (Text.lit "errorPercentage", s.errorPercentage),
    (Text.lit "average", s.average),
    (Text.lit "min", s.least),
    (Text.lit "max", s.greatest)]

/-- The entries after the percentiles. -/
def trailingEntries (s : Summary) : Entries :=
  [(Text.lit "throughput", s.throughput),
    (Text.lit "receivedKBps", s.receivedRate),
    (Text.lit "sentKBps", s.sentRate)]

/-- The named entries, in the order in which they are written. -/
def entries (s : Summary) : Except RangeFault Entries := do
  let withPercentiles ← s.percentiles.foldlM (fun (entries : Entries) (p, value) => do
    return entries.put (← percentileName p) value) s.leadingEntries
  return s.trailingEntries.foldl (fun entries (name, value) => entries.put name value)
    withPercentiles

/-- The names of the entries of every phase summary. -/
def entryNames : List Text :=
  match empty.entries with
  | .ok entries => entries.map (·.1)
  | .error _ => []

end Summary

/-- A quantity as a JSON value. -/
def Quantity.toJson : Quantity → Json
  | .whole n => .int n
  | .binary x => .float x

/-- Entries as a JSON object. -/
def Summary.Entries.toJson (entries : Entries) : Json :=
  .object (entries.map fun (name, value) => (name, value.toJson))

/-- The indent of summary files. -/
def summaryIndent : Nat := 2

/-- The text of a summary file. -/
def Summary.fileText (indent : Option Nat) (s : Summary) : Except RangeFault Text := do
  return Text.ofChars (Json.write indent (← s.entries).toJson) ++ Text.lit "\n"

end PhaseSplit
