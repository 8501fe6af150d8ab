import PhaseSplit.Number.Layout

/-!
# Quantities

A quantity is a whole number of any size or a binary number; which of the two it is shows when it
is written.

* `Quantity.toBinary64` — a quantity as a binary number;
* `Quantity.same`, `Quantity.before` — equality and order of values, whichever kind they are;
* `Quantity.ratio?` — the exact value that the text of a quantity writes.
-/

namespace PhaseSplit

/-- A whole number or a binary number. -/
inductive Quantity
  | whole (n : Int)
  | binary (x : Binary64)
  deriving DecidableEq

namespace Quantity

/-- A quantity as a binary number. -/
def toBinary64 : Quantity → Except RangeFault Binary64
  | whole n => Binary64.ofInt n
  | binary x => .ok x

/-- Whether two quantities have the same value. -/
def same : Quantity → Quantity → Bool
  | whole m, whole n => m == n
  | whole m, binary y => y.sameInt m
  | binary x, whole n => x.sameInt n
  | binary x, binary y => x.same y

/-- Whether a quantity is below another. -/
def before : Quantity → Quantity → Bool
  | whole m, whole n => m < n
  | whole m, binary y => y.aboveInt m
  | binary x, whole n => x.belowInt n
  | binary x, binary y => x.lt y

/-- Whether a quantity is zero or below. -/
def nonPositive : Quantity → Bool
  | whole n => n ≤ 0
  | binary x => x.lt .zero || x.same .zero

/-- The text of a quantity. -/
def text : Quantity → Text
  | whole n => Text.ofInt n
  | binary x => x.text

/-- The numerator and the denominator of the value that the text of a quantity writes. -/
def ratio? : Quantity → Option (Int × Nat)
  | whole n => some (n, 1)
  | binary (.finite s u) =>
    let d := if u = 0 then ⟨0, 0⟩ else Binary64.shortest u
    some (if s then -(d.num : Int) else d.num, d.den)
  | binary _ => none

end Quantity

end PhaseSplit
