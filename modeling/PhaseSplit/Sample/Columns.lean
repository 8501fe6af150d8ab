import PhaseSplit.Text.Glyph

/-!
# Columns

A line is cut into columns at its commas.  A line with too many of them is not cut at all.

* `splitColumns` — the columns of a line.
-/

namespace PhaseSplit

/-- The comma between columns. -/
def comma : Glyph := .char ','

/-- The columns of a line, if `room` cuts suffice. -/
def cutColumns : (room : Nat) → Text → Option (List Text)
  | _, [] => some [[]]
  | room, g :: t =>
    if g = comma then
      if room = 0 then none else (cutColumns (room - 1) t).map ([] :: ·)
    else
      (cutColumns room t).map fun
        | [] => [[g]]
        | c :: cs => (g :: c) :: cs

/-- The number of columns of a sample line. -/
def defaultColumnLimit : Int := 16

/-- The columns of a line, if there are at most `limit` of them; one is always allowed. -/
def splitColumns (limit : Int) (line : Text) : Option (List Text) :=
  cutColumns (limit - 1).toNat line

end PhaseSplit
