import Mathlib.Tactic
import PhaseSplit.Proofs.Text.Pieces
import PhaseSplit.Sample.Columns

/-!
# Where a line is cut

A line is cut at all of its commas or not at all.

* `cutColumns_eq_some_iff`: a line is cut when there is room for each of its commas;
* `splitColumns_eq_some_iff`, `splitColumns_eq_none_iff`, `splitColumns_of_lt`: the same in terms of
  a limit on the columns;
* `splitColumns_inverts_join`: the columns of a line are the only ones whose join is the line.
-/

namespace PhaseSplit

variable {room : Nat} {limit : Int} {line : Text} {columns : List Text}

/-- **A line is cut at all of its commas**, if there is room for them. -/
theorem cutColumns_eq_some_iff :
    cutColumns room line = some columns
      ↔ line.count comma ≤ room ∧ columns = Text.splitAt comma line := by
  induction line generalizing room columns with
  | nil => simp [cutColumns, Text.splitAt, eq_comm]
  | cons g line ih =>
    rw [cutColumns, Text.splitAt]
    by_cases hg : g = comma
    · subst hg
      rw [if_pos rfl, if_pos rfl, List.count_cons_self]
      cases room with
      | zero => simp
      | succ room => simp [ih, eq_comm]
    · rw [if_neg hg, if_neg hg, List.count_cons_of_ne hg, Option.map_eq_some_iff]
      simp only [ih]
      constructor
      · rintro ⟨_, ⟨hroom, rfl⟩, rfl⟩
        refine ⟨hroom, ?_⟩
        cases Text.splitAt comma line <;> rfl
      · rintro ⟨hroom, rfl⟩
        refine ⟨_, ⟨hroom, rfl⟩, ?_⟩
        cases Text.splitAt comma line <;> rfl

theorem cutColumns_eq_splitAt (h : cutColumns room line = some columns) :
    columns = Text.splitAt comma line :=
  (cutColumns_eq_some_iff.1 h).2

/-- Whatever the limit, one column is allowed. -/
theorem splitColumns_eq_some_iff :
    splitColumns limit line = some columns
      ↔ line.count comma < max limit 1 ∧ columns = Text.splitAt comma line := by
  unfold splitColumns
  rw [cutColumns_eq_some_iff]
  refine and_congr_left fun _ => ?_
  omega

/-- A line that is not cut has too many commas. -/
theorem splitColumns_eq_none_iff_max_le :
    splitColumns limit line = none ↔ max limit 1 ≤ line.count comma := by
  rw [Option.eq_none_iff_forall_ne_some]
  simp only [ne_eq, splitColumns_eq_some_iff]
  constructor
  · intro h
    exact Int.not_lt.1 fun hfew => h _ ⟨hfew, rfl⟩
  · rintro hmany _ ⟨hfew, -⟩
    exact absurd hfew (Int.not_lt.2 hmany)

/-- A line has too many columns when it has as many commas as there may be columns. -/
theorem splitColumns_eq_none_iff (hlimit : 1 ≤ limit) :
    splitColumns limit line = none ↔ limit ≤ line.count comma := by
  rw [splitColumns_eq_none_iff_max_le, max_eq_left hlimit]

theorem splitColumns_of_lt (h : line.count comma < limit) :
    splitColumns limit line = some (Text.splitAt comma line) :=
  splitColumns_eq_some_iff.2 ⟨h.trans_le (le_max_left _ _), rfl⟩

/-- **Cutting a line is the inverse of joining columns.**  A line is not cut exactly when it has as
many commas as there may be columns, one being allowed under every limit.  Else its columns are
texts without a comma, at least one, whose join is the line, and no other texts are. -/
theorem splitColumns_inverts_join (limit : Int) (line : Text) :
    (splitColumns limit line = none ↔ max limit 1 ≤ line.count comma)
      ∧ ∀ columns, splitColumns limit line = some columns
        ↔ line.count comma < max limit 1
          ∧ columns ≠ [] ∧ (∀ c ∈ columns, comma ∉ c) ∧ Text.join [comma] columns = line := by
  refine ⟨splitColumns_eq_none_iff_max_le, ?_⟩
  intro columns
  rw [splitColumns_eq_some_iff, eq_comm (a := columns), Text.splitAt_eq_iff]

/-- Empty columns at both ends of a line, and a line with one comma more than there is room for. -/
example : splitColumns 3 (Text.lit ",a,") = some [[], Text.lit "a", []]
    ∧ splitColumns 2 (Text.lit ",a,") = none
    ∧ splitColumns (-4) (Text.lit "a") = some [Text.lit "a"] := by
  decide

end PhaseSplit
