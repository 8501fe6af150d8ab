import Mathlib.Tactic
import PhaseSplit.Text.Glyph

/-!
# The order of texts

Texts are ordered as the lists of their codes are, so lists of texts can be sorted.

* `Text.codes`: the codes of a text;
* `Text.before_iff`, `Text.notAfter_iff`: the order by code;
* `Text.pairwise_mergeSort_notAfter`: a list of texts in order.
-/

namespace PhaseSplit.Text

variable {s t : Text}

/-- The codes of a text, by which it is ordered. -/
def codes (t : Text) : List Nat := t.map Glyph.code

/-- **A text is before another** when its codes are. -/
theorem before_iff : s.before t = true ↔ s.codes < t.codes := by
  induction s generalizing t with
  | nil => cases t <;> simp [before, codes]
  | cons g s ih =>
    cases t with
    | nil => simp [before, codes]
    | cons h t =>
      unfold codes at ih ⊢
      rw [before, List.map_cons, List.map_cons, List.cons_lt_cons_iff, Bool.or_eq_true,
        Bool.and_eq_true, decide_eq_true_iff, beq_iff_eq, ih]

theorem before_self (t : Text) : t.before t = false := by
  rw [Bool.eq_false_iff, ne_eq, before_iff]
  exact lt_irrefl _

theorem notAfter_iff : notAfter s t = true ↔ s.codes ≤ t.codes := by
  unfold notAfter
  rw [Bool.not_eq_true', Bool.eq_false_iff, ne_eq, before_iff, not_lt]

/-- A sorted list of texts is in the order by code. -/
theorem pairwise_mergeSort_notAfter (texts : List Text) :
    (texts.mergeSort notAfter).Pairwise fun s t => s.codes ≤ t.codes := by
  refine (List.pairwise_mergeSort ?_ ?_ texts).imp fun h => notAfter_iff.1 h
  · intro a b c hab hbc
    rw [notAfter_iff] at hab hbc ⊢
    exact hab.trans hbc
  · intro a b
    rw [Bool.or_eq_true, notAfter_iff, notAfter_iff]
    exact le_total _ _

end PhaseSplit.Text
