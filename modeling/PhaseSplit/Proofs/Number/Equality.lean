import Mathlib.Tactic
import PhaseSplit.Proofs.Number.Magnitude
import PhaseSplit.Proofs.Number.Text

/-!
# Equal quantities

Whole and binary numbers are compared by value, and a quantity stands for the number that its text
writes, which for a binary number is a decimal near the value.  Percentages that are equal stand for
one number all the same.

* `Quantity.same_iff`: equality as equality of values;
* `Quantity.IsPercentage`: the quantities above zero and up to one hundred;
* `Quantity.rational?_of_sameInt`: a binary number that is a whole percentage;
* `Quantity.IsPercentage.eq_of_same`: equal percentages.
-/

namespace PhaseSplit

namespace Quantity

variable {p q : Quantity} {x y : Binary64} {n u : Int} {percent percent' : ℚ}

/-! ## Values -/

/-- The value of a quantity in steps of the binary numbers, if it is finite. -/
def steps? : Quantity → Option Int
  | whole n => some (n * Binary64.one)
  | binary x => x.signedSteps?

theorem sameInt_iff : x.sameInt n = true ↔ x.signedSteps? = some (n * Binary64.one) := by
  unfold Binary64.sameInt
  generalize (Binary64.one : Int) = one
  cases x.signedSteps? with
  | none => simp
  | some v => simp

theorem binary_same_iff (hy : y.signedSteps? = some u) :
    x.same y = true ↔ x.signedSteps? = some u := by
  cases y with
  | finite t v =>
    cases hy
    cases x with
    | finite s w =>
      rw [Binary64.same, Bool.and_eq_true, Bool.or_eq_true, beq_iff_eq, beq_iff_eq, beq_iff_eq,
        Binary64.signedSteps?, Option.some.injEq]
      cases s <;> cases t <;> simp <;> omega
    | infinite s => simp [Binary64.same, Binary64.signedSteps?]
    | nan => simp [Binary64.same, Binary64.signedSteps?]
  | infinite t => cases hy
  | nan => cases hy

/-- Quantities are the same when their values are. -/
theorem same_iff (hq : q.steps? = some u) : p.same q = true ↔ p.steps? = some u := by
  cases q with
  | whole n =>
    cases hq
    cases p with
    | whole m =>
      have hone : (Binary64.one : Int) ≠ 0 := Int.natCast_ne_zero.2 Binary64.one_pos.ne'
      rw [same, beq_iff_eq, steps?, Option.some.injEq, mul_left_inj' hone]
    | binary x => exact sameInt_iff
  | binary y =>
    cases p with
    | whole m =>
      have hy : y.signedSteps? = some u := hq
      rw [same, sameInt_iff, hy, steps?, Option.some.injEq, Option.some.injEq]
      exact eq_comm
    | binary x => exact binary_same_iff hq

/-! ## Percentages -/

/-- A quantity that stands for a number above zero and up to one hundred. -/
structure IsPercentage (p : Quantity) (percent : ℚ) : Prop where
  value : p.rational? = some percent
  pos : 0 < percent
  le : percent ≤ 100

theorem IsPercentage.exists_steps (h : p.IsPercentage percent) : ∃ u, p.steps? = some u := by
  obtain ⟨r, hratio, -⟩ := Option.map_eq_some_iff.1 h.value
  cases p with
  | whole n => exact ⟨_, rfl⟩
  | binary x =>
    cases x with
    | finite s u => exact ⟨_, rfl⟩
    | infinite s => cases hratio
    | nan => cases hratio

theorem rational?_whole (n : Int) : (whole n).rational? = some (n : ℚ) := by
  have hvalue : (whole n).rational? = some ((n : ℚ) / (1 : Nat)) := rfl
  rw [hvalue, Nat.cast_one, div_one]

theorem rational?_finite {s : Bool} {u : Nat} (hu : u ≠ 0) :
    (binary (.finite s u)).rational?
      = some (((if s then -((Binary64.shortest u).num : Int) else (Binary64.shortest u).num : Int)
        : ℚ) / (Binary64.shortest u).den) := by
  rw [rational?, ratio?]
  simp only [hu, if_false, Option.map_some]

theorem rational?_zero (s : Bool) : (binary (.finite s 0)).rational? = some 0 := by
  cases s <;> simp [rational?, ratio?, Decimal.num]

/-- The shortest decimals of the whole percentages are these themselves. -/
theorem num_shortest : ∀ n < 101, n ≠ 0 →
    (Binary64.shortest (n * Binary64.one)).num
      = n * (Binary64.shortest (n * Binary64.one)).den := by
  decide +kernel

/-- A binary number that is a whole percentage stands for it. -/
theorem rational?_of_sameInt (hpos : 0 < n) (hle : n ≤ 100) (h : x.sameInt n = true) :
    (binary x).rational? = some (n : ℚ) := by
  obtain ⟨n, rfl⟩ := Int.eq_ofNat_of_zero_le hpos.le
  have hne : n ≠ 0 := by omega
  have hsteps : 0 < n * Binary64.one := Nat.mul_pos (Nat.pos_of_ne_zero hne) Binary64.one_pos
  have hshortest := num_shortest n (by omega) hne
  rw [sameInt_iff, ← Int.natCast_mul] at h
  generalize n * Binary64.one = m at *
  cases x with
  | finite s u =>
    rw [Binary64.signedSteps?, Option.some.injEq] at h
    cases s with
    | true =>
      rw [if_pos rfl] at h
      omega
    | false =>
      rw [if_neg Bool.false_ne_true, Int.natCast_inj] at h
      subst h
      rw [rational?_finite hsteps.ne', if_neg Bool.false_ne_true]
      generalize Binary64.shortest u = d at *
      have hden : (d.den : ℚ) ≠ 0 := Nat.cast_ne_zero.2 d.den_pos.ne'
      rw [hshortest, Int.natCast_mul, Int.cast_mul, Int.cast_natCast, Int.cast_natCast,
        mul_div_cancel_right₀ _ hden]
  | infinite s => cases h
  | nan => cases h

/-- A whole percentage is one of the hundred. -/
theorem IsPercentage.of_whole (h : (whole n).IsPercentage percent) :
    percent = n ∧ 0 < n ∧ n ≤ 100 := by
  obtain ⟨hvalue, hpos, hle⟩ := h
  rw [rational?_whole, Option.some.injEq] at hvalue
  subst hvalue
  exact ⟨rfl, Int.cast_pos.1 hpos, by exact_mod_cast hle⟩

theorem eq_of_sameInt (hn : (whole n).IsPercentage percent)
    (hx : (binary x).IsPercentage percent') (h : x.sameInt n = true) : percent = percent' := by
  obtain ⟨rfl, hpos, hle⟩ := hn.of_whole
  have hvalue := hx.value
  rw [rational?_of_sameInt hpos hle h] at hvalue
  exact Option.some.inj hvalue

theorem eq_of_binary_same (hx : (binary x).IsPercentage percent)
    (hy : (binary y).IsPercentage percent') (h : x.same y = true) : percent = percent' := by
  obtain ⟨_, hxsteps⟩ := hx.exists_steps
  obtain ⟨_, hysteps⟩ := hy.exists_steps
  cases x with
  | finite s u =>
    cases y with
    | finite t v =>
      rw [Binary64.same, Bool.and_eq_true, Bool.or_eq_true, beq_iff_eq, beq_iff_eq,
        beq_iff_eq] at h
      obtain ⟨rfl, rfl | rfl⟩ := h
      · exact Option.some.inj (hx.value.symm.trans hy.value)
      · -- the two zeros are equal, and no percentages
        have hvalue := hx.value
        rw [rational?_zero] at hvalue
        cases hvalue
        exact absurd hx.pos (lt_irrefl _)
    | infinite t => cases hysteps
    | nan => cases hysteps
  | infinite s => cases hxsteps
  | nan => cases hxsteps

/-- **Equal percentages stand for one number.** -/
theorem IsPercentage.eq_of_same (hp : p.IsPercentage percent) (hq : q.IsPercentage percent')
    (h : p.same q = true) : percent = percent' := by
  cases p with
  | whole m =>
    cases q with
    | whole n =>
      rw [same, beq_iff_eq] at h
      rw [hp.of_whole.1, hq.of_whole.1, h]
    | binary y => exact eq_of_sameInt hp hq h
  | binary x =>
    cases q with
    | whole n => exact (eq_of_sameInt hq hp h).symm
    | binary y => exact eq_of_binary_same hp hq h

end Quantity

end PhaseSplit
