import Mathlib.Data.Int.Log
import Mathlib.Tactic
import PhaseSplit.Proofs.Number.Shortest
import PhaseSplit.Proofs.Number.Text

/-!
# Significant digits

A number in a name is rounded to a few significant digits.  The rounding is that of rational
numbers, and the decimal it gives has no zeros at its end, so two decimals are written alike exactly
when they are the same number.

* `roundEven`, `toSignificant`: rounding of rational numbers to whole numbers and to significant
  digits;
* `Decimal.leadingExponent_eq_log`: the exponent of the leading digit is a logarithm;
* `Decimal.IsReduced.eq_of_value_eq`: decimals without zeros at their end are one for each number;
* `Binary64.value_significant`, `Binary64.isReduced_significant`: the decimal of a binary number;
* `Binary64.decimalText_significant_inj`: what is written alike;
* `toSignificant_ne_of_apart`: numbers up to one hundred that six digits tell apart.
-/

namespace PhaseSplit

/-! ## Rounding of rational numbers -/

/-- A rational number rounded to the nearest whole number, in the middle to the even one. -/
def roundEven (v : ℚ) : ℤ :=
  if v - ⌊v⌋ < 1 / 2 then ⌊v⌋ else if 1 / 2 < v - ⌊v⌋ then ⌊v⌋ + 1 else ⌊v⌋ + ⌊v⌋ % 2

/-- A positive rational number rounded to `count` significant digits. -/
def toSignificant (count : Nat) (v : ℚ) : ℚ :=
  roundEven (v / 10 ^ (Int.log 10 v + 1 - count)) * 10 ^ (Int.log 10 v + 1 - count)

theorem abs_roundEven_sub_le (v : ℚ) : |(roundEven v : ℚ) - v| ≤ 1 / 2 := by
  have hlow := Int.floor_le v
  have hhigh := Int.lt_floor_add_one v
  unfold roundEven
  rw [abs_le]
  split
  · exact ⟨by linarith, by linarith⟩
  · split
    · push_cast
      exact ⟨by linarith, by linarith⟩
    · -- in the middle, where the remainder is zero or one
      rcases Int.emod_two_eq_zero_or_one ⌊v⌋ with heven | hodd
      · rw [heven, add_zero]
        exact ⟨by linarith, by linarith⟩
      · rw [hodd]
        push_cast
        exact ⟨by linarith, by linarith⟩

/-- A quotient of natural numbers is rounded as the rational number is. -/
theorem roundDiv_eq_roundEven (num : Nat) {den : Nat} (hden : 0 < den) :
    (roundDiv num den : ℤ) = roundEven ((num : ℚ) / den) := by
  have hpos : (0 : ℚ) < den := Nat.cast_pos.2 hden
  have hfloor : ⌊(num : ℚ) / den⌋ = ((num / den : Nat) : ℤ) :=
    Rat.floor_natCast_div_natCast num den
  have hrest : (num : ℚ) / den - ((num / den : Nat) : ℤ) = ((num % den : Nat) : ℚ) / den := by
    have hsplit : (num : ℚ) = den * (num / den : Nat) + (num % den : Nat) := by
      exact_mod_cast (Nat.div_add_mod num den).symm
    rw [eq_div_iff hpos.ne', sub_mul, div_mul_cancel₀ _ hpos.ne', Int.cast_natCast]
    linarith
  have hbelow : ((num % den : Nat) : ℚ) / den < 1 / 2 ↔ 2 * (num % den) < den := by
    rw [div_lt_iff₀ hpos, one_div_mul_eq_div, lt_div_iff₀ two_pos, mul_comm]
    exact_mod_cast Iff.rfl
  have habove : 1 / 2 < ((num % den : Nat) : ℚ) / den ↔ den < 2 * (num % den) := by
    rw [lt_div_iff₀ hpos, one_div_mul_eq_div, div_lt_iff₀ two_pos, mul_comm]
    exact_mod_cast Iff.rfl
  unfold roundEven roundDiv
  rw [hfloor, hrest]
  simp only [hbelow, habove]
  split
  · rfl
  · split
    · push_cast
      rfl
    · push_cast
      rfl

/-- Rounding moves a number by half a unit of its last digit at most. -/
theorem abs_toSignificant_sub_le (count : Nat) (v : ℚ) :
    |toSignificant count v - v| ≤ 10 ^ (Int.log 10 v + 1 - count) / 2 := by
  have hunit : (0 : ℚ) < 10 ^ (Int.log 10 v + 1 - count) := by positivity
  have hround := abs_roundEven_sub_le (v / 10 ^ (Int.log 10 v + 1 - count))
  unfold toSignificant
  generalize (10 : ℚ) ^ (Int.log 10 v + 1 - count) = unit at hunit hround ⊢
  have hscaled : (roundEven (v / unit) : ℚ) * unit - v
      = (roundEven (v / unit) - v / unit) * unit := by
    rw [sub_mul, div_mul_cancel₀ _ hunit.ne']
  rw [hscaled, abs_mul, abs_of_pos hunit]
  linarith [mul_le_mul_of_nonneg_right hround hunit.le]

/-- Before it is rounded, the whole number of the digits has `count` digits. -/
theorem scaled_bounds {v : ℚ} (hv : 0 < v) {count : Nat} (hcount : 0 < count) :
    1 ≤ v / 10 ^ (Int.log 10 v + 1 - count) ∧ v / 10 ^ (Int.log 10 v + 1 - count) < 10 ^ count := by
  have hlow := Int.zpow_log_le_self (b := 10) (by norm_num) hv
  have hhigh := Int.lt_zpow_succ_log_self (b := 10) (by norm_num) v
  rw [Nat.cast_ofNat] at hlow hhigh
  generalize Int.log 10 v = l at hlow hhigh ⊢
  have hunit : (0 : ℚ) < 10 ^ (l + 1 - count) := by positivity
  constructor
  · rw [one_le_div₀ hunit]
    exact (zpow_le_zpow_right₀ (by norm_num) (by omega)).trans hlow
  · rw [div_lt_iff₀ hunit, ← zpow_natCast, ← zpow_add₀ (by norm_num), add_sub_cancel]
    exact hhigh

/-! ## Decimals -/

namespace Decimal

variable {d d' : Decimal} {fuel : Nat}

/-- The number that a decimal is. -/
def value (d : Decimal) : ℚ := (d.num : ℚ) / d.den

/-- The coefficient does not end in zero. -/
def IsReduced (d : Decimal) : Prop := d.coefficient % 10 ≠ 0

theorem value_dropZeros (d : Decimal) (fuel : Nat) : (d.dropZeros fuel).value = d.value := by
  induction fuel generalizing d with
  | zero => rfl
  | succ fuel ih =>
    rw [dropZeros]
    split
    · next hzero =>
      rw [value, value, num_div_den, num_div_den, hzero, Nat.cast_zero, zero_mul, zero_mul]
    · split
      · next hten =>
        have hsplit : d.coefficient = d.coefficient / 10 * 10 := by omega
        rw [ih, value, value, num_div_den, num_div_den]
        dsimp only
        nth_rewrite 2 [hsplit]
        rw [zpow_add₀ (by norm_num), zpow_one, Nat.cast_mul, Nat.cast_ofNat]
        ring
      · rfl

/-- With enough fuel all zeros are dropped. -/
theorem isReduced_dropZeros (hd : d.coefficient ≠ 0) (hfuel : d.coefficient < 10 ^ fuel) :
    (d.dropZeros fuel).IsReduced := by
  induction fuel generalizing d with
  | zero =>
    rw [pow_zero] at hfuel
    omega
  | succ fuel ih =>
    rw [dropZeros, if_neg hd]
    split
    · next hten =>
      rw [pow_succ] at hfuel
      refine ih (d := ⟨d.coefficient / 10, d.exponent + 1⟩) ?_ ?_
      · show d.coefficient / 10 ≠ 0
        omega
      · show d.coefficient / 10 < 10 ^ fuel
        omega
    · next hten => exact hten

/-- Of two equal decimals, one that is reduced has no smaller exponent. -/
theorem IsReduced.exponent_le (hd : d.IsReduced) (h : d.value = d'.value) :
    d'.exponent ≤ d.exponent := by
  by_contra hlt
  rw [not_le] at hlt
  obtain ⟨k, hk⟩ : ∃ k : Nat, d'.exponent = d.exponent + (k + 1 : Nat) :=
    ⟨(d'.exponent - d.exponent - 1).toNat, by omega⟩
  rw [value, value, num_div_den, num_div_den, hk, zpow_add₀ (by norm_num), zpow_natCast,
    mul_comm ((10 : ℚ) ^ d.exponent), ← mul_assoc] at h
  have hunit : (10 : ℚ) ^ d.exponent ≠ 0 := by positivity
  have hcoefficient : d.coefficient = d'.coefficient * 10 ^ (k + 1) := by
    exact_mod_cast mul_right_cancel₀ hunit h
  apply hd
  rw [hcoefficient, pow_succ, ← Nat.mul_assoc, Nat.mul_mod_left]

/-- **Decimals without zeros at their end are one for each number.** -/
theorem IsReduced.eq_of_value_eq (hd : d.IsReduced) (hd' : d'.IsReduced)
    (h : d.value = d'.value) : d = d' := by
  have hexponent : d.exponent = d'.exponent :=
    le_antisymm (hd'.exponent_le h.symm) (hd.exponent_le h)
  have hunit : (10 : ℚ) ^ d'.exponent ≠ 0 := by positivity
  rw [value, value, num_div_den, num_div_den, hexponent] at h
  have hcoefficient : d.coefficient = d'.coefficient := by
    exact_mod_cast mul_right_cancel₀ hunit h
  cases d
  cases d'
  cases hexponent
  cases hcoefficient
  rfl

/-- A power of ten as a quotient of powers of ten with natural exponents. -/
theorem zpow_eq_div (e : Int) : (10 : ℚ) ^ e = 10 ^ e.toNat / 10 ^ (-e).toNat := by
  rw [← zpow_natCast, ← zpow_natCast, ← zpow_sub₀ (by norm_num)]
  congr 1
  omega

/-- **The exponent of the leading digit is a logarithm.** -/
theorem leadingExponent_eq_log {num den : Nat} (hnum : 0 < num) (hden : 0 < den) :
    leadingExponent num den = Int.log 10 ((num : ℚ) / den) := by
  have hdenq : (0 : ℚ) < den := Nat.cast_pos.2 hden
  have hpos : (0 : ℚ) < (num : ℚ) / den := div_pos (Nat.cast_pos.2 hnum) hdenq
  have hten : ∀ k : Nat, (0 : ℚ) < 10 ^ k := fun k => by positivity
  have hlow := pow_leadingExponent_le hnum hden
  have hhigh := lt_pow_leadingExponent hnum hden
  generalize leadingExponent num den = l at hlow hhigh ⊢
  refine le_antisymm ?_ (Int.lt_add_one_iff.1 ?_)
  · rw [← Int.zpow_le_iff_le_log (by norm_num) hpos, Nat.cast_ofNat, zpow_eq_div,
      div_le_div_iff₀ (hten _) hdenq, mul_comm]
    exact_mod_cast hlow
  · rw [← Int.lt_zpow_iff_log_lt (by norm_num) hpos, Nat.cast_ofNat, zpow_eq_div,
      div_lt_div_iff₀ hdenq (hten _), mul_comm (_ ^ _) (den : ℚ)]
    exact_mod_cast hhigh

end Decimal

/-! ## Binary numbers -/

namespace Binary64

variable {u v count : Nat}

attribute [local irreducible] one

theorem div_one_pos (hu : 0 < u) : (0 : ℚ) < (u : ℚ) / one :=
  div_pos (Nat.cast_pos.2 hu) (Nat.cast_pos.2 one_pos)

/-- The coefficient of the nearer decimal is a rounded quotient. -/
theorem coefficient_nearer (u : Nat) (e : Int) :
    ((nearer u e).coefficient : ℤ) = roundEven ((u : ℚ) / one / 10 ^ e) := by
  have hden : 0 < one * 10 ^ e.toNat := Nat.mul_pos one_pos (Nat.pow_pos (by decide))
  have hquotient : ((u * 10 ^ (-e).toNat : Nat) : ℚ) / (one * 10 ^ e.toNat : Nat)
      = (u : ℚ) / one / 10 ^ e := by
    rw [Decimal.zpow_eq_div, Nat.cast_mul, Nat.cast_mul, Nat.cast_pow, Nat.cast_pow, Nat.cast_ofNat,
      div_div_eq_mul_div, div_mul_eq_mul_div, div_div]
  rw [← hquotient, ← roundDiv_eq_roundEven _ hden]
  rfl

/-- **The significant digits of a binary number** are those of the rational number that it is. -/
theorem value_significant (hu : 0 < u) (count : Nat) :
    (significant u count).value = toSignificant count ((u : ℚ) / one) := by
  unfold significant
  rw [Decimal.value_dropZeros, Decimal.value, Decimal.num_div_den,
    Decimal.leadingExponent_eq_log hu one_pos]
  have hround := coefficient_nearer u (Int.log 10 ((u : ℚ) / one) + 1 - count)
  unfold toSignificant
  rw [← hround, Int.cast_natCast]
  rfl

/-- The decimal of some significant digits does not end in zero. -/
theorem isReduced_significant (hu : 0 < u) (hcount : 0 < count) :
    (significant u count).IsReduced := by
  obtain ⟨hlow, hhigh⟩ := scaled_bounds (div_one_pos hu) hcount
  unfold significant
  rw [Decimal.leadingExponent_eq_log hu one_pos]
  have hround := coefficient_nearer u (Int.log 10 ((u : ℚ) / one) + 1 - count)
  have hnear := abs_roundEven_sub_le ((u : ℚ) / one / 10 ^ (Int.log 10 ((u : ℚ) / one) + 1 - count))
  rw [← hround, abs_le, Int.cast_natCast] at hnear
  refine Decimal.isReduced_dropZeros ?_ ?_
  · intro hzero
    rw [hzero, Nat.cast_zero] at hnear
    linarith
  · have hroom : (10 : ℚ) ^ count + 1 ≤ 10 ^ (count + 1) := by
      have hone : (1 : ℚ) ≤ 10 ^ count := one_le_pow₀ (by norm_num)
      rw [pow_succ]
      linarith
    have hlt : ((nearer u (Int.log 10 ((u : ℚ) / one) + 1 - count)).coefficient : ℚ)
        < 10 ^ (count + 1) := by
      linarith
    exact_mod_cast hlt

/-- **What is written alike**: two binary numbers have the same digits in a text exactly when they
are the same number after rounding. -/
theorem decimalText_significant_inj (layout : NumberLayout) (hu : 0 < u) (hv : 0 < v)
    (hcount : 0 < count) :
    layout.decimalText (significant u count) = layout.decimalText (significant v count)
      ↔ toSignificant count ((u : ℚ) / one) = toSignificant count ((v : ℚ) / one) := by
  rw [← value_significant hu, ← value_significant hv]
  constructor
  · intro htext
    exact (writesUnsigned_decimalText layout _).unique (writesUnsigned_decimalText layout _) htext
  · intro hvalue
    rw [(isReduced_significant hu hcount).eq_of_value_eq (isReduced_significant hv hcount) hvalue]

end Binary64

/-! ## Numbers that are told apart -/

theorem toSignificant_hundred : toSignificant 6 100 = 100 := by
  have hlog : Int.log 10 (100 : ℚ) = 2 := by
    have hpower : (100 : ℚ) = ((10 : Nat) : ℚ) ^ (2 : Int) := by norm_num
    rw [hpower, Int.log_zpow (by norm_num)]
  unfold toSignificant roundEven
  rw [hlog]
  norm_num

/-- Six digits of a number up to one hundred are within half of a ten-thousandth of it. -/
theorem abs_toSignificant_six_sub_le {v : ℚ} (hv : 0 < v) (hle : v ≤ 100) :
    |toSignificant 6 v - v| ≤ 1 / 10 ^ 4 / 2 := by
  rcases hle.eq_or_lt with rfl | hlt
  · rw [toSignificant_hundred]
    norm_num
  · have hlog : Int.log 10 v < 2 := by
      rw [← Int.lt_zpow_iff_log_lt (by norm_num) hv]
      exact hlt.trans_eq (by norm_num)
    refine (abs_toSignificant_sub_le 6 v).trans ?_
    have hunit : (10 : ℚ) ^ (Int.log 10 v + 1 - (6 : Nat)) ≤ 10 ^ (-4 : Int) :=
      zpow_le_zpow_right₀ (by norm_num) (by omega)
    rw [zpow_neg] at hunit
    linarith

/-- **Six digits tell numbers apart** that are more than a ten-thousandth apart. -/
theorem toSignificant_ne_of_apart {v w : ℚ} (hv : 0 < v) (hv' : v ≤ 100) (hw : 0 < w)
    (hw' : w ≤ 100) (h : 1 / 10 ^ 4 < |v - w|) : toSignificant 6 v ≠ toSignificant 6 w := by
  intro heq
  have hleft := abs_toSignificant_six_sub_le hv hv'
  have hright := abs_toSignificant_six_sub_le hw hw'
  rw [heq, abs_sub_comm] at hleft
  have htriangle := abs_sub_le v (toSignificant 6 w) w
  linarith

end PhaseSplit
