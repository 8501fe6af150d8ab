import Mathlib.Tactic
import PhaseSplit.Number.Decimal
import PhaseSplit.Proofs.Number.Rounding

/-!
# The shortest decimal is read back

A finite number is written with as few digits as it takes to read it back.  Seventeen always
suffice: the decimal of seventeen digits next to a number is within one part in `2 * 10 ^ 16` of it,
and what is so close is rounded to the number.

* `Decimal.toBinary64_mul_ten_pow`, `Decimal.toBinary64_dropZeros`: zeros at the end of a
  coefficient do not matter;
* `Decimal.nearest_eq`: exponents that are not computed with leave no doubt about the result;
* `Decimal.pow_leadingExponent_le`, `Decimal.lt_pow_leadingExponent`: the exponent of the leading
  digit;
* `Binary64.toBinary64_nearer`: seventeen digits suffice;
* `Binary64.toBinary64_shortest`: the shortest decimal is read back as the number.
-/

namespace PhaseSplit

namespace Decimal

variable {s : Bool} {d : Decimal} {c k : Nat} {e : Int}

-- powers of ten are never written out
theorem ten_pow_eq (k : Nat) : Nat.pow 10 k = 10 ^ k := rfl

theorem den_pos (d : Decimal) : 0 < d.den := Nat.pow_pos (by decide)

/-! ## Zeros at the end -/

/-- Zeros at the end of a coefficient do not matter. -/
theorem toBinary64_mul_ten_pow (s : Bool) (c k : Nat) (e : Int) :
    (⟨c * 10 ^ k, e⟩ : Decimal).toBinary64 s = (⟨c, e + k⟩ : Decimal).toBinary64 s := by
  refine Binary64.ofRatio_congr (den_pos _) (den_pos _) ?_
  simp only [num, den, ten_pow_eq]
  have hexponents : k + e.toNat + (-(e + k)).toNat = (e + k).toNat + (-e).toNat := by omega
  calc c * 10 ^ k * 10 ^ e.toNat * 10 ^ (-(e + k)).toNat
      = c * 10 ^ (k + e.toNat + (-(e + k)).toNat) := by rw [pow_add, pow_add]; ring
    _ = c * 10 ^ (e + k).toNat * 10 ^ (-e).toNat := by rw [hexponents, pow_add]; ring

theorem toBinary64_dropZeros (hd : d.coefficient ≠ 0) (fuel : Nat) :
    (d.dropZeros fuel).toBinary64 s = d.toBinary64 s ∧ (d.dropZeros fuel).coefficient ≠ 0 := by
  induction fuel generalizing d with
  | zero => exact ⟨rfl, hd⟩
  | succ fuel ih =>
    rw [dropZeros, if_neg hd]
    split
    · next hzero =>
      have hsplit : d.coefficient / 10 * 10 = d.coefficient := by omega
      obtain ⟨hsame, hne⟩ := ih (d := ⟨d.coefficient / 10, d.exponent + 1⟩) (by
        show d.coefficient / 10 ≠ 0
        omega)
      refine ⟨hsame.trans ?_, hne⟩
      have hten := toBinary64_mul_ten_pow s (d.coefficient / 10) 1 d.exponent
      rw [pow_one, hsplit] at hten
      exact hten.symm
    · exact ⟨rfl, hd⟩

/-! ## Exponents that are not computed with -/

section

open Binary64

attribute [local irreducible] one limit

theorem two_pow_le_ten_pow {j : Nat} (h : j ≤ 3 * k) : 2 ^ j ≤ 10 ^ k := by
  calc 2 ^ j ≤ 2 ^ (3 * k) := Nat.pow_le_pow_right (by decide) h
    _ = (2 ^ 3) ^ k := pow_mul 2 3 k
    _ ≤ 10 ^ k := Nat.pow_le_pow_left (by decide) k

theorem toBinary64_of_eq_zero (s : Bool) (hd : d.coefficient = 0) :
    d.toBinary64 s = .finite s 0 := by
  have hzero : nearestSteps 0 d.den = 0 :=
    nearestSteps_eq_of_near (Nat.dvd_zero _) (den_pos d) (by omega) (by omega)
  have hnum : d.num = 0 := by rw [num, hd, Nat.zero_mul]
  unfold toBinary64 ofRatio ofSteps
  rw [hnum, Nat.zero_mul, hzero]
  exact if_pos limit_pos

/-- A decimal with a large exponent is out of range. -/
theorem toBinary64_of_large (s : Bool) (hd : d.coefficient ≠ 0)
    (he : (exponentBound : Int) < d.exponent) : d.toBinary64 s = .infinite s := by
  obtain ⟨m, hm⟩ : ∃ m, m = 1074 := ⟨_, rfl⟩
  obtain ⟨l, hl⟩ : ∃ l, l = 2098 := ⟨_, rfl⟩
  have hbound : exponentBound = 400 := rfl
  have hnum : 2 ^ 1024 ≤ d.num := by
    calc 2 ^ 1024 ≤ 10 ^ d.exponent.toNat := two_pow_le_ten_pow (by omega)
      _ ≤ d.num := Nat.le_mul_of_pos_left _ (Nat.pos_of_ne_zero hd)
  have hden : d.den = 1 := by
    have hexponent : (-d.exponent).toNat = 0 := by omega
    rw [den, hexponent]
  have hle : limit ≤ nearestSteps (d.num * one) d.den := by
    rw [limit_eq hl, hden]
    refine le_nearestSteps ?_
    have hsplit : l = 1024 + m := by omega
    rw [Nat.div_one, one_eq hm, hsplit, pow_add]
    exact Nat.mul_le_mul_right _ hnum
  unfold toBinary64 ofRatio ofSteps
  exact if_neg (Nat.not_lt.2 hle)

/-- A decimal with a small exponent is zero. -/
theorem toBinary64_of_small (s : Bool) {digits : Nat} (hd : d.coefficient < 10 ^ digits)
    (he : d.exponent < -((exponentBound + digits : Nat) : Int)) : d.toBinary64 s = .finite s 0 := by
  obtain ⟨m, hm⟩ : ∃ m, m = 1074 := ⟨_, rfl⟩
  obtain ⟨k, hk⟩ : ∃ k, k = 358 := ⟨_, rfl⟩
  have hbound : exponentBound = 400 := rfl
  have hnum : d.num = d.coefficient := by
    have hexponent : d.exponent.toNat = 0 := by omega
    rw [num, hexponent]
    exact Nat.mul_one _
  have hden : 10 ^ (digits + k) * 10 ≤ d.den := by
    rw [← pow_succ]
    exact Nat.pow_le_pow_right (by decide) (by omega)
  have hsteps : d.num * one < 10 ^ (digits + k) := by
    rw [hnum, one_eq hm, pow_add]
    exact Nat.mul_lt_mul_of_lt_of_le hd (two_pow_le_ten_pow (by omega)) (Nat.pow_pos (by decide))
  have hzero : nearestSteps (d.num * one) d.den = 0 := by
    generalize d.num * one = steps at hsteps ⊢
    generalize 10 ^ (digits + k) = bound at hsteps hden
    have hfloor : steps / d.den = 0 := Nat.div_eq_of_lt (by omega)
    have hunit : spacing 0 = 1 := rfl
    rw [nearestSteps_eq, hfloor, hunit, Nat.mul_one, Nat.mul_one]
    exact roundDiv_eq_of_near (by omega) (by omega)
  unfold toBinary64 ofRatio ofSteps
  rw [hzero]
  exact if_pos limit_pos

/-- **Exponents that are not computed with leave no doubt about the result.** -/
theorem nearest_eq (s : Bool) {digits : Nat} (hd : d.coefficient < 10 ^ digits) :
    nearest s digits d = d.toBinary64 s := by
  unfold nearest
  split
  · next hzero => exact (toBinary64_of_eq_zero s hzero).symm
  · next hne =>
    split
    · next hlarge => exact (toBinary64_of_large s hne hlarge).symm
    · split
      · next hsmall => exact (toBinary64_of_small s hd hsmall).symm
      · rfl

end

/-! ## The leading digit -/

theorem lt_ten_pow_digitCount (n : Nat) : n < 10 ^ digitCount n :=
  (Nat.length_toDigits_le_iff (by decide) Nat.length_toDigits_pos).1 (le_refl _)

theorem ten_pow_digitCount_le {n : Nat} (hn : n ≠ 0) : 10 ^ (digitCount n - 1) ≤ n := by
  by_contra hlt
  rw [Nat.not_le] at hlt
  have hpos : 0 < digitCount n - 1 := by
    rcases Nat.eq_zero_or_pos (digitCount n - 1) with hzero | hpos
    · rw [hzero, pow_zero] at hlt
      omega
    · exact hpos
  have hle : digitCount n ≤ digitCount n - 1 :=
    (Nat.length_toDigits_le_iff (by decide) hpos).2 hlt
  omega

/-- **The leading digit** of a positive quotient stands at the power of ten of its exponent or
above. -/
theorem pow_leadingExponent_le {num den : Nat} (hnum : 0 < num) (hden : 0 < den) :
    den * 10 ^ (leadingExponent num den).toNat ≤ num * 10 ^ (-leadingExponent num den).toNat := by
  unfold leadingExponent
  split
  · next hle =>
    have hne : num / den ≠ 0 := (Nat.div_pos hle hden).ne'
    have hcount := ten_pow_digitCount_le hne
    have hpos : 0 < digitCount (num / den) := Nat.length_toDigits_pos
    have hexponent : ((digitCount (num / den) : Int) - 1).toNat = digitCount (num / den) - 1 := by
      omega
    have hnegative : (-((digitCount (num / den) : Int) - 1)).toNat = 0 := by omega
    rw [hexponent, hnegative, pow_zero, Nat.mul_one]
    calc den * 10 ^ (digitCount (num / den) - 1) ≤ den * (num / den) := Nat.mul_le_mul_left _ hcount
      _ ≤ num := Nat.mul_div_le num den
  · dsimp only
    split
    · next hexact =>
      rw [Int.toNat_neg_natCast, pow_zero, Nat.mul_one, neg_neg, Int.toNat_natCast]
      exact hexact.ge
    · rw [Int.toNat_neg_natCast, pow_zero, Nat.mul_one, neg_neg, Int.toNat_natCast]
      have hcount := lt_ten_pow_digitCount (den / num)
      rw [Nat.div_lt_iff_lt_mul hnum, Nat.mul_comm] at hcount
      exact hcount.le

/-- The power of ten after that is above the quotient. -/
theorem lt_pow_leadingExponent {num den : Nat} (hnum : 0 < num) (hden : 0 < den) :
    num * 10 ^ (-(leadingExponent num den + 1)).toNat
      < den * 10 ^ (leadingExponent num den + 1).toNat := by
  unfold leadingExponent
  split
  · next hle =>
    have hcount := lt_ten_pow_digitCount (num / den)
    have hexponent : ((digitCount (num / den) : Int) - 1 + 1).toNat = digitCount (num / den) := by
      omega
    have hnegative : (-((digitCount (num / den) : Int) - 1 + 1)).toNat = 0 := by omega
    rw [Nat.div_lt_iff_lt_mul hden, Nat.mul_comm] at hcount
    rw [hexponent, hnegative, pow_zero, Nat.mul_one]
    exact hcount
  · next hlt =>
    dsimp only
    have hne : den / num ≠ 0 := (Nat.div_pos (Nat.not_le.1 hlt).le hnum).ne'
    have hcount := ten_pow_digitCount_le hne
    have hpos : 0 < digitCount (den / num) := Nat.length_toDigits_pos
    rw [Nat.le_div_iff_mul_le hnum, Nat.mul_comm] at hcount
    generalize digitCount (den / num) = k at hcount hpos ⊢
    split
    · next hexact =>
      have hexact : num * 10 ^ (k - 1) = den := hexact
      -- a quotient below one is not the power of ten with the exponent zero
      have htwo : k - 1 ≠ 0 := by
        intro hzero
        rw [hzero, pow_zero] at hexact
        omega
      have hexponent : (-((k - 1 : Nat) : Int) + 1).toNat = 0 := by omega
      have hnegative : (-(-((k - 1 : Nat) : Int) + 1)).toNat = k - 1 - 1 := by omega
      rw [hexponent, hnegative, pow_zero, Nat.mul_one, ← hexact]
      exact Nat.mul_lt_mul_of_pos_left (Nat.pow_lt_pow_right (by decide) (by omega)) hnum
    · next hexact =>
      have hexponent : (-(k : Int) + 1).toNat = 0 := by omega
      have hnegative : (-(-(k : Int) + 1)).toNat = k - 1 := by omega
      rw [hexponent, hnegative, pow_zero, Nat.mul_one]
      exact lt_of_le_of_ne hcount hexact

end Decimal

namespace Binary64

open Decimal

variable {u : Nat} {d : Decimal} {e : Int}

attribute [local irreducible] one limit

/-! ## Seventeen digits -/

theorem toBinary64_of_nearestSteps {s : Bool} (hlimit : u < limit)
    (h : nearestSteps (d.num * one) d.den = u) : d.toBinary64 s = finite s u := by
  unfold Decimal.toBinary64 ofRatio ofSteps
  rw [h]
  exact if_pos hlimit

/-- A decimal that is read as a positive number is read as the negative one with a sign. -/
theorem toBinary64_of_toBinary64_false (s : Bool) (h : d.toBinary64 false = finite false u) :
    d.toBinary64 s = finite s u := by
  unfold Decimal.toBinary64 ofRatio ofSteps at h ⊢
  dsimp only at h ⊢
  split at h
  · next hlimit =>
    rw [if_pos hlimit]
    injection h with _ hsteps
    rw [hsteps]
  · cases h

/-- Seventeen digits leave one part in `10 ^ 16` between neighbours. -/
theorem ten_pow_mul_le (hpos : 0 < u) (he : e = leadingExponent u one + 1 - (17 : Nat)) :
    10 ^ 16 * (one * 10 ^ e.toNat) ≤ u * 10 ^ (-e).toNat := by
  have hleading := pow_leadingExponent_le hpos one_pos
  generalize leadingExponent u one = l at he hleading
  have hexponents : 16 + e.toNat + (-l).toNat = l.toNat + (-e).toNat := by omega
  refine Nat.le_of_mul_le_mul_right ?_ (Nat.pow_pos (n := (-l).toNat) (show 0 < 10 by decide))
  calc 10 ^ 16 * (one * 10 ^ e.toNat) * 10 ^ (-l).toNat
      = one * 10 ^ (16 + e.toNat + (-l).toNat) := by rw [pow_add, pow_add]; ring
    _ = one * 10 ^ l.toNat * 10 ^ (-e).toNat := by rw [hexponents, pow_add, Nat.mul_assoc]
    _ ≤ u * 10 ^ (-l).toNat * 10 ^ (-e).toNat := Nat.mul_le_mul_right _ hleading
    _ = u * 10 ^ (-e).toNat * 10 ^ (-l).toNat := Nat.mul_right_comm _ _ _

/-- **Seventeen digits suffice** to read a number back. -/
theorem toBinary64_nearer (hu : Kept u) (hpos : 0 < u) (hlimit : u < limit)
    (he : e = leadingExponent u one + 1 - (17 : Nat)) :
    (nearer u e).toBinary64 false = finite false u := by
  have hdigits := ten_pow_mul_le hpos he
  have hunit : 0 < one * 10 ^ e.toNat := Nat.mul_pos one_pos (Nat.pow_pos (by decide))
  obtain ⟨hbelow, habove⟩ := roundDiv_near (u * 10 ^ (-e).toNat) hunit
  have hnum : (nearer u e).num * one
      = roundDiv (u * 10 ^ (-e).toNat) (one * 10 ^ e.toNat) * (one * 10 ^ e.toNat) := by
    simp only [num, nearer, ten_pow_eq]
    ring
  refine toBinary64_of_nearestSteps hlimit ?_
  rw [hnum]
  show nearestSteps _ (10 ^ (-e).toNat) = u
  generalize roundDiv (u * 10 ^ (-e).toNat) (one * 10 ^ e.toNat) * (one * 10 ^ e.toNat) = steps
    at hbelow habove ⊢
  refine nearestSteps_eq_of_near hu (Nat.pow_pos (by decide)) ?_ ?_
  · generalize u * 10 ^ (-e).toNat = w at *
    generalize one * 10 ^ e.toNat = unit at *
    omega
  · generalize u * 10 ^ (-e).toNat = w at *
    generalize one * 10 ^ e.toNat = unit at *
    omega

/-! ## The shortest decimal -/

/-- The nearer decimal is one of the two around a number. -/
theorem nearer_eq_or (u : Nat) (e : Int) :
    nearer u e = (neighbours u e).1 ∨ nearer u e = (neighbours u e).2 := by
  have hlow := div_le_roundDiv (u * Nat.pow 10 (-e).toNat) (one * Nat.pow 10 e.toNat)
  have hhigh := roundDiv_le (u * Nat.pow 10 (-e).toNat) (one * Nat.pow 10 e.toNat)
  unfold nearer neighbours
  dsimp only
  rw [Decimal.mk.injEq, Decimal.mk.injEq]
  omega

section

variable {good : Decimal → Bool} {around : Decimal × Decimal} {near : Decimal}

theorem good_of_choose? (hnear : near = around.1 ∨ near = around.2)
    (h : choose? good around near = some d) : good d = true := by
  unfold choose? at h
  split at h
  · next hbelow habove =>
    cases h
    rcases hnear with rfl | rfl
    · exact hbelow
    · exact habove
  · next hbelow _ =>
    cases h
    exact hbelow
  · next _ habove =>
    cases h
    exact habove
  · cases h

theorem exists_choose? (hnear : near = around.1 ∨ near = around.2) (hgood : good near = true) :
    ∃ d, choose? good around near = some d := by
  unfold choose?
  split
  · exact ⟨_, rfl⟩
  · exact ⟨_, rfl⟩
  · exact ⟨_, rfl⟩
  · next hbelow habove =>
    rcases hnear with rfl | rfl
    · rw [hgood] at hbelow
      cases hbelow
    · rw [hgood] at habove
      cases habove

end

theorem readBack?_eq (u count : Nat) :
    readBack? u count = choose? (fun d => d.toBinary64 false == finite false u)
      (neighbours u (leadingExponent u one + 1 - count))
      (nearer u (leadingExponent u one + 1 - count)) := rfl

/-- What is found is read back. -/
theorem toBinary64_of_readBack? {count : Nat} (h : readBack? u count = some d) :
    d.toBinary64 false = finite false u := by
  rw [readBack?_eq] at h
  exact eq_of_beq (good_of_choose? (nearer_eq_or u _) h)

/-- Among the decimals of seventeen digits one is found. -/
theorem exists_readBack? (hu : Kept u) (hpos : 0 < u) (hlimit : u < limit) :
    ∃ d, readBack? u 17 = some d := by
  rw [readBack?_eq]
  refine exists_choose? (nearer_eq_or u _) ?_
  rw [beq_iff_eq]
  exact toBinary64_nearer hu hpos hlimit rfl

theorem toBinary64_of_shortestReadBack? (h : shortestReadBack? u = some d) :
    d.toBinary64 false = finite false u := by
  obtain ⟨k, -, hk⟩ := List.exists_of_findSome?_eq_some h
  exact toBinary64_of_readBack? hk

theorem exists_shortestReadBack? (hu : Kept u) (hpos : 0 < u) (hlimit : u < limit) :
    ∃ d, shortestReadBack? u = some d := by
  obtain ⟨found, hfound⟩ : ∃ found, shortestReadBack? u = found := ⟨_, rfl⟩
  cases found with
  | some d => exact ⟨d, hfound⟩
  | none =>
    obtain ⟨d, hd⟩ := exists_readBack? hu hpos hlimit
    have hnone := List.findSome?_eq_none_iff.1 hfound 16 (List.mem_range.2 (by decide))
    rw [hd] at hnone
    cases hnone

/-- **The shortest decimal is read back as the number.** -/
theorem toBinary64_shortest (hu : Kept u) (hpos : 0 < u) (hlimit : u < limit) (s : Bool) :
    (shortest u).toBinary64 s = finite s u ∧ (shortest u).coefficient ≠ 0 := by
  obtain ⟨d, hd⟩ := exists_shortestReadBack? hu hpos hlimit
  have hread := toBinary64_of_shortestReadBack? hd
  have hne : d.coefficient ≠ 0 := by
    intro hzero
    rw [toBinary64_of_eq_zero false hzero] at hread
    injection hread with _ hsteps
    omega
  obtain ⟨hsame, hne'⟩ := toBinary64_dropZeros (s := s) hne maxSignificant
  rw [shortest, hd]
  exact ⟨hsame.trans (toBinary64_of_toBinary64_false s hread), hne'⟩

end Binary64

end PhaseSplit
