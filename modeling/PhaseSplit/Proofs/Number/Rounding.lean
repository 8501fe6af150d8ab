import Mathlib.Tactic
import PhaseSplit.Proofs.Number.Magnitude

/-!
# Rounded numbers

What rounding gives, and when it gives a certain number.  A rounded count of steps has at most 53
binary digits, so rounding keeps it; and a quotient that is close enough to such a count is rounded
to it.

* `roundDiv_eq_of_near`, `roundDiv_mul_left`: the nearest natural number to a quotient;
* `Binary64.Kept`, `Binary64.kept_nearestSteps`: counts of steps that rounding keeps;
* `Binary64.nearestSteps_eq_of_near`: what is within one part in `2 * 10 ^ 16` of such a count is
  rounded to it;
* `Binary64.IsNumber`: the numbers that arithmetic makes from numbers, and that arithmetic does make
  them.
-/

namespace PhaseSplit

/-! ## Quotients -/

/-- A natural number is the nearest to a quotient that is less than one half away. -/
theorem roundDiv_eq_of_near {num den q : Nat} (hlow : 2 * (q * den) < 2 * num + den)
    (hhigh : 2 * num < 2 * (q * den) + den) : roundDiv num den = q := by
  have hden : 0 < den := by omega
  have hsplit := Nat.div_add_mod num den
  have hmod := Nat.mod_lt num hden
  unfold roundDiv
  dsimp only
  rcases le_or_gt (q * den) num with hle | hlt
  · have hq : num / den = q := by
      rw [Nat.div_eq_iff hden]
      exact ⟨by omega, by omega⟩
    rw [hq, Nat.mul_comm den q] at hsplit
    rw [hq, if_pos (by omega)]
  · obtain ⟨p, rfl⟩ : ∃ p, q = p + 1 := by
      refine ⟨q - 1, ?_⟩
      have : q ≠ 0 := by
        rintro rfl
        omega
      omega
    rw [Nat.succ_mul p den] at hlow hhigh hlt
    have hp : num / den = p := by
      rw [Nat.div_eq_iff hden]
      exact ⟨by omega, by omega⟩
    rw [hp, Nat.mul_comm den p] at hsplit
    rw [hp, if_neg (by omega), if_pos (by omega)]

/-- The nearest natural number is at most one half away. -/
theorem roundDiv_near (num : Nat) {den : Nat} (hden : 0 < den) :
    2 * (roundDiv num den * den) ≤ 2 * num + den
      ∧ 2 * num ≤ 2 * (roundDiv num den * den) + den := by
  have hsplit := Nat.div_add_mod num den
  have hmod := Nat.mod_lt num hden
  rw [Nat.mul_comm] at hsplit
  unfold roundDiv
  dsimp only
  split
  · exact ⟨by omega, by omega⟩
  · split
    · rw [Nat.succ_mul (num / den)]
      exact ⟨by omega, by omega⟩
    · rcases Nat.mod_two_eq_zero_or_one (num / den) with heven | hodd
      · rw [heven, Nat.add_zero]
        exact ⟨by omega, by omega⟩
      · rw [hodd, Nat.succ_mul (num / den)]
        exact ⟨by omega, by omega⟩

theorem roundDiv_mul_left {k : Nat} (hk : 0 < k) (num den : Nat) :
    roundDiv (k * num) (k * den) = roundDiv num den := by
  unfold roundDiv
  dsimp only
  rw [Nat.mul_div_mul_left _ _ hk, Nat.mul_mod_mul_left, Nat.mul_left_comm 2 k]
  have hlt : ∀ a b, k * a < k * b ↔ a < b := fun a b => Nat.mul_lt_mul_left hk
  simp only [hlt]

namespace Binary64

variable {x y : Binary64} {u v num den : Nat} {s t : Bool} {n d : Int}

/-! ## Counts of steps that are kept -/

theorem spacing_eq (steps : Nat) : spacing steps = 2 ^ (steps.log2 + 1 - 53) := rfl

theorem spacing_pos (steps : Nat) : 0 < spacing steps := by
  rw [spacing_eq]
  exact Nat.pow_pos (by decide)

theorem spacing_dvd_spacing (h : u.log2 ≤ v.log2) : spacing u ∣ spacing v := by
  rw [spacing_eq, spacing_eq]
  exact Nat.pow_dvd_pow 2 (by omega)

/-- A number has fewer than `2 ^ 53` of the distances between its neighbours. -/
theorem lt_mul_spacing (steps : Nat) : steps < 2 ^ 53 * spacing steps := by
  calc steps < 2 ^ (steps.log2 + 1) := Nat.lt_log2_self
    _ ≤ 2 ^ (53 + (steps.log2 + 1 - 53)) := Nat.pow_le_pow_right (by decide) (by omega)
    _ = 2 ^ 53 * spacing steps := by rw [pow_add, spacing_eq]

/-- A count of steps that rounding keeps: a multiple of the distance between its neighbours. -/
def Kept (steps : Nat) : Prop := spacing steps ∣ steps

/-- A count of steps with at most 53 binary digits is kept. -/
theorem kept_mul_two_pow {m : Nat} (hm : m ≤ 2 ^ 53) (g : Nat) : Kept (m * 2 ^ g) := by
  rcases Nat.eq_or_lt_of_le hm with rfl | hlt
  · -- a power of two
    unfold Kept
    rw [spacing_eq, ← pow_add, Nat.log2_two_pow]
    exact Nat.pow_dvd_pow 2 (by omega)
  · refine (?_ : spacing (m * 2 ^ g) ∣ 2 ^ g).trans (Nat.dvd_mul_left _ _)
    rw [spacing_eq]
    refine Nat.pow_dvd_pow 2 ?_
    by_cases hzero : m * 2 ^ g = 0
    · rw [hzero]
      simp
    · have hlog : (m * 2 ^ g).log2 < 53 + g := by
        rw [Nat.log2_lt hzero, pow_add]
        exact Nat.mul_lt_mul_of_pos_right hlt (Nat.pow_pos (by decide))
      omega

/-- **What is rounded is kept.** -/
theorem kept_nearestSteps (num den : Nat) : Kept (nearestSteps num den) := by
  rw [nearestSteps_eq]
  have hround := roundDiv_le num (den * spacing (num / den))
  rw [← Nat.div_div_eq_div_mul] at hround
  have hdigits : num / den / spacing (num / den) < 2 ^ 53 := by
    rw [Nat.div_lt_iff_lt_mul (spacing_pos _)]
    exact lt_mul_spacing _
  rw [spacing_eq] at hround hdigits ⊢
  exact kept_mul_two_pow (hround.trans hdigits) _

/-- The next power of two is at least one neighbour away. -/
theorem Kept.add_spacing_le (h : Kept u) : u + spacing u ≤ 2 ^ (u.log2 + 1) := by
  obtain ⟨q, hq⟩ := h
  obtain ⟨p, hp⟩ : spacing u ∣ 2 ^ (u.log2 + 1) := by
    rw [spacing_eq]
    exact Nat.pow_dvd_pow 2 (by omega)
  have hlt : u < 2 ^ (u.log2 + 1) := Nat.lt_log2_self
  generalize spacing u = g at hq hp
  generalize 2 ^ (u.log2 + 1) = bound at hp hlt
  rw [hq, hp] at hlt
  have hqp : q + 1 ≤ p := Nat.lt_of_mul_lt_mul_left hlt
  calc u + g = g * (q + 1) := by rw [Nat.mul_succ, ← hq]
    _ ≤ g * p := Nat.mul_le_mul_left g hqp
    _ = bound := hp.symm

/-- The count next to a kept one stays below the next power of two. -/
theorem log2_div_le_of_near (hu : Kept u) (hden : 0 < den)
    (hhigh : 2 * 10 ^ 16 * num ≤ 2 * 10 ^ 16 * (u * den) + u * den) :
    (num / den).log2 ≤ u.log2 := by
  have hgap := spacing_pos u
  have hlt : u * den < 2 ^ 53 * (spacing u * den) := by
    rw [← Nat.mul_assoc]
    exact Nat.mul_lt_mul_of_pos_right (lt_mul_spacing u) hden
  have hdiv : num / den < u + spacing u := by
    rw [Nat.div_lt_iff_lt_mul hden, Nat.add_mul]
    have hpos : 0 < spacing u * den := Nat.mul_pos hgap hden
    generalize u * den = w at hhigh hlt ⊢
    generalize spacing u * den = gap at hlt hpos ⊢
    omega
  by_cases hzero : num / den = 0
  · rw [hzero]
    simp
  · exact Nat.le_of_lt_succ ((Nat.log2_lt hzero).2 (hdiv.trans_le hu.add_spacing_le))

/-- **Close quotients are rounded to a number.**  A count of steps that rounding keeps is the
nearest to each quotient that differs from it by at most one part in `2 * 10 ^ 16`. -/
theorem nearestSteps_eq_of_near (hu : Kept u) (hden : 0 < den)
    (hlow : 2 * 10 ^ 16 * (u * den) ≤ 2 * 10 ^ 16 * num + u * den)
    (hhigh : 2 * 10 ^ 16 * num ≤ 2 * 10 ^ 16 * (u * den) + u * den) :
    nearestSteps num den = u := by
  have hdvd : spacing (num / den) ∣ u :=
    (spacing_dvd_spacing (log2_div_le_of_near hu hden hhigh)).trans hu
  rw [nearestSteps_eq]
  -- the neighbours of the quotient are not too close together for `u`
  have hwide : u < 10 ^ 16 * spacing (num / den) := by
    have hfloor : num < 2 ^ 53 * spacing (num / den) * den := by
      rw [← Nat.div_lt_iff_lt_mul hden]
      exact lt_mul_spacing _
    by_contra hnarrow
    have hle : 10 ^ 16 * spacing (num / den) * den ≤ u * den :=
      Nat.mul_le_mul_right den (Nat.not_lt.1 hnarrow)
    rw [Nat.mul_assoc] at hfloor hle
    generalize spacing (num / den) * den = gap at hfloor hle
    generalize u * den = w at hlow hle
    omega
  obtain ⟨q, hq⟩ := hdvd
  have hpos := spacing_pos (num / den)
  generalize spacing (num / den) = gap at hq hwide hpos
  have hproduct : q * (den * gap) = u * den := by
    rw [hq]
    ring
  have hlt : u * den < 10 ^ 16 * (den * gap) := by
    rw [Nat.mul_comm den, ← Nat.mul_assoc]
    exact Nat.mul_lt_mul_of_pos_right hwide hden
  have hround : roundDiv num (den * gap) = q := by
    apply roundDiv_eq_of_near <;> rw [hproduct] <;> omega
  rw [hround, hq, Nat.mul_comm]

/-! ## Equal quotients -/

theorem nearestSteps_mul_left {k : Nat} (hk : 0 < k) (num den : Nat) :
    nearestSteps (k * num) (k * den) = nearestSteps num den := by
  rw [nearestSteps_eq, nearestSteps_eq, Nat.mul_div_mul_left _ _ hk, Nat.mul_assoc,
    roundDiv_mul_left hk]

/-- Equal quotients are rounded to the same number. -/
theorem nearestSteps_congr {num' den' : Nat} (hden : 0 < den) (hden' : 0 < den')
    (h : num * den' = num' * den) : nearestSteps num den = nearestSteps num' den' := by
  rw [← nearestSteps_mul_left hden' num den, ← nearestSteps_mul_left hden num' den',
    Nat.mul_comm den' num, h, Nat.mul_comm num' den, Nat.mul_comm den' den]

theorem ofRatio_congr {num' den' : Nat} (hden : 0 < den) (hden' : 0 < den')
    (h : num * den' = num' * den) : ofRatio s num den = ofRatio s num' den' := by
  have hone : num * one * den' = num' * one * den := by
    rw [Nat.mul_right_comm, h, Nat.mul_right_comm]
  unfold ofRatio ofSteps
  rw [nearestSteps_congr hden hden' hone]

/-! ## Numbers -/

attribute [local irreducible] one limit

theorem limit_pos : 0 < limit := by
  obtain ⟨e, he⟩ : ∃ e, e = 2098 := ⟨_, rfl⟩
  rw [limit_eq he]
  exact Nat.pow_pos (by decide)

/-- A number in the range of binary numbers and with their digits: an infinity, or a finite number
that rounding keeps. -/
inductive IsNumber : Binary64 → Prop
  | finite (s : Bool) (u : Nat) (hkept : Kept u) (hlimit : u < limit) : IsNumber (.finite s u)
  | infinite (s : Bool) : IsNumber (.infinite s)

theorem isNumber_ofSteps (s : Bool) (num den : Nat) : (ofSteps s num den).IsNumber := by
  unfold ofSteps
  dsimp only
  split
  · next hlimit => exact .finite s _ (kept_nearestSteps num den) hlimit
  · exact .infinite s

theorem isNumber_finite_zero (s : Bool) : (finite s 0).IsNumber :=
  .finite s 0 (Nat.dvd_zero _) limit_pos

theorem eq_of_orFault {e : RangeFault} (h : x.orFault e = .ok y) : x = y := by
  cases x <;> cases h
  rfl

theorem isNumber_ofInt (h : ofInt n = .ok x) : x.IsNumber := by
  rw [← eq_of_orFault h]
  exact isNumber_ofSteps _ _ _

theorem isNumber_ofQuotient (h : ofQuotient n d = .ok x) : x.IsNumber := by
  rw [← eq_of_orFault h]
  exact isNumber_ofSteps _ _ _

theorem isNumber_mul (s t : Bool) (u v : Nat) : ((finite s u).mul (finite t v)).IsNumber :=
  isNumber_ofSteps _ _ _

/-- A number divided by a finite one that is not zero is a number. -/
theorem isNumber_div (hx : x.IsNumber) (hv : v ≠ 0) : (x.div (finite t v)).IsNumber := by
  cases hx with
  | finite s u hkept hlimit =>
    rw [div_eq_ofSteps (Nat.pos_of_ne_zero hv)]
    exact isNumber_ofSteps _ _ _
  | infinite s => exact .infinite _

theorem isNumber_roundToPlaces {places : Int} (hx : x.IsNumber)
    (h : x.roundToPlaces places = .ok y) : y.IsNumber := by
  cases hx with
  | finite s u hkept hlimit =>
    unfold roundToPlaces at h
    dsimp only at h
    split at h
    · cases h
      exact .finite s u hkept hlimit
    · split at h
      · cases h
        exact isNumber_finite_zero s
      · rw [← eq_of_orFault h]
        exact isNumber_ofSteps _ _ _
  | infinite s =>
    cases h
    exact .infinite s

/-- A whole number of at most 53 binary digits is one of the binary numbers. -/
theorem ofInt_natCast {m : Nat} (hm : m ≤ 2 ^ 53) : ofInt m = .ok (finite false (m * one)) := by
  have hkept : Kept (m * one) := by
    obtain ⟨e, he⟩ : ∃ e, e = 1074 := ⟨_, rfl⟩
    rw [one_eq he]
    exact kept_mul_two_pow hm e
  have hsteps : nearestSteps (m * one) 1 = m * one :=
    nearestSteps_eq_of_near hkept Nat.one_pos (by omega) (by omega)
  have hlimit : m * one < limit :=
    (mul_one_lt (hm.trans_lt (show 2 ^ 53 < 2 ^ 54 by decide))).trans_le
      (two_pow_mul_one_le_limit (by decide))
  have hsign : decide ((m : Int) < 0) = false := decide_eq_false (by omega)
  unfold ofInt ofRatio ofSteps
  rw [Int.natAbs_natCast, hsteps, hsign]
  dsimp only
  rw [if_pos hlimit]
  rfl

/-- The binary number of an integer is finite, and zero only for zero. -/
theorem exists_of_ofInt (h : ofInt n = .ok x) : ∃ s u, x = finite s u ∧ (n ≠ 0 → u ≠ 0) := by
  rw [← eq_of_orFault h]
  unfold ofInt at h
  unfold ofRatio ofSteps at h ⊢
  dsimp only at h ⊢
  split at h
  · next hlimit =>
    rw [if_pos hlimit]
    refine ⟨_, _, rfl, ?_⟩
    intro hn
    obtain ⟨e, he⟩ : ∃ e, e = 1074 := ⟨_, rfl⟩
    have hle : 2 ^ e ≤ n.natAbs * one / 1 := by
      rw [Nat.div_one, one_eq he]
      exact Nat.le_mul_of_pos_left _ (Int.natAbs_pos.2 hn)
    have hpos : 0 < 2 ^ e := Nat.pow_pos (by decide)
    exact (hpos.trans_le (le_nearestSteps hle)).ne'
  · cases h

/-- An integer with a binary number is not too large. -/
theorem natAbs_lt_of_ofInt (h : ofInt n = .ok x) : n.natAbs < 2 ^ 1024 := by
  by_contra hlarge
  obtain ⟨e, he⟩ : ∃ e, e = 1074 := ⟨_, rfl⟩
  obtain ⟨m, hm⟩ : ∃ m, m = 2098 := ⟨_, rfl⟩
  have hle : 2 ^ m ≤ n.natAbs * one / 1 := by
    rw [Nat.div_one, one_eq he]
    have hsplit : m = 1024 + e := by omega
    rw [hsplit, pow_add]
    exact Nat.mul_le_mul_right _ (Nat.not_lt.1 hlarge)
  have hlimit : limit ≤ nearestSteps (n.natAbs * one) 1 := by
    rw [limit_eq hm]
    exact le_nearestSteps hle
  unfold ofInt ofRatio ofSteps at h
  dsimp only at h
  rw [if_neg (Nat.not_lt.2 hlimit)] at h
  cases h

end Binary64

end PhaseSplit
