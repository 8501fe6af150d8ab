import Mathlib.Tactic
import PhaseSplit.Number.Quantity
import PhaseSplit.Proofs.Except

/-!
# The size of numbers

How far arithmetic can go before it leaves the range of finite numbers.  A size is a power of two: a
number lies below `2 ^ k`, or it is no closer to zero than `2 ^ (-j)`.  Rounding at most doubles a
number and keeps it above every power of two below it, so every operation moves these bounds by a
known amount, and the range ends at `2 ^ 1024`.

* `Binary64.Below`, `Binary64.AtLeast`: the bounds;
* `Binary64.nearestSteps_lt`, `Binary64.le_nearestSteps`: what rounding does to them;
* `Binary64.below_mul`, `Binary64.below_div`, `Binary64.atLeast_div`: what arithmetic does to them;
* `Binary64.gives_ofInt`, `Binary64.gives_ofQuotient`, `Binary64.gives_roundToPlaces`: operations
  that are refused beyond range have a result within these bounds.
-/

namespace PhaseSplit

/-! ## Rounding a quotient -/

theorem div_le_roundDiv (num den : Nat) : num / den ≤ roundDiv num den := by
  unfold roundDiv
  dsimp only
  split
  · exact le_refl _
  · split <;> omega

theorem roundDiv_le (num den : Nat) : roundDiv num den ≤ num / den + 1 := by
  unfold roundDiv
  dsimp only
  split
  · omega
  · split
    · exact le_refl _
    · omega

namespace Binary64

variable {x y : Binary64} {num den i j k l : Nat} {n d : Int}

-- The exponents stay variables: no step may try to write out a power of a thousand digits.
theorem one_eq {e : Nat} (he : e = 1074) : one = 2 ^ e := by
  unfold one
  rw [← he]
  exact Nat.pow_eq

theorem limit_eq {e : Nat} (he : e = 2098) : limit = 2 ^ e := by
  unfold limit
  rw [← he]
  exact Nat.pow_eq

theorem one_pos : 0 < one := by
  obtain ⟨e, he⟩ : ∃ e, e = 1074 := ⟨_, rfl⟩
  rw [one_eq he]
  exact Nat.pow_pos (by decide)

attribute [local irreducible] one limit

theorem two_pow_mul_one_pos (k : Nat) : 0 < 2 ^ k * one :=
  Nat.mul_pos (Nat.pow_pos (by decide)) one_pos

/-- The range of finite numbers ends at `2 ^ 1024`. -/
theorem two_pow_mul_one_le_limit (hk : k ≤ 1024) : 2 ^ k * one ≤ limit := by
  obtain ⟨e, he⟩ : ∃ e, e = 1074 := ⟨_, rfl⟩
  obtain ⟨m, hm⟩ : ∃ m, m = 2098 := ⟨_, rfl⟩
  rw [one_eq he, limit_eq hm, ← pow_add]
  exact Nat.pow_le_pow_right (by decide) (by omega)

theorem two_pow_succ_mul_one (k : Nat) : 2 ^ (k + 1) * one = 2 * (2 ^ k * one) := by
  rw [pow_succ', Nat.mul_assoc]

/-- Neighbours are no farther apart than their distance from zero. -/
theorem spacing_le (steps : Nat) : spacing steps ≤ steps + 1 := by
  have hspacing : spacing steps = 2 ^ (steps.log2 + 1 - 53) := rfl
  rcases Nat.eq_zero_or_pos steps with rfl | hpos
  · simp [hspacing]
  · have hlog : 2 ^ steps.log2 ≤ steps := Nat.log2_self_le (by omega)
    have hpow : 2 ^ (steps.log2 + 1 - 53) ≤ 2 ^ steps.log2 :=
      Nat.pow_le_pow_right (by decide) (by omega)
    omega

theorem nearestSteps_eq (num den : Nat) :
    nearestSteps num den
      = roundDiv num (den * spacing (num / den)) * spacing (num / den) := rfl

/-- Rounding at most doubles. -/
theorem nearestSteps_le (num den : Nat) : nearestSteps num den ≤ 2 * (num / den) + 1 := by
  rw [nearestSteps_eq]
  generalize hgap : spacing (num / den) = gap
  have hround := roundDiv_le num (den * gap)
  rw [← Nat.div_div_eq_div_mul] at hround
  have hle : gap ≤ num / den + 1 := hgap ▸ spacing_le (num / den)
  calc roundDiv num (den * gap) * gap
      ≤ (num / den / gap + 1) * gap := Nat.mul_le_mul_right gap hround
    _ = num / den / gap * gap + gap := Nat.succ_mul _ _
    _ ≤ num / den + (num / den + 1) := Nat.add_le_add (Nat.div_mul_le_self _ _) hle
    _ = 2 * (num / den) + 1 := by omega

theorem nearestSteps_lt (h : num / den < 2 ^ k * one) :
    nearestSteps num den < 2 ^ (k + 1) * one := by
  have hle := nearestSteps_le num den
  rw [two_pow_succ_mul_one]
  generalize 2 ^ k * one = bound at h
  omega

/-- Rounding keeps a number above the powers of two below it. -/
theorem le_nearestSteps (h : 2 ^ j ≤ num / den) : 2 ^ j ≤ nearestSteps num den := by
  rw [nearestSteps_eq]
  have hne : num / den ≠ 0 := by
    have := Nat.pow_pos (n := j) (show 0 < 2 by decide)
    omega
  have hj : j ≤ (num / den).log2 := (Nat.le_log2 hne).2 h
  have hlog : 2 ^ (num / den).log2 ≤ num / den := Nat.log2_self_le hne
  have hspacing : spacing (num / den) = 2 ^ ((num / den).log2 + 1 - 53) := rfl
  generalize (num / den).log2 = l at hj hlog hspacing
  have hdvd : spacing (num / den) ∣ 2 ^ l := by
    rw [hspacing]
    exact Nat.pow_dvd_pow 2 (by omega)
  have hround := div_le_roundDiv num (den * spacing (num / den))
  rw [← Nat.div_div_eq_div_mul] at hround
  calc 2 ^ j ≤ 2 ^ l := Nat.pow_le_pow_right (by decide) hj
    _ = 2 ^ l / spacing (num / den) * spacing (num / den) := (Nat.div_mul_cancel hdvd).symm
    _ ≤ num / den / spacing (num / den) * spacing (num / den) :=
        Nat.mul_le_mul_right _ (Nat.div_le_div_right hlog)
    _ ≤ roundDiv num (den * spacing (num / den)) * spacing (num / den) :=
        Nat.mul_le_mul_right _ hround

/-! ## Bounds -/

/-- A finite number below `2 ^ k`, whatever its sign. -/
inductive Below (k : Nat) : Binary64 → Prop
  | finite (s : Bool) (u : Nat) (h : u < 2 ^ k * one) : Below k (.finite s u)

/-- A finite number no closer to zero than `2 ^ (-j)`. -/
inductive AtLeast (j : Nat) : Binary64 → Prop
  | finite (s : Bool) (u : Nat) (h : one ≤ 2 ^ j * u) : AtLeast j (.finite s u)

theorem Below.mono (h : x.Below k) (hkl : k ≤ l) : x.Below l := by
  obtain ⟨s, u, hu⟩ := h
  exact .finite s u (hu.trans_le (Nat.mul_le_mul_right _ (Nat.pow_le_pow_right (by decide) hkl)))

theorem Below.orFault (h : x.Below k) (e : RangeFault) : x.orFault e = .ok x := by
  obtain ⟨s, u, -⟩ := h
  rfl

theorem Below.isFinite (h : x.Below k) : x.isFinite = true := by
  obtain ⟨s, u, -⟩ := h
  rfl

theorem below_zero (k : Nat) : zero.Below k := .finite false 0 (two_pow_mul_one_pos k)

theorem ofSteps_eq_finite (s : Bool) (h : num / den < 2 ^ k * one) (hk : k < 1024) :
    ofSteps s num den = finite s (nearestSteps num den) := by
  have hlimit : nearestSteps num den < limit :=
    (nearestSteps_lt h).trans_le (two_pow_mul_one_le_limit hk)
  unfold ofSteps
  dsimp only
  rw [if_pos hlimit]

theorem below_ofSteps (s : Bool) (h : num / den < 2 ^ k * one) (hk : k < 1024) :
    (ofSteps s num den).Below (k + 1) := by
  rw [ofSteps_eq_finite s h hk]
  exact .finite s _ (nearestSteps_lt h)

theorem atLeast_ofSteps (s : Bool) (hlow : one ≤ 2 ^ j * (num / den)) (hj : j ≤ 1074)
    (h : num / den < 2 ^ k * one) (hk : k < 1024) : (ofSteps s num den).AtLeast j := by
  rw [ofSteps_eq_finite s h hk]
  refine .finite s _ ?_
  obtain ⟨e, he⟩ : ∃ e, j + e = 1074 := ⟨1074 - j, by omega⟩
  rw [one_eq he, pow_add] at hlow ⊢
  have hquot : 2 ^ e ≤ num / den := Nat.le_of_mul_le_mul_left hlow (Nat.pow_pos (by decide))
  exact Nat.mul_le_mul_left _ (le_nearestSteps hquot)

/-! ## Arithmetic -/

theorem below_mul (hx : x.Below k) (hy : y.Below l) (hkl : k + l < 1024) :
    (x.mul y).Below (k + l + 1) := by
  obtain ⟨s, u, hu⟩ := hx
  obtain ⟨t, v, hv⟩ := hy
  have hprod : u * v / one < 2 ^ (k + l) * one := by
    rw [Nat.div_lt_iff_lt_mul one_pos]
    calc u * v < 2 ^ k * one * (2 ^ l * one) := Nat.mul_lt_mul'' hu hv
      _ = 2 ^ (k + l) * one * one := by rw [pow_add, Nat.mul_mul_mul_comm, ← Nat.mul_assoc]
  exact below_ofSteps _ hprod hkl

theorem pos_of_one_le {v : Nat} (hv : one ≤ 2 ^ j * v) : 0 < v := by
  rcases Nat.eq_zero_or_pos v with rfl | hpos
  · exact absurd (one_pos.trans_le hv) (by simp)
  · exact hpos

theorem div_eq_ofSteps {s t : Bool} {u v : Nat} (hv : 0 < v) :
    (finite s u).div (finite t v) = ofSteps (s != t) (u * one) v :=
  if_neg (by omega)

theorem mul_one_div_lt {u v : Nat} (hu : u < 2 ^ k * one) (hv : one ≤ 2 ^ j * v) :
    u * one / v < 2 ^ (k + j) * one := by
  have hpos := pos_of_one_le hv
  rw [Nat.div_lt_iff_lt_mul hpos]
  calc u * one ≤ u * (2 ^ j * v) := Nat.mul_le_mul_left _ hv
    _ < 2 ^ k * one * (2 ^ j * v) :=
        Nat.mul_lt_mul_of_pos_right hu (Nat.mul_pos (Nat.pow_pos (by decide)) hpos)
    _ = 2 ^ (k + j) * one * v := by
        rw [pow_add, ← Nat.mul_assoc, Nat.mul_right_comm (2 ^ k)]

theorem below_div (hx : x.Below k) (hy : y.AtLeast j) (hkj : k + j < 1024) :
    (x.div y).Below (k + j + 1) := by
  obtain ⟨s, u, hu⟩ := hx
  obtain ⟨t, v, hv⟩ := hy
  rw [div_eq_ofSteps (pos_of_one_le hv)]
  exact below_ofSteps _ (mul_one_div_lt hu hv) hkj

theorem atLeast_div (hx : x.Below k) (hx' : x.AtLeast i) (hy : y.AtLeast j) (hy' : y.Below l)
    (hkj : k + j < 1024) (hil : i + l ≤ 1074) : (x.div y).AtLeast (i + l) := by
  obtain ⟨s, u, hu⟩ := hx
  obtain ⟨_, _, hu'⟩ := hx'
  obtain ⟨t, v, hv⟩ := hy
  obtain ⟨_, _, hv'⟩ := hy'
  have hpos := pos_of_one_le hv
  rw [div_eq_ofSteps hpos]
  refine atLeast_ofSteps _ ?_ hil (mul_one_div_lt hu hv) hkj
  obtain ⟨e, he⟩ : ∃ e, i + l + e = 1074 := ⟨1074 - (i + l), by omega⟩
  have hone : 2 ^ (i + l) * 2 ^ e = one := by rw [one_eq he, ← pow_add]
  have hquot : 2 ^ e ≤ u * one / v := by
    rw [Nat.le_div_iff_mul_le hpos]
    refine Nat.le_of_mul_le_mul_left ?_ (Nat.pow_pos (n := i + l) (show 0 < 2 by decide))
    calc 2 ^ (i + l) * (2 ^ e * v) = one * v := by rw [← Nat.mul_assoc, hone]
      _ ≤ 2 ^ i * u * (2 ^ l * one) := Nat.mul_le_mul hu' hv'.le
      _ = 2 ^ (i + l) * (u * one) := by rw [pow_add, Nat.mul_mul_mul_comm]
  calc one = 2 ^ (i + l) * 2 ^ e := hone.symm
    _ ≤ 2 ^ (i + l) * (u * one / v) := Nat.mul_le_mul_left _ hquot

/-! ## Integers -/

theorem mul_one_lt (hk : num < 2 ^ k) : num * one < 2 ^ k * one :=
  Nat.mul_lt_mul_of_pos_right hk one_pos

theorem below_ofRatio (s : Bool) (hnum : num < 2 ^ k) (hk : k < 1024) :
    (ofRatio s num den).Below (k + 1) :=
  below_ofSteps s ((Nat.div_le_self _ _).trans_lt (mul_one_lt hnum)) hk

theorem atLeast_ofRatio_one (s : Bool) (hpos : 0 < num) (hnum : num < 2 ^ k) (hk : k < 1024) :
    (ofRatio s num 1).AtLeast 0 := by
  refine atLeast_ofSteps s ?_ (Nat.zero_le _)
    ((Nat.div_le_self _ _).trans_lt (mul_one_lt hnum)) hk
  rw [Nat.div_one, pow_zero, Nat.one_mul]
  exact Nat.le_mul_of_pos_left _ hpos

theorem gives_ofInt (hn : n.natAbs < 2 ^ k) (hk : k < 1024) :
    Gives (ofInt n) fun x => x.Below (k + 1) ∧ (n ≠ 0 → x.AtLeast 0) := by
  have hbelow : (ofRatio (n < 0) n.natAbs 1).Below (k + 1) := below_ofRatio _ hn hk
  refine ⟨_, hbelow.orFault _, hbelow, ?_⟩
  intro hne
  exact atLeast_ofRatio_one _ (Int.natAbs_pos.2 hne) hn hk

theorem gives_ofQuotient (hn : n.natAbs < 2 ^ k) (hk : k < 1024) :
    Gives (ofQuotient n d) (Below (k + 1)) := by
  have hbelow : (ofRatio ((n < 0) != (d < 0)) n.natAbs d.natAbs).Below (k + 1) :=
    below_ofRatio _ hn hk
  exact ⟨_, hbelow.orFault _, hbelow⟩

/-! ## Decimal rounding -/

/-- **Rounding to decimal places has a result** well within range: it adds less than one. -/
theorem gives_roundToPlaces {places : Int} (hx : x.Below k) (hplaces : 0 ≤ places)
    (hk : k + 1 < 1024) : Gives (x.roundToPlaces places) (Below (k + 2)) := by
  obtain ⟨s, u, hu⟩ := hx
  have hmin : ¬places < minPlaces := by
    have : minPlaces = -308 := rfl
    omega
  have hdown : (-places).toNat = 0 := by omega
  unfold roundToPlaces
  by_cases hmax : maxPlaces < places
  · refine ⟨finite s u, by simp only [hmax, if_true], ?_⟩
    exact (Below.finite s u hu).mono (Nat.le_add_right k 2)
  · simp only [hmax, hmin, if_false, hdown]
    have hup : 0 < Nat.pow 10 places.toNat := Nat.pow_pos (by decide)
    generalize Nat.pow 10 places.toNat = up at hup
    have hunit : Nat.pow 10 0 = 1 := rfl
    rw [hunit, Nat.mul_one, Nat.mul_one]
    have hsteps : roundDiv (u * up) one * one / up < 2 ^ (k + 1) * one := by
      rw [Nat.div_lt_iff_lt_mul hup]
      calc roundDiv (u * up) one * one ≤ (u * up / one + 1) * one :=
            Nat.mul_le_mul_right _ (roundDiv_le _ _)
        _ = u * up / one * one + one := Nat.succ_mul _ _
        _ ≤ u * up + one := Nat.add_le_add_right (Nat.div_mul_le_self _ _) _
        _ ≤ u * up + 2 ^ k * one * up := Nat.add_le_add_left
            ((Nat.le_mul_of_pos_left _ (Nat.pow_pos (by decide))).trans
              (Nat.le_mul_of_pos_right _ hup)) _
        _ = (u + 2 ^ k * one) * up := (Nat.add_mul _ _ _).symm
        _ < 2 ^ (k + 1) * one * up := by
            refine Nat.mul_lt_mul_of_pos_right ?_ hup
            rw [two_pow_succ_mul_one]
            omega
    have hbelow : (ofRatio s (roundDiv (u * up) one) up).Below (k + 2) :=
      below_ofSteps s hsteps hk
    exact ⟨_, hbelow.orFault _, hbelow⟩

end Binary64

end PhaseSplit
