import Mathlib.Tactic
import PhaseSplit.Proofs.Except
import PhaseSplit.Settings

/-!
# Integers that have been read

An integer that has been read from a text has few enough digits to be written again.

* `digitsValue_lt`: what digits of any decimal system can write;
* `natAbs_lt_of_readInteger`: the integers that are read;
* `Settings.natAbs_precision_lt`: the precision that an environment sets.
-/

namespace PhaseSplit

/-! ## Digits -/

theorem foldl_digits_lt {digits : List Nat} (h : ∀ d ∈ digits, d < 10) (n : Nat) :
    digits.foldl (fun n d => 10 * n + d) n < (n + 1) * 10 ^ digits.length := by
  induction digits generalizing n with
  | nil => simp
  | cons d digits ih =>
    obtain ⟨hd, hdigits⟩ := List.forall_mem_cons.1 h
    rw [List.foldl_cons, List.length_cons]
    calc digits.foldl (fun n d => 10 * n + d) (10 * n + d)
        < (10 * n + d + 1) * 10 ^ digits.length := ih hdigits _
      _ ≤ (10 * (n + 1)) * 10 ^ digits.length := Nat.mul_le_mul_right _ (by omega)
      _ = (n + 1) * 10 ^ (digits.length + 1) := by ring

/-- Digits write a number below the power of ten of their count. -/
theorem digitsValue_lt {digits : List Nat} (h : ∀ d ∈ digits, d < 10) :
    digitsValue digits < 10 ^ digits.length := by
  have hbound := foldl_digits_lt h 0
  rwa [Nat.zero_add, Nat.one_mul] at hbound

theorem Glyph.lt_of_decimalDigit? {g : Glyph} {d : Nat} (h : g.decimalDigit? = some d) :
    d < 10 := by
  cases g with
  | char c =>
    obtain ⟨first, hfirst, rfl⟩ := Option.map_eq_some_iff.1 h
    have hrange := List.find?_some hfirst
    simp only [Bool.and_eq_true, decide_eq_true_eq] at hrange
    omega
  | raw b => cases h
  | half h' => cases h

/-- The digits that are scanned are digits. -/
theorem Numeral.scanDigits_forall {digit? : Glyph → Option Nat} {P : Nat → Prop}
    (hdigit : ∀ g d, digit? g = some d → P d) {after : Bool} {t rest : Text} {digits : List Nat}
    (h : scanDigits digit? after t = some (digits, rest)) : ∀ d ∈ digits, P d := by
  induction t generalizing after digits with
  | nil =>
    unfold scanDigits at h
    split at h <;> cases h
    simp
  | cons g t ih =>
    rw [scanDigits] at h
    split at h
    · next d hd =>
      obtain ⟨⟨digits', rest'⟩, hrest, heq⟩ := Option.map_eq_some_iff.1 h
      cases heq
      exact List.forall_mem_cons.2 ⟨hdigit g d hd, ih hrest⟩
    · split at h
      · split at h
        · exact ih h
        · cases h
          simp
      · cases h

/-! ## Numbers -/

/-- **An integer that has been read can be written.** -/
theorem natAbs_lt_of_readInteger {t : Text} {n : Int} (h : readInteger t = .ok n) :
    n.natAbs < 10 ^ maxDigits := by
  unfold readInteger at h
  dsimp only at h
  split at h
  · cases h
  · next digits rest hscan =>
    obtain ⟨value, hvalue, h⟩ := bind_eq_ok_iff.1 h
    split at h <;> cases h
    unfold Numeral.toInt at hvalue
    split at hvalue
    · cases hvalue
    · next hshort =>
      have hdigits := Numeral.scanDigits_forall (fun g d => Glyph.lt_of_decimalDigit?) hscan
      have hlt := digitsValue_lt hdigits
      have hle : 10 ^ digits.length ≤ 10 ^ maxDigits :=
        Nat.pow_le_pow_right (by decide) (Nat.not_lt.1 hshort)
      cases hvalue
      unfold Numeral.value
      dsimp only
      split
      · rw [Int.natAbs_neg, Int.natAbs_natCast]
        exact Nat.lt_of_lt_of_le hlt hle
      · rw [Int.natAbs_natCast]
        exact Nat.lt_of_lt_of_le hlt hle

/-- The precision that an environment sets can be written. -/
theorem Settings.natAbs_precision_lt {environment : Environment} {settings : Settings}
    (h : ofEnvironment environment = .ok settings) :
    settings.precision.natAbs < 10 ^ maxDigits := by
  unfold ofEnvironment at h
  dsimp only at h
  obtain ⟨precision, hprecision, h⟩ := bind_eq_ok_iff.1 h
  obtain ⟨interval, -, h⟩ := bind_eq_ok_iff.1 h
  cases h
  unfold integer at hprecision
  split at hprecision
  · cases hprecision
    have hshort : (2 : Int).natAbs < 10 ^ 1 := by decide
    exact Nat.lt_of_lt_of_le hshort (Nat.pow_le_pow_right (by decide) (by decide))
  · exact natAbs_lt_of_readInteger hprecision

end PhaseSplit
