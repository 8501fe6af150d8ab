import Mathlib.Tactic
import PhaseSplit.Number.Quantity
import PhaseSplit.Proofs.Json.Numbers
import PhaseSplit.Proofs.Text.Numeral

/-!
# The number that a text writes

The text of a quantity writes a rational number: digits with a point or none, after a sign or none,
and before a power of ten or none.  For a binary number it is not the number itself, but a decimal
near it.

* `Text.WritesDecimal`: the texts that write a rational number, without the functions that write
  them;
* `writesUnsigned_decimalText`: the text of a decimal;
* `Quantity.rational?`, `Quantity.writesDecimal_of_rational?`: the number that a quantity stands for
  is the one that its text writes.
-/

namespace PhaseSplit

open Json

/-- The numbers that digits write, with a point among them or none. -/
inductive WritesPositional : List Char → ℚ → Prop
  | whole {ws : List Char} (hne : ws ≠ []) (hws : AreDigits ws) :
      WritesPositional ws (Nat.ofDigitChars 10 ws 0)
  | point {ws fs : List Char} (hws : AreDigits ws) (hne : ws ≠ []) (hfs : AreDigits fs)
      (hne' : fs ≠ []) :
      WritesPositional (ws ++ '.' :: fs) (Nat.ofDigitChars 10 (ws ++ fs) 0 / 10 ^ fs.length)

/-- The same with a power of ten or none. -/
inductive WritesUnsigned : List Char → ℚ → Prop
  | positional {cs : List Char} {q : ℚ} (h : WritesPositional cs q) : WritesUnsigned cs q
  | raised {cs es : List Char} {q : ℚ} (h : WritesPositional cs q) (hne : es ≠ [])
      (hes : AreDigits es) :
      WritesUnsigned (cs ++ 'e' :: '+' :: es) (q * 10 ^ Nat.ofDigitChars 10 es 0)
  | lowered {cs es : List Char} {q : ℚ} (h : WritesPositional cs q) (hne : es ≠ [])
      (hes : AreDigits es) :
      WritesUnsigned (cs ++ 'e' :: '-' :: es) (q / 10 ^ Nat.ofDigitChars 10 es 0)

/-- The rational numbers that texts write. -/
inductive Text.WritesDecimal : Text → ℚ → Prop
  | unsigned {cs : List Char} {q : ℚ} (h : WritesUnsigned cs q) : WritesDecimal (ofChars cs) q
  | negative {cs : List Char} {q : ℚ} (h : WritesUnsigned cs q) :
      WritesDecimal (.char '-' :: ofChars cs) (-q)

/-! ## One number for a text -/

section

variable {cs cs' ds ds' : List Char} {q q' : ℚ} {c : Char}

theorem not_mem_of_areDigits (h : AreDigits cs) (hc : c.isDigit = false) : c ∉ cs := by
  intro hmem
  have hdigit := h c hmem
  rw [hc] at hdigit
  cases hdigit

theorem WritesPositional.exponent_not_mem (h : WritesPositional cs q) : 'e' ∉ cs := by
  cases h with
  | whole hne hws => exact not_mem_of_areDigits hws rfl
  | point hws hne hfs hne' =>
    rw [List.mem_append, List.mem_cons]
    rintro (hmem | heq | hmem)
    · exact not_mem_of_areDigits hws rfl hmem
    · cases heq
    · exact not_mem_of_areDigits hfs rfl hmem

theorem WritesPositional.unique (h : WritesPositional cs q) (h' : WritesPositional cs' q')
    (heq : cs = cs') : q = q' := by
  cases h with
  | whole hne hws =>
    cases h' with
    | whole hne₂ hws₂ => rw [heq]
    | point hws₂ hne₂ hfs₂ hne₂' =>
      refine absurd ?_ (not_mem_of_areDigits (c := '.') hws rfl)
      rw [heq]
      exact List.mem_append_right _ List.mem_cons_self
  | point hws hne hfs hne' =>
    cases h' with
    | whole hne₂ hws₂ =>
      refine absurd ?_ (not_mem_of_areDigits (c := '.') hws₂ rfl)
      rw [← heq]
      exact List.mem_append_right _ List.mem_cons_self
    | point hws₂ hne₂ hfs₂ hne₂' =>
      obtain ⟨rfl, -, rfl⟩ := (List.append_cons_inj_of_notMem (not_mem_of_areDigits hws rfl)
        (not_mem_of_areDigits hfs rfl)).1 heq
      rfl

/-- A power of ten in a text stands after its only `e`. -/
theorem eq_of_power_eq {sign sign' : Char} {es es' : List Char} (hcs : 'e' ∉ cs)
    (hsign : sign ≠ 'e') (hes : AreDigits es)
    (h : cs ++ 'e' :: sign :: es = cs' ++ 'e' :: sign' :: es') :
    cs = cs' ∧ sign = sign' ∧ es = es' := by
  have hrest : 'e' ∉ sign :: es := by
    rw [List.mem_cons, not_or]
    exact ⟨hsign.symm, not_mem_of_areDigits hes rfl⟩
  obtain ⟨hleft, -, hright⟩ := (List.append_cons_inj_of_notMem hcs hrest).1 h
  obtain ⟨hsigns, hdigits⟩ := List.cons.inj hright
  exact ⟨hleft, hsigns, hdigits⟩

/-- **A text writes one number at most.** -/
theorem WritesUnsigned.unique (h : WritesUnsigned cs q) (h' : WritesUnsigned cs' q')
    (heq : cs = cs') : q = q' := by
  have hpower : ∀ {cs ds : List Char}, 'e' ∈ cs ++ 'e' :: ds := by
    intro cs ds
    exact List.mem_append_right _ List.mem_cons_self
  cases h with
  | positional h =>
    cases h' with
    | positional h' => exact h.unique h' heq
    | raised h' hne hes => exact absurd (heq ▸ hpower) h.exponent_not_mem
    | lowered h' hne hes => exact absurd (heq ▸ hpower) h.exponent_not_mem
  | raised h hne hes =>
    cases h' with
    | positional h' => exact absurd (heq.symm ▸ hpower) h'.exponent_not_mem
    | raised h' hne' hes' =>
      obtain ⟨rfl, -, rfl⟩ := eq_of_power_eq h.exponent_not_mem (by decide) hes heq
      rw [h.unique h' rfl]
    | lowered h' hne' hes' =>
      obtain ⟨-, hsign, -⟩ := eq_of_power_eq h.exponent_not_mem (by decide) hes heq
      cases hsign
  | lowered h hne hes =>
    cases h' with
    | positional h' => exact absurd (heq.symm ▸ hpower) h'.exponent_not_mem
    | raised h' hne' hes' =>
      obtain ⟨-, hsign, -⟩ := eq_of_power_eq h.exponent_not_mem (by decide) hes heq
      cases hsign
    | lowered h' hne' hes' =>
      obtain ⟨rfl, -, rfl⟩ := eq_of_power_eq h.exponent_not_mem (by decide) hes heq
      rw [h.unique h' rfl]

end

/-! ## Decimals -/

variable {d : Decimal} {cs : List Char} {q : ℚ}

theorem Decimal.num_div_den (d : Decimal) :
    (d.num : ℚ) / d.den = d.coefficient * (10 : ℚ) ^ d.exponent := by
  obtain ⟨n, e⟩ := d
  have hnum : (⟨n, e⟩ : Decimal).num = n * 10 ^ e.toNat := rfl
  have hden : (⟨n, e⟩ : Decimal).den = 10 ^ (-e).toNat := rfl
  rw [hnum, hden]
  push_cast
  rw [mul_div_assoc, ← zpow_natCast, ← zpow_natCast, ← zpow_sub₀ (by norm_num)]
  congr 2
  omega

theorem ofDigitChars_eq (cs : List Char) :
    Nat.ofDigitChars 10 cs 0 = digitsValue (digitValues cs) :=
  (digitsValue_map cs).symm

theorem ofDigitChars_toDigits (n : Nat) : Nat.ofDigitChars 10 (Nat.toDigits 10 n) 0 = n :=
  Nat.ofDigitChars_toDigits (by decide) (by decide)

theorem ofDigitChars_append_zeros (n k : Nat) :
    Nat.ofDigitChars 10 (Nat.toDigits 10 n ++ List.replicate k '0') 0 = n * 10 ^ k := by
  rw [ofDigitChars_eq, digitValues_append, digitValues_zeros, digitsValue_append_zeros,
    digitsValue_toDigits]

theorem ofDigitChars_zeros_append (n k : Nat) :
    Nat.ofDigitChars 10 (List.replicate k '0' ++ Nat.toDigits 10 n) 0 = n := by
  rw [ofDigitChars_eq, digitValues_append, digitValues_zeros, digitsValue_zeros_append,
    digitsValue_toDigits]

/-- A whole number without a point. -/
theorem writesPositional_whole (n zeros : Nat) :
    WritesPositional (Nat.toDigits 10 n ++ List.replicate zeros '0')
      ((n : ℚ) * 10 ^ (zeros : Int)) := by
  have hdigits := (areDigits_toDigits n).append (areDigits_zeros zeros)
  have hne : Nat.toDigits 10 n ++ List.replicate zeros '0' ≠ [] :=
    List.append_ne_nil_of_left_ne_nil Nat.toDigits_ne_nil _
  have hwrites := WritesPositional.whole hne hdigits
  rw [ofDigitChars_append_zeros, Nat.cast_mul, Nat.cast_pow, Nat.cast_ofNat,
    ← zpow_natCast] at hwrites
  exact hwrites

/-- A whole number with its point and the zero after it. -/
theorem writesPositional_withZeros (n zeros : Nat) :
    WritesPositional (Nat.toDigits 10 n ++ List.replicate zeros '0' ++ ['.', '0'])
      ((n : ℚ) * 10 ^ (zeros : Int)) := by
  have hdigits := (areDigits_toDigits n).append (areDigits_zeros zeros)
  have hne : Nat.toDigits 10 n ++ List.replicate zeros '0' ≠ [] :=
    List.append_ne_nil_of_left_ne_nil Nat.toDigits_ne_nil _
  have hwrites := WritesPositional.point hdigits hne (areDigits_zeros 1) (List.cons_ne_nil _ _)
  have hvalue : Nat.ofDigitChars 10 (Nat.toDigits 10 n ++ List.replicate zeros '0'
      ++ List.replicate 1 '0') 0 = n * 10 ^ (zeros + 1) := by
    rw [List.append_assoc, List.replicate_append_replicate, ofDigitChars_append_zeros]
  have hquotient : ((n * 10 ^ (zeros + 1) : Nat) : ℚ) / 10 ^ (List.replicate 1 '0').length
      = (n : ℚ) * 10 ^ (zeros : Int) := by
    rw [List.length_replicate, zpow_natCast]
    push_cast
    ring
  rw [hvalue, hquotient] at hwrites
  exact hwrites

/-- A number with a point within its digits, which are filled up with zeros. -/
theorem writesPositional_withPoint {n places : Nat} (hplaces : places ≠ 0) {padded : List Char}
    (hpadded : padded = List.replicate (places + 1 - (Nat.toDigits 10 n).length) '0'
      ++ Nat.toDigits 10 n) :
    WritesPositional (padded.take (padded.length - places)
      ++ '.' :: padded.drop (padded.length - places)) ((n : ℚ) * 10 ^ (-(places : Int))) := by
  obtain ⟨hwhole, hne, hfraction, hlength⟩ := areDigits_cut hpadded
  have hne' : padded.drop (padded.length - places) ≠ [] := by
    rw [← List.length_pos_iff, hlength]
    omega
  have hvalue : Nat.ofDigitChars 10 padded 0 = n := by
    rw [hpadded, ofDigitChars_zeros_append]
  have hwrites := WritesPositional.point hwhole hne hfraction hne'
  rw [List.take_append_drop, hvalue, hlength, div_eq_mul_inv, ← zpow_natCast, ← zpow_neg] at hwrites
  exact hwrites

theorem writesPositional_positional (layout : NumberLayout) (d : Decimal) :
    WritesPositional (layout.positional (Nat.toDigits 10 d.coefficient) d.exponent)
      ((d.coefficient : ℚ) * 10 ^ d.exponent) := by
  obtain ⟨n, e⟩ := d
  unfold NumberLayout.positional
  dsimp only
  split
  · next he =>
    have hzeros : ((e.toNat : Nat) : Int) = e := Int.toNat_of_nonneg he
    split
    · have hwrites := writesPositional_withZeros n e.toNat
      rw [hzeros] at hwrites
      exact hwrites
    · have hwrites := writesPositional_whole n e.toNat
      rw [hzeros] at hwrites
      rw [List.append_nil]
      exact hwrites
  · next he =>
    have hplaces : (-e).toNat ≠ 0 := by omega
    have hwrites := writesPositional_withPoint (n := n) hplaces rfl
    have hexponent : -((-e).toNat : Int) = e := by omega
    rw [hexponent] at hwrites
    exact hwrites

/-- A power of ten after a number moves its point. -/
theorem WritesPositional.exponentText (h : WritesPositional cs q) (e : Int) :
    WritesUnsigned (cs ++ 'e' :: NumberLayout.exponentText e) (q * 10 ^ e) := by
  have hdigits := areDigits_exponentDigits e
  have hvalue : Nat.ofDigitChars 10 (exponentDigits e) 0 = e.natAbs :=
    (ofDigitChars_eq _).trans (digitsValue_exponentDigits e)
  have htext : NumberLayout.exponentText e = (if e < 0 then '-' else '+') :: exponentDigits e := rfl
  rw [htext]
  split
  · next hneg =>
    have hwrites := WritesUnsigned.lowered h (exponentDigits_ne_nil e) hdigits
    have hexponent : -((e.natAbs : Nat) : Int) = e := by omega
    rw [hvalue, div_eq_mul_inv, ← zpow_natCast, ← zpow_neg, hexponent] at hwrites
    exact hwrites
  · next hneg =>
    have hwrites := WritesUnsigned.raised h (exponentDigits_ne_nil e) hdigits
    have hexponent : ((e.natAbs : Nat) : Int) = e := by omega
    rw [hvalue, ← zpow_natCast, hexponent] at hwrites
    exact hwrites

/-- The first digit of a number with a point after it, if there are more. -/
theorem writesPositional_mantissa {c : Char} {ds : List Char} (h : AreDigits (c :: ds)) :
    WritesPositional (if ds = [] then [c] else c :: '.' :: ds)
      ((Nat.ofDigitChars 10 (c :: ds) 0 : ℚ) / 10 ^ ds.length) := by
  split
  · next hnil =>
    subst hnil
    rw [List.length_nil, pow_zero, div_one]
    exact .whole (List.cons_ne_nil _ _) h
  · next hne =>
    have hparts : AreDigits [c] ∧ AreDigits ds := AreDigits.of_append h
    exact .point hparts.1 (List.cons_ne_nil _ _) hparts.2 hne

/-- **The text of a decimal writes it**, in every layout. -/
theorem writesUnsigned_decimalText (layout : NumberLayout) (d : Decimal) :
    WritesUnsigned (layout.decimalText d) ((d.num : ℚ) / d.den) := by
  rw [Decimal.num_div_den]
  unfold NumberLayout.decimalText
  dsimp only
  split
  · exact .positional (writesPositional_positional layout d)
  · have hdigits := areDigits_toDigits d.coefficient
    have hvalue := ofDigitChars_toDigits d.coefficient
    obtain ⟨c, ds, hds⟩ :=
      List.exists_cons_of_ne_nil (Nat.toDigits_ne_nil (n := d.coefficient) (b := 10))
    rw [hds] at hdigits hvalue ⊢
    have hleading : d.exponent + ((c :: ds).length : Nat) - 1 = d.exponent + ds.length := by
      rw [List.length_cons]
      omega
    have hwrites := (writesPositional_mantissa hdigits).exponentText (d.exponent + ds.length)
    rw [hvalue, zpow_add₀ (by norm_num), zpow_natCast, mul_comm ((10 : ℚ) ^ d.exponent),
      ← mul_assoc, div_mul_cancel₀ _ (by positivity)] at hwrites
    rw [hleading]
    cases ds with
    | nil => exact hwrites
    | cons d' ds => exact hwrites

/-! ## Quantities -/

namespace Quantity

/-- The rational number that the text of a quantity writes, if it writes one. -/
def rational? (p : Quantity) : Option ℚ := p.ratio?.map fun r => (r.1 : ℚ) / r.2

theorem writesDecimal_ofInt (n : Int) : (Text.ofInt n).WritesDecimal n := by
  have hwrites : ∀ m : Nat, WritesUnsigned (Nat.toDigits 10 m) m := by
    intro m
    have hwhole := WritesPositional.whole Nat.toDigits_ne_nil (areDigits_toDigits m)
    rw [ofDigitChars_toDigits] at hwhole
    exact .positional hwhole
  cases n with
  | ofNat n => exact .unsigned (hwrites n)
  | negSucc n =>
    rw [Int.cast_negSucc]
    exact .negative (hwrites (n + 1))

/-- **A quantity stands for the number that its text writes.** -/
theorem writesDecimal_of_rational? {p : Quantity} (h : p.rational? = some q) :
    p.text.WritesDecimal q := by
  obtain ⟨⟨num, den⟩, hratio, rfl⟩ := Option.map_eq_some_iff.1 h
  cases p with
  | whole n =>
    cases hratio
    show (Text.ofInt num).WritesDecimal ((num : ℚ) / (1 : Nat))
    rw [Nat.cast_one, div_one]
    exact writesDecimal_ofInt num
  | binary x =>
    cases x with
    | finite s u =>
      cases hratio
      have hwrites := writesUnsigned_decimalText .measure
        (if u = 0 then ⟨0, 0⟩ else Binary64.shortest u)
      cases s with
      | false => exact .unsigned hwrites
      | true =>
        dsimp only
        rw [if_pos rfl, Int.cast_neg, Int.cast_natCast, neg_div]
        exact .negative hwrites
    | infinite s => cases hratio
    | nan => cases hratio

end Quantity

end PhaseSplit
