import Mathlib.Tactic
import PhaseSplit.Json.Reader
import PhaseSplit.Json.Writer
import PhaseSplit.Proofs.Number.Shortest
import PhaseSplit.Proofs.Text.Integer

/-!
# Numbers are read back

The text of a number is read as that number when nothing follows that would go on with it.

* `Json.floatOf_eq`: what the digits of a number write;
* `Json.readNumber?_ofInt`: integers that are not too long;
* `Json.readNumber?_decimalText`: decimals, positional or with a power of ten;
* `Json.readValue_of_isPlain`: the numbers that are read back, infinities among them.
-/

namespace PhaseSplit

/-! ## Digits -/

theorem digitsValue_append (ds es : List Nat) :
    digitsValue (ds ++ es) = es.foldl (fun n d => 10 * n + d) (digitsValue ds) :=
  List.foldl_append

/-- Zeros before a number do not change it. -/
theorem digitsValue_zeros_append (k : Nat) (ds : List Nat) :
    digitsValue (List.replicate k 0 ++ ds) = digitsValue ds := by
  induction k with
  | zero => rfl
  | succ k ih => exact ih

/-- Zeros after a number multiply it. -/
theorem digitsValue_append_zeros (ds : List Nat) (k : Nat) :
    digitsValue (ds ++ List.replicate k 0) = digitsValue ds * 10 ^ k := by
  induction k with
  | zero => rw [List.replicate_zero, List.append_nil, pow_zero, Nat.mul_one]
  | succ k ih =>
    rw [List.replicate_succ', ← List.append_assoc, digitsValue_append, ih, List.foldl_cons,
      List.foldl_nil, pow_succ]
    ring

namespace Json

variable {cs ds rest : List Char} {c : Char} {s : Bool}

/-- A list of digits and nothing else. -/
def AreDigits (cs : List Char) : Prop := ∀ c ∈ cs, c.isDigit = true

theorem areDigits_toDigits (n : Nat) : AreDigits (Nat.toDigits 10 n) :=
  fun _ hc => Nat.isDigit_of_mem_toDigits (by decide) (by decide) hc

theorem areDigits_zeros (k : Nat) : AreDigits (List.replicate k '0') := by
  intro c hc
  rw [List.eq_of_mem_replicate hc]
  decide

theorem AreDigits.append (hcs : AreDigits cs) (hds : AreDigits ds) : AreDigits (cs ++ ds) := by
  intro c hc
  rcases List.mem_append.1 hc with hc | hc
  · exact hcs c hc
  · exact hds c hc

theorem AreDigits.of_append (h : AreDigits (cs ++ ds)) : AreDigits cs ∧ AreDigits ds :=
  ⟨fun c hc => h c (List.mem_append_left _ hc), fun c hc => h c (List.mem_append_right _ hc)⟩

theorem digitValues_append (cs ds : List Char) :
    digitValues (cs ++ ds) = digitValues cs ++ digitValues ds := List.map_append

theorem digitValues_zeros (k : Nat) :
    digitValues (List.replicate k '0') = List.replicate k 0 := List.map_replicate

theorem digitValues_lt (h : AreDigits cs) : ∀ d ∈ digitValues cs, d < 10 := by
  intro d hd
  obtain ⟨c, hc, rfl⟩ := List.mem_map.1 hd
  obtain ⟨-, hle⟩ := Char.isDigit_iff_toNat.1 (h c hc)
  have hnine : '9'.toNat = 57 := rfl
  omega

/-- The digits of a number write it. -/
theorem digitsValue_toDigits (n : Nat) : digitsValue (digitValues (Nat.toDigits 10 n)) = n := by
  rw [digitsValue, digitValues, List.foldl_map]
  exact Nat.ofDigitChars_toDigits (by decide) (by decide)

/-- The digits of a positive number do not start with a zero. -/
theorem exists_toDigits_eq_cons {n : Nat} (hn : n ≠ 0) :
    ∃ c ds, Nat.toDigits 10 n = c :: ds ∧ c ≠ '0' := by
  induction n using Nat.strongRecOn with
  | ind n ih =>
    by_cases hsmall : n < 10
    · rw [Nat.toDigits_of_lt_base hsmall]
      refine ⟨_, [], rfl, ?_⟩
      interval_cases n
      · contradiction
      all_goals decide
    · obtain ⟨c, ds, hds, hc⟩ := ih (n / 10) (by omega) (by omega)
      rw [Nat.toDigits_of_base_le (by decide) (Nat.not_lt.1 hsmall), hds]
      exact ⟨c, _, rfl, hc⟩

/-! ## Parts of a number -/

/-- No digit follows. -/
def NoDigitNext (rest : List Char) : Prop := ∀ c ∈ rest.head?, c.isDigit = false

/-- Nothing follows that would go on with a number. -/
def EndsNumber (rest : List Char) : Prop :=
  ∀ c ∈ rest.head?, c.isDigit = false ∧ c ≠ '.' ∧ c ≠ 'e' ∧ c ≠ 'E'

theorem EndsNumber.noDigitNext (h : EndsNumber rest) : NoDigitNext rest := fun c hc => (h c hc).1

theorem noDigitNext_cons (h : c.isDigit = false) : NoDigitNext (c :: rest) := by
  intro c' hc'
  cases hc'
  exact h

theorem spanDigits_append (hds : AreDigits ds) (hrest : NoDigitNext rest) :
    spanDigits (ds ++ rest) = (ds, rest) := by
  have htake : rest.takeWhile Char.isDigit = [] := by
    cases rest with
    | nil => rfl
    | cons c rest => rw [List.takeWhile_cons, hrest c rfl, if_neg Bool.false_ne_true]
  have hdrop : rest.dropWhile Char.isDigit = rest := by
    cases rest with
    | nil => rfl
    | cons c rest => rw [List.dropWhile_cons, hrest c rfl, if_neg Bool.false_ne_true]
  rw [spanDigits, List.span_eq_takeWhile_dropWhile, List.takeWhile_append_of_pos hds,
    List.dropWhile_append_of_pos hds, htake, hdrop, List.append_nil]

/-- A zero, or digits that do not start with one. -/
inductive IsWhole : List Char → Prop
  | zero : IsWhole ['0']
  | digits {c : Char} {ds : List Char} (hc : c ≠ '0') (hds : AreDigits (c :: ds)) :
      IsWhole (c :: ds)

theorem isWhole_toDigits (n : Nat) : IsWhole (Nat.toDigits 10 n) := by
  rcases eq_or_ne n 0 with rfl | hn
  · exact .zero
  · obtain ⟨c, ds, hds, hc⟩ := exists_toDigits_eq_cons hn
    have hdigits := areDigits_toDigits n
    rw [hds] at hdigits ⊢
    exact .digits hc hdigits

theorem isWhole_singleton (hc : c.isDigit = true) : IsWhole [c] := by
  rcases eq_or_ne c '0' with rfl | hne
  · exact .zero
  · refine .digits hne ?_
    intro c' hc'
    rw [List.mem_singleton.1 hc']
    exact hc

theorem wholePart?_append (hds : IsWhole ds) (hrest : NoDigitNext rest) :
    wholePart? (ds ++ rest) = some (ds, rest) := by
  cases hds with
  | zero => rfl
  | @digits c ds hc hds =>
    rw [List.cons_append, wholePart?]
    · rw [if_pos (hds c List.mem_cons_self), ← List.cons_append, spanDigits_append hds hrest]
    · intro heq
      exact hc heq

theorem fractionPart?_append (hds : AreDigits ds) (hne : ds ≠ []) (hrest : NoDigitNext rest) :
    fractionPart? ('.' :: ds ++ rest) = some (ds, rest) := by
  obtain ⟨c, ds, rfl⟩ := List.exists_cons_of_ne_nil hne
  rw [List.cons_append, List.cons_append, fractionPart?, if_pos (hds c List.mem_cons_self),
    ← List.cons_append, spanDigits_append hds hrest]

theorem fractionPart?_eq_none (h : ∀ c ∈ rest.head?, c ≠ '.') : fractionPart? rest = none := by
  unfold fractionPart?
  split
  · exact absurd rfl (h '.' rfl)
  · rfl

theorem exponentPart?_eq_none (h : ∀ c ∈ rest.head?, c ≠ 'e' ∧ c ≠ 'E') :
    exponentPart? rest = none := by
  cases rest with
  | nil => rfl
  | cons c rest =>
    obtain ⟨hlower, hupper⟩ := h c rfl
    unfold exponentPart?
    exact if_neg (by simp [hlower, hupper])

/-- The digits of an exponent, at least two. -/
def exponentDigits (e : Int) : List Char :=
  if (Nat.toDigits 10 e.natAbs).length < 2 then '0' :: Nat.toDigits 10 e.natAbs
  else Nat.toDigits 10 e.natAbs

theorem areDigits_exponentDigits (e : Int) : AreDigits (exponentDigits e) := by
  unfold exponentDigits
  split
  · exact (areDigits_zeros 1).append (areDigits_toDigits _)
  · exact areDigits_toDigits _

theorem exponentDigits_ne_nil (e : Int) : exponentDigits e ≠ [] := by
  unfold exponentDigits
  split
  · exact List.cons_ne_nil _ _
  · exact Nat.toDigits_ne_nil

theorem digitsValue_exponentDigits (e : Int) :
    digitsValue (digitValues (exponentDigits e)) = e.natAbs := by
  unfold exponentDigits
  split
  · exact digitsValue_toDigits _
  · exact digitsValue_toDigits _

/-- An integer is its sign and its absolute value. -/
theorem signed_natAbs (n : Int) :
    (if decide (n < 0) then -(n.natAbs : Int) else (n.natAbs : Int)) = n := by
  split
  · next hneg => rw [Int.ofNat_natAbs_of_nonpos (of_decide_eq_true hneg).le, neg_neg]
  · next hneg =>
    rw [decide_eq_true_iff, Int.not_lt] at hneg
    exact Int.natAbs_of_nonneg hneg

theorem exponentPart?_append (e : Int) (hrest : NoDigitNext rest) :
    exponentPart? ('e' :: NumberLayout.exponentText e ++ rest) = some (e, rest) := by
  have hspan := spanDigits_append (areDigits_exponentDigits e) hrest
  have hvalue := digitsValue_exponentDigits e
  have hne := exponentDigits_ne_nil e
  have htext : NumberLayout.exponentText e = (if e < 0 then '-' else '+') :: exponentDigits e := rfl
  rw [htext]
  generalize exponentDigits e = ds at *
  rw [List.cons_append, List.cons_append]
  unfold exponentPart?
  refine (if_pos (by decide)).trans ?_
  split
  next negative body hsplit =>
    have hparts : negative = decide (e < 0) ∧ body = ds ++ rest := by
      by_cases hneg : e < 0
      · rw [if_pos hneg] at hsplit
        cases hsplit
        exact ⟨(decide_eq_true hneg).symm, rfl⟩
      · rw [if_neg hneg] at hsplit
        cases hsplit
        exact ⟨(decide_eq_false hneg).symm, rfl⟩
    obtain ⟨rfl, rfl⟩ := hparts
    rw [hspan]
    split
    · next heq => exact absurd (congrArg Prod.fst heq) hne
    · next ds' rest' _ heq =>
      cases heq
      rw [hvalue]
      exact congrArg (fun e => some (e, rest)) (signed_natAbs e)

/-! ## Whole numbers and others -/

section

variable {body whole rest' : List Char} {fraction : Option (List Char × List Char)}
  {exponent : Option (Int × List Char)}

/-- A sign or none. -/
def signChars (s : Bool) : List Char := if s then ['-'] else []

/-- What a sign and a whole part start is a number. -/
theorem readNumber?_eq (s : Bool) (hwhole : wholePart? body = some (whole, rest))
    (hfraction : fractionPart? rest = fraction)
    (hexponent : exponentPart? ((fraction.map (·.2)).getD rest) = exponent) :
    readNumber? (signChars s ++ body)
      = if fraction.isNone && exponent.isNone then
          match Numeral.toInt ⟨s, digitValues whole⟩ with
          | .ok n => some (.ok (.int n, rest))
          | .error _ => some (.error (.tooManyDigits whole.length))
        else
          some (.ok (.float (floatOf s whole ((fraction.map (·.1)).getD [])
            ((exponent.map (·.1)).getD 0)),
            (exponent.map (·.2)).getD ((fraction.map (·.2)).getD rest))) := by
  have hsign : ∀ body', body ≠ '-' :: body' := by
    rintro body' rfl
    cases hwhole
  unfold readNumber?
  split
  next negative body' hsplit =>
    have hparts : s = negative ∧ body = body' := by
      cases s with
      | true =>
        cases hsplit
        exact ⟨rfl, rfl⟩
      | false =>
        unfold signChars at hsplit
        rw [if_neg Bool.false_ne_true, List.nil_append] at hsplit
        split at hsplit
        · next body => exact absurd rfl (hsign body)
        · cases hsplit
          exact ⟨rfl, rfl⟩
    obtain ⟨rfl, rfl⟩ := hparts
    rw [hwhole, Option.bind_eq_bind, Option.bind_some]
    dsimp only
    rw [hfraction, hexponent]
    cases fraction <;> cases exponent <;> rfl

end

/-- An integer that is not too long is read back. -/
theorem readNumber?_ofInt {n : Int} (hn : n.natAbs < 10 ^ maxDigits) (hrest : EndsNumber rest) :
    readNumber? (signChars (decide (n < 0)) ++ Nat.toDigits 10 n.natAbs ++ rest)
      = some (.ok (.int n, rest)) := by
  have hfraction := fractionPart?_eq_none fun c hc => (hrest c hc).2.1
  have hexponent := exponentPart?_eq_none fun c hc => (hrest c hc).2.2
  have hshort : (digitValues (Nat.toDigits 10 n.natAbs)).length ≤ maxDigits := by
    rw [digitValues, List.length_map]
    exact (Nat.length_toDigits_le_iff (by decide) (by decide)).2 hn
  have hvalue : Numeral.toInt ⟨decide (n < 0), digitValues (Nat.toDigits 10 n.natAbs)⟩ = .ok n := by
    rw [Numeral.toInt, if_neg (Nat.not_lt.2 hshort), Numeral.value, digitsValue_toDigits]
    exact congrArg Except.ok (signed_natAbs n)
  rw [List.append_assoc, readNumber?_eq _ (wholePart?_append (isWhole_toDigits _) hrest.noDigitNext)
    hfraction hexponent]
  refine (if_pos rfl).trans ?_
  rw [hvalue]

/-! ## Decimals -/

/-- **What the digits of a number write.** -/
theorem floatOf_eq {whole fraction : List Char} (s : Bool) (h : AreDigits (whole ++ fraction))
    (e : Int) :
    floatOf s whole fraction e
      = (⟨digitsValue (digitValues (whole ++ fraction)), e - fraction.length⟩ : Decimal).toBinary64
          s :=
  Decimal.nearest_eq s (digitsValue_lt (digitValues_lt h))

variable {d : Decimal} {k : Nat} {e : Int}

/-- A decimal as the writer has it: without digits that are zero, only zero itself. -/
def IsWritten (d : Decimal) : Prop := d.coefficient ≠ 0 ∨ d = ⟨0, 0⟩

theorem readNumber?_fraction {whole fraction : List Char} (s : Bool) (hwhole : IsWhole whole)
    (hdigits : AreDigits whole) (hfraction : AreDigits fraction) (hne : fraction ≠ [])
    (hrest : EndsNumber rest) :
    readNumber? (signChars s ++ (whole ++ '.' :: fraction) ++ rest)
      = some (.ok (.float ((⟨digitsValue (digitValues (whole ++ fraction)),
          -(fraction.length : Int)⟩ : Decimal).toBinary64 s), rest)) := by
  have hexponent := exponentPart?_eq_none fun c hc => (hrest c hc).2.2
  have hpoint : NoDigitNext ('.' :: fraction ++ rest) := noDigitNext_cons (by decide)
  rw [List.append_assoc, List.append_assoc, readNumber?_eq s (wholePart?_append hwhole hpoint)
    (fractionPart?_append hfraction hne hrest.noDigitNext) hexponent]
  refine (if_neg Bool.false_ne_true).trans ?_
  show some (Except.ok (float (floatOf s whole fraction 0), rest)) = _
  rw [floatOf_eq s (hdigits.append hfraction), zero_sub]

/-- Digits that are filled up with zeros to more than the places of a fraction are cut by the point
into at least one digit and as many as there are places. -/
theorem areDigits_cut {n places : Nat} {padded : List Char}
    (hpadded : padded = List.replicate (places + 1 - (Nat.toDigits 10 n).length) '0'
      ++ Nat.toDigits 10 n) :
    AreDigits (padded.take (padded.length - places)) ∧ padded.take (padded.length - places) ≠ []
      ∧ AreDigits (padded.drop (padded.length - places))
      ∧ (padded.drop (padded.length - places)).length = places := by
  have hdigits : AreDigits padded := by
    rw [hpadded]
    exact (areDigits_zeros _).append (areDigits_toDigits n)
  have hlength : places < padded.length := by
    rw [hpadded, List.length_append, List.length_replicate]
    omega
  rw [← List.take_append_drop (padded.length - places) padded] at hdigits
  refine ⟨hdigits.of_append.1, ?_, hdigits.of_append.2, ?_⟩
  · rw [← List.length_pos_iff, List.length_take]
    omega
  · rw [List.length_drop]
    omega

/-- Digits that are filled up with zeros to one more than the digits of a fraction start with a
whole part. -/
theorem isWhole_take {n places : Nat} {padded : List Char} (hn : n ≠ 0)
    (hpadded : padded = List.replicate (places + 1 - (Nat.toDigits 10 n).length) '0'
      ++ Nat.toDigits 10 n) :
    IsWhole (padded.take (padded.length - places)) := by
  obtain ⟨c, ds, hds, hc⟩ := exists_toDigits_eq_cons hn
  have hdigits := areDigits_toDigits n
  rw [hds] at hpadded hdigits
  rcases Nat.lt_or_ge places (c :: ds).length with hlong | hshort
  · rw [Nat.sub_eq_zero_of_le hlong, List.replicate_zero, List.nil_append] at hpadded
    obtain ⟨k, hk⟩ : ∃ k, padded.length - places = k + 1 :=
      ⟨padded.length - places - 1, by rw [hpadded]; omega⟩
    rw [hk, hpadded, List.take_succ_cons]
    refine .digits hc fun c' hc' => hdigits c' ?_
    rw [← List.take_succ_cons] at hc'
    exact List.mem_of_mem_take hc'
  · obtain ⟨k, hk⟩ : ∃ k, places + 1 - (c :: ds).length = k + 1 :=
      ⟨places - (c :: ds).length, by omega⟩
    have hone : padded.length - places = 1 := by
      rw [hpadded, List.length_append, List.length_replicate]
      omega
    rw [hone, hpadded, hk, List.replicate_succ]
    exact .zero

/-- A whole number is read back with zeros before its point. -/
theorem readNumber?_withZeros (s : Bool) {n : Nat} (zeros : Nat) (hn : n ≠ 0 ∨ zeros = 0)
    (hrest : EndsNumber rest) :
    readNumber? (signChars s ++ (Nat.toDigits 10 n ++ List.replicate zeros '0' ++ ['.', '0'])
        ++ rest)
      = some (.ok (.float ((⟨n, zeros⟩ : Decimal).toBinary64 s), rest)) := by
  have hall : AreDigits (Nat.toDigits 10 n ++ List.replicate zeros '0') :=
    (areDigits_toDigits n).append (areDigits_zeros zeros)
  have hwhole : IsWhole (Nat.toDigits 10 n ++ List.replicate zeros '0') := by
    rcases hn with hne | rfl
    · obtain ⟨c, ds, hds, hc⟩ := exists_toDigits_eq_cons hne
      rw [hds, List.cons_append] at hall ⊢
      exact .digits hc hall
    · rw [List.replicate_zero, List.append_nil]
      exact isWhole_toDigits n
  have hread := readNumber?_fraction s hwhole hall (areDigits_zeros 1) (List.cons_ne_nil _ _) hrest
  have hzeros : digitValues (Nat.toDigits 10 n ++ List.replicate zeros '0' ++ List.replicate 1 '0')
      = digitValues (Nat.toDigits 10 n) ++ List.replicate (zeros + 1) 0 := by
    rw [List.append_assoc, List.replicate_append_replicate, digitValues_append, digitValues_zeros]
  have hexponent : -((List.replicate 1 '0').length : Int) + ((zeros + 1 : Nat) : Int) = zeros := by
    rw [List.length_replicate]
    omega
  rw [hzeros, digitsValue_append_zeros, digitsValue_toDigits, Decimal.toBinary64_mul_ten_pow,
    hexponent] at hread
  exact hread

/-- A number is read back with a point within its digits, which are filled up with zeros. -/
theorem readNumber?_withPoint (s : Bool) {n places : Nat} (hn : n ≠ 0) (hplaces : places ≠ 0)
    {padded : List Char}
    (hpadded : padded = List.replicate (places + 1 - (Nat.toDigits 10 n).length) '0'
      ++ Nat.toDigits 10 n) (hrest : EndsNumber rest) :
    readNumber? (signChars s ++ (padded.take (padded.length - places)
        ++ '.' :: padded.drop (padded.length - places)) ++ rest)
      = some (.ok (.float ((⟨n, -(places : Int)⟩ : Decimal).toBinary64 s), rest)) := by
  obtain ⟨hwhole, -, hfraction, hlength⟩ := areDigits_cut hpadded
  have hne : padded.drop (padded.length - places) ≠ [] := by
    rw [← List.length_pos_iff, hlength]
    omega
  have hvalue : digitsValue (digitValues padded) = n := by
    rw [hpadded, digitValues_append, digitValues_zeros, digitsValue_zeros_append,
      digitsValue_toDigits]
  have hread := readNumber?_fraction s (isWhole_take hn hpadded) hwhole hfraction hne hrest
  rw [List.take_append_drop, hlength, hvalue] at hread
  exact hread

/-- Decimals in positional form are read back. -/
theorem readNumber?_positional (s : Bool) (hd : IsWritten d) (hrest : EndsNumber rest) :
    readNumber? (signChars s
        ++ NumberLayout.measure.positional (Nat.toDigits 10 d.coefficient) d.exponent ++ rest)
      = some (.ok (.float (d.toBinary64 s), rest)) := by
  obtain ⟨n, e⟩ := d
  unfold NumberLayout.positional
  dsimp only
  split
  · next he =>
    have hn : n ≠ 0 ∨ e.toNat = 0 := by
      refine hd.imp_right fun hzero => ?_
      cases hzero
      rfl
    have hread := readNumber?_withZeros s e.toNat hn hrest
    rw [Int.toNat_of_nonneg he] at hread
    exact hread
  · next he =>
    have hn : n ≠ 0 := by
      refine hd.resolve_right fun hzero => ?_
      cases hzero
      exact he (le_refl 0)
    have hplaces : (-e).toNat ≠ 0 := by omega
    have hread := readNumber?_withPoint s hn hplaces rfl hrest
    have hexponent : -((-e).toNat : Int) = e := by omega
    rw [hexponent] at hread
    exact hread

/-- Decimals with a power of ten are read back. -/
theorem readNumber?_scientific {c : Char} {ds : List Char} (s : Bool)
    (hd : Nat.toDigits 10 d.coefficient = c :: ds) (hrest : EndsNumber rest) :
    readNumber? (signChars s ++ ((if ds = [] then [c] else c :: '.' :: ds)
        ++ 'e' :: NumberLayout.exponentText (d.exponent + ds.length)) ++ rest)
      = some (.ok (.float (d.toBinary64 s), rest)) := by
  have hdigits := areDigits_toDigits d.coefficient
  have hvalue := digitsValue_toDigits d.coefficient
  rw [hd] at hdigits hvalue
  have hwhole := isWhole_singleton (hdigits c List.mem_cons_self)
  have hfraction : AreDigits ds := fun c' hc' => hdigits c' (List.mem_cons_of_mem c hc')
  have hexponent := exponentPart?_append (d.exponent + ds.length) hrest.noDigitNext
  have hletter : NoDigitNext ('e' :: NumberLayout.exponentText (d.exponent + ds.length) ++ rest) :=
    noDigitNext_cons (by decide)
  have hfloat : floatOf s [c] ds (d.exponent + ds.length) = d.toBinary64 s := by
    rw [floatOf_eq s hdigits, List.singleton_append, hvalue, add_sub_cancel_right]
  split
  · next hnil =>
    have hnone : fractionPart?
        ('e' :: NumberLayout.exponentText (d.exponent + ds.length) ++ rest) = none := by
      refine fractionPart?_eq_none ?_
      intro c' hc'
      cases hc'
      decide
    rw [List.append_assoc, List.append_assoc,
      readNumber?_eq s (wholePart?_append hwhole hletter) hnone hexponent]
    refine (if_neg Bool.false_ne_true).trans ?_
    show some (Except.ok (float (floatOf s [c] [] (d.exponent + ds.length)), rest)) = _
    rw [← hfloat, hnil]
  · next hne =>
    have hpoint : NoDigitNext ('.' :: ds
        ++ ('e' :: NumberLayout.exponentText (d.exponent + ds.length) ++ rest)) :=
      noDigitNext_cons (by decide)
    have hread := readNumber?_eq s (wholePart?_append hwhole hpoint)
      (fractionPart?_append hfraction hne hletter) hexponent
    have hshape : signChars s ++ (c :: '.' :: ds
          ++ 'e' :: NumberLayout.exponentText (d.exponent + ds.length)) ++ rest
        = signChars s ++ ([c] ++ ('.' :: ds
          ++ ('e' :: NumberLayout.exponentText (d.exponent + ds.length) ++ rest))) := by
      simp only [List.append_assoc, List.cons_append, List.nil_append]
    rw [hshape, hread]
    refine (if_neg Bool.false_ne_true).trans ?_
    show some (Except.ok (float (floatOf s [c] ds (d.exponent + ds.length)), rest)) = _
    rw [hfloat]

/-- **Decimals are read back**, positional or with a power of ten. -/
theorem readNumber?_decimalText (s : Bool) (hd : IsWritten d) (hrest : EndsNumber rest) :
    readNumber? (signChars s ++ NumberLayout.measure.decimalText d ++ rest)
      = some (.ok (.float (d.toBinary64 s), rest)) := by
  unfold NumberLayout.decimalText
  dsimp only
  split
  · exact readNumber?_positional s hd hrest
  · obtain ⟨c, ds, hds⟩ :=
      List.exists_cons_of_ne_nil (Nat.toDigits_ne_nil (n := d.coefficient) (b := 10))
    have hread := readNumber?_scientific s hds hrest
    rw [hds]
    have hleading : d.exponent + ((c :: ds).length : Nat) - 1 = d.exponent + ds.length := by
      rw [List.length_cons]
      omega
    rw [hleading]
    cases ds with
    | nil => exact hread
    | cons d' ds => exact hread

/-! ## Values -/

/-- The numbers that are read back: integers that are not too long, and all binary numbers but
none. -/
inductive IsPlain : Json → Prop
  | int {n : Int} (hn : n.natAbs < 10 ^ maxDigits) : IsPlain (.int n)
  | float {x : Binary64} (hx : x.IsNumber) : IsPlain (.float x)

theorem shown_ofChars (cs : List Char) : (Text.ofChars cs).shown = cs := by
  induction cs with
  | nil => rfl
  | cons c cs ih => exact congrArg (c :: ·) ih

theorem shown_ofInt (n : Int) :
    (Text.ofInt n).shown = signChars (decide (n < 0)) ++ Nat.toDigits 10 n.natAbs := by
  cases n with
  | ofNat n =>
    have hsign : decide (Int.ofNat n < 0) = false := decide_eq_false (by simp)
    rw [hsign]
    exact shown_ofChars _
  | negSucc n =>
    have hsign : decide (Int.negSucc n < 0) = true := decide_eq_true (Int.negSucc_lt_zero n)
    rw [hsign]
    exact congrArg ('-' :: ·) (shown_ofChars _)

/-- A number starts with a digit, after a sign or none. -/
theorem exists_of_readNumber? {r : Except Stop (Json × List Char)} (h : readNumber? cs = some r) :
    ∃ s c cs', cs = signChars s ++ c :: cs' ∧ c.isDigit = true := by
  have hdigit : ∀ body, (wholePart? body).isSome = true →
      ∃ c cs', body = c :: cs' ∧ c.isDigit = true := by
    intro body hbody
    unfold wholePart? at hbody
    split at hbody
    · exact ⟨_, _, rfl, by decide⟩
    · split at hbody
      · next c cs' _ hc => exact ⟨c, cs', rfl, hc⟩
      · cases hbody
    · cases hbody
  unfold readNumber? at h
  split at h
  next negative body hsplit =>
    have hsome : (wholePart? body).isSome = true := by
      cases hwhole : wholePart? body with
      | some found => rfl
      | none =>
        rw [hwhole] at h
        cases h
    obtain ⟨c, cs', rfl, hc⟩ := hdigit body hsome
    split at hsplit
    · cases hsplit
      exact ⟨true, c, cs', rfl, hc⟩
    · cases hsplit
      exact ⟨false, c, cs', rfl, hc⟩

theorem readWord?_eq_none (s : Bool) (hc : c.isDigit = true) :
    readWord? (signChars s ++ c :: cs) = none := by
  have hne : ∀ letter : Char, letter.isDigit = false → c ≠ letter := by
    rintro letter hletter rfl
    rw [hc] at hletter
    cases hletter
  have hn := hne 'n' (by decide)
  have ht := hne 't' (by decide)
  have hf := hne 'f' (by decide)
  have hN := hne 'N' (by decide)
  have hI := hne 'I' (by decide)
  have hminus := hne '-' (by decide)
  cases s with
  | true => simp [readWord?, words, signChars, hI.symm]
  | false =>
    simp [readWord?, words, signChars, hn.symm, ht.symm, hf.symm, hN.symm, hI.symm, hminus.symm]

/-- What starts no string, object or array is a word or a number. -/
theorem readValue_eq (h : ∀ c ∈ cs.head?, c ≠ '"' ∧ c ≠ '\x7b' ∧ c ≠ '[') (room fuel : Nat) :
    readValue room (fuel + 1) cs = match readWord? cs with
      | some result => .ok result
      | none => (readNumber? cs).getD (stop .expectingValue cs) := by
  unfold readValue
  split
  · exact absurd rfl (h _ rfl).1
  · exact absurd rfl (h _ rfl).2.1
  · exact absurd rfl (h _ rfl).2.2
  · rfl

/-- What is read as a number is the value. -/
theorem readValue_of_readNumber? {r : Except Stop (Json × List Char)} (h : readNumber? cs = some r)
    (room fuel : Nat) : readValue room (fuel + 1) cs = r := by
  obtain ⟨s, c, cs', rfl, hc⟩ := exists_of_readNumber? h
  have hhead : ∀ c' ∈ (signChars s ++ c :: cs').head?, c' ≠ '"' ∧ c' ≠ '\x7b' ∧ c' ≠ '[' := by
    intro c' hc'
    cases s with
    | true =>
      cases hc'
      decide
    | false =>
      cases hc'
      refine ⟨?_, ?_, ?_⟩ <;> (rintro rfl; exact absurd hc (by decide))
  rw [readValue_eq hhead, readWord?_eq_none s hc, h]
  rfl

theorem readValue_infinite (s : Bool) (room fuel : Nat) (rest : List Char) :
    readValue room (fuel + 1) (floatChars (.infinite s) ++ rest)
      = .ok (.float (.infinite s), rest) := by
  have hword :
      readWord? (floatChars (.infinite s) ++ rest) = some (.float (.infinite s), rest) := by
    cases s with
    | true => simp [readWord?, words, floatChars]
    | false => simp [readWord?, words, floatChars]
  have hhead : ∀ c ∈ (floatChars (.infinite s) ++ rest).head?, c ≠ '"' ∧ c ≠ '\x7b' ∧ c ≠ '[' := by
    intro c hc
    cases s with
    | true =>
      cases hc
      decide
    | false =>
      cases hc
      decide
  rw [readValue_eq hhead, hword]

theorem readNumber?_chars {v : Json} (hv : v.IsPlain) (hrest : EndsNumber rest)
    (indent : Option Nat) (depth : Nat) :
    (∃ s, v = .float (.infinite s))
      ∨ readNumber? (chars indent depth v ++ rest) = some (.ok (v, rest)) := by
  cases hv with
  | @int n hn =>
    right
    unfold chars
    rw [shown_ofInt]
    exact readNumber?_ofInt hn hrest
  | @float x hx =>
    cases hx with
    | infinite s => exact .inl ⟨s, rfl⟩
    | finite s u hkept hlimit =>
      right
      unfold chars floatChars
      dsimp only
      rw [Binary64.text, shown_ofChars]
      show readNumber? (signChars s
        ++ NumberLayout.measure.decimalText (if u = 0 then ⟨0, 0⟩ else Binary64.shortest u)
        ++ rest) = _
      by_cases hu : u = 0
      · have hread := readNumber?_decimalText (d := ⟨0, 0⟩) s (.inr rfl) hrest
        rw [Decimal.toBinary64_of_eq_zero s rfl] at hread
        rw [if_pos hu, hread, hu]
      · obtain ⟨hshortest, hcoefficient⟩ :=
          Binary64.toBinary64_shortest hkept (Nat.pos_of_ne_zero hu) hlimit s
        rw [if_neg hu, readNumber?_decimalText s (.inl hcoefficient) hrest, hshortest]

/-- **Plain numbers are read back.** -/
theorem readValue_of_isPlain {v : Json} (hv : v.IsPlain) (hrest : EndsNumber rest)
    (indent : Option Nat) (depth room fuel : Nat) :
    readValue room (fuel + 1) (chars indent depth v ++ rest) = .ok (v, rest) := by
  rcases readNumber?_chars hv hrest indent depth with ⟨s, rfl⟩ | hread
  · unfold chars
    exact readValue_infinite s room fuel rest
  · exact readValue_of_readNumber? hread room fuel

/-- No number starts with a gap. -/
theorem skipGap_chars {v : Json} (hv : v.IsPlain) (hrest : EndsNumber rest) (indent : Option Nat)
    (depth : Nat) : skipGap (chars indent depth v ++ rest) = chars indent depth v ++ rest := by
  rcases readNumber?_chars hv hrest indent depth with ⟨s, rfl⟩ | hread
  · cases s with
    | true => rfl
    | false => rfl
  · obtain ⟨s, c, cs', hcs, hc⟩ := exists_of_readNumber? hread
    have hgap : isGap c = false := by
      simp only [isGap, Bool.or_eq_false_iff, decide_eq_false_iff_not]
      refine ⟨⟨⟨?_, ?_⟩, ?_⟩, ?_⟩ <;> (rintro rfl; exact absurd hc (by decide))
    rw [hcs]
    cases s with
    | true => rfl
    | false =>
      show (c :: cs').dropWhile isGap = c :: cs'
      rw [List.dropWhile_cons, hgap, if_neg Bool.false_ne_true]

end Json

end PhaseSplit
