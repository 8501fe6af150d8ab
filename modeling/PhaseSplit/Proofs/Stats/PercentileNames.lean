import Mathlib.Tactic
import PhaseSplit.Proofs.Number.Equality
import PhaseSplit.Proofs.Number.Significant
import PhaseSplit.Proofs.Stats.Entries

/-!
# Percentiles under their names

A percentile is written under a name that shows six significant digits of it.  Percentiles with the
same six digits have one name, and of their values only the last is written; all other entries of a
summary are there, in their order.

* `Quantity.WithinHundred`, `Quantity.sixDigits?`: percentiles, and what their names show of them;
* `Summary.percentileName_of_withinHundred`, `Summary.percentileName_eq_iff`: the name of a
  percentile, and percentiles with one name;
* `Summary.Entries.length_putAll_eq_iff`, `Summary.Entries.lookup_putAll_of_not_mem`: entries that
  are put one after the other;
* `Summary.entries_percentiles`: the entries of a summary with any percentiles.
-/

namespace PhaseSplit

/-! ## Values of percentiles -/

namespace Quantity

variable {p q : Quantity} {v w : ℚ}

/-- The value of a quantity, if it is finite. -/
def value? (p : Quantity) : Option ℚ := p.steps?.map fun (u : Int) => (u : ℚ) / Binary64.one

/-- A quantity whose value is above zero and up to one hundred. -/
def WithinHundred (p : Quantity) : Prop := ∃ v, p.value? = some v ∧ 0 < v ∧ v ≤ 100

/-- The value of a quantity in six significant digits. -/
def sixDigits? (p : Quantity) : Option ℚ := p.value?.map (toSignificant 6)

/-- Two values that are more than a ten-thousandth apart. -/
def Apart (p q : Quantity) : Prop := ∀ v ∈ p.value?, ∀ w ∈ q.value?, 1 / 10 ^ 4 < |v - w|

/-- Percentiles are recognized by their steps. -/
theorem withinHundred_iff :
    p.WithinHundred ↔ ∃ u ∈ p.steps?, 0 < u ∧ u ≤ 100 * (Binary64.one : Int) := by
  have hone : (0 : ℚ) < Binary64.one := Nat.cast_pos.2 Binary64.one_pos
  have hbounds : ∀ u : Int, (0 < (u : ℚ) / Binary64.one ∧ (u : ℚ) / Binary64.one ≤ 100)
      ↔ 0 < u ∧ u ≤ 100 * (Binary64.one : Int) := by
    intro u
    rw [div_pos_iff_of_pos_right hone, Int.cast_pos, div_le_iff₀ hone]
    exact and_congr_right fun _ => by exact_mod_cast Iff.rfl
  unfold WithinHundred value?
  simp only [Option.map_eq_some_iff, Option.mem_def]
  constructor
  · rintro ⟨v, ⟨u, hu, rfl⟩, hv⟩
    exact ⟨u, hu, (hbounds u).1 hv⟩
  · rintro ⟨u, hu, hu'⟩
    exact ⟨_, ⟨u, hu, rfl⟩, (hbounds u).2 hu'⟩

instance : DecidablePred WithinHundred := fun _ => decidable_of_iff _ withinHundred_iff.symm

theorem value?_whole (n : Int) : (whole n).value? = some (n : ℚ) := by
  have hone : (Binary64.one : ℚ) ≠ 0 := Nat.cast_ne_zero.2 Binary64.one_pos.ne'
  rw [value?, steps?, Option.map_some, Int.cast_mul, Int.cast_natCast, mul_div_cancel_right₀ _ hone]

/-- A percentile as a binary number, which has the same value. -/
theorem WithinHundred.exists_toBinary64 (h : p.WithinHundred) :
    ∃ u : Nat, 0 < u ∧ p.toBinary64 = .ok (.finite false u)
      ∧ p.value? = some ((u : ℚ) / Binary64.one) := by
  have hone : (0 : ℚ) < Binary64.one := Nat.cast_pos.2 Binary64.one_pos
  obtain ⟨v, hv, hpos, hle⟩ := h
  cases p with
  | whole n =>
    rw [value?_whole, Option.some.injEq] at hv
    subst hv
    obtain ⟨m, rfl⟩ := Int.eq_ofNat_of_zero_le (Int.cast_pos.1 hpos).le
    have hm : m ≤ 100 := by exact_mod_cast hle
    have hm' : 0 < m := by exact_mod_cast hpos
    refine ⟨m * Binary64.one, Nat.mul_pos hm' Binary64.one_pos,
      Binary64.ofInt_natCast (hm.trans (by decide)), ?_⟩
    rw [value?_whole, Nat.cast_mul, mul_div_cancel_right₀ _ hone.ne']
    rfl
  | binary x =>
    cases x with
    | finite s u =>
      rw [value?, steps?, Binary64.signedSteps?, Option.map_some, Option.some.injEq] at hv
      subst hv
      rw [div_pos_iff_of_pos_right hone, Int.cast_pos] at hpos
      cases s with
      | false =>
        rw [if_neg Bool.false_ne_true] at hpos
        exact ⟨u, by exact_mod_cast hpos, rfl, rfl⟩
      | true =>
        rw [if_pos rfl] at hpos
        omega
    | infinite s => cases hv
    | nan => cases hv

/-- Percentiles that are apart differ in six digits. -/
theorem Apart.sixDigits?_ne (hp : p.WithinHundred) (hq : q.WithinHundred) (h : p.Apart q) :
    p.sixDigits? ≠ q.sixDigits? := by
  obtain ⟨v, hv, hpos, hle⟩ := hp
  obtain ⟨w, hw, hpos', hle'⟩ := hq
  rw [sixDigits?, sixDigits?, hv, hw, Option.map_some, Option.map_some, ne_eq, Option.some.injEq]
  exact toSignificant_ne_of_apart hpos hle hpos' hle' (h v hv w hw)

end Quantity

/-! ## Names -/

namespace Summary

variable {s : Summary} {p q : Quantity} {name : Text} {value : Quantity}

/-- What stands before the digits of every name of a percentile. -/
def percentileWord : Text := Text.lit "percentile"

/-- **The name of a percentile** shows its six digits. -/
theorem percentileName_of_withinHundred (h : p.WithinHundred) :
    ∃ u : Nat, 0 < u ∧ p.sixDigits? = some (toSignificant 6 ((u : ℚ) / Binary64.one))
      ∧ percentileName p = .ok (percentileWord
        ++ Text.ofChars (NumberLayout.label.decimalText (Binary64.significant u 6))) := by
  obtain ⟨u, hpos, hbinary, hvalue⟩ := h.exists_toBinary64
  refine ⟨u, hpos, by rw [Quantity.sixDigits?, hvalue, Option.map_some], ?_⟩
  unfold percentileName
  rw [hbinary]
  show Except.ok (_ ++ Binary64.labelText (.finite false u)) = _
  rw [Binary64.labelText, NumberLayout.numberText, if_neg hpos.ne', if_neg Bool.false_ne_true,
    List.nil_append]
  rfl

/-- **Percentiles have one name** exactly when they have the same six digits. -/
theorem percentileName_eq_iff (hp : p.WithinHundred) (hq : q.WithinHundred) :
    percentileName p = percentileName q ↔ p.sixDigits? = q.sixDigits? := by
  obtain ⟨u, hu, hdigits, hname⟩ := percentileName_of_withinHundred hp
  obtain ⟨v, hv, hdigits', hname'⟩ := percentileName_of_withinHundred hq
  have hchars : ∀ cs ds : List Char, Text.ofChars cs = Text.ofChars ds ↔ cs = ds :=
    fun _ _ => (List.map_injective_iff.2 fun _ _ => Glyph.char.inj).eq_iff
  rw [hname, hname', hdigits, hdigits', Except.ok.injEq, List.append_cancel_left_eq, hchars,
    Option.some.injEq, Binary64.decimalText_significant_inj _ hu hv (by decide)]

/-- The names of the entries that are no percentiles. -/
def fixedNames : List Text := empty.leadingEntries.map (·.1) ++ empty.trailingEntries.map (·.1)

theorem nodup_fixedNames : fixedNames.Nodup := by decide +kernel

/-- No percentile has the name of another entry. -/
theorem not_mem_fixedNames (h : p.WithinHundred) (hname : percentileName p = .ok name) :
    name ∉ fixedNames := by
  have hword : ∀ fixed ∈ fixedNames, percentileWord.isPrefixOf fixed = false := by decide +kernel
  obtain ⟨u, -, -, hname'⟩ := percentileName_of_withinHundred h
  obtain rfl := Except.ok.inj (hname.symm.trans hname')
  intro hmem
  have hprefix := hword _ hmem
  rw [List.isPrefixOf_iff_prefix.2 (List.prefix_append ..)] at hprefix
  cases hprefix

/-! ## Entries put one after the other -/

namespace Entries

variable {entries more : Entries} {n : Text}

theorem length_put_of_mem (value : Quantity) (h : name ∈ entries.map (·.1)) :
    (entries.put name value).length = entries.length := by
  induction entries with
  | nil => cases h
  | cons entry entries ih =>
    rw [put]
    split
    · rfl
    · next hne =>
      have hmem := (List.mem_cons.1 h).resolve_left (Ne.symm hne)
      rw [List.length_cons, List.length_cons, ih hmem]

theorem length_put_le (name : Text) (value : Quantity) (entries : Entries) :
    (entries.put name value).length ≤ entries.length + 1 := by
  by_cases hmem : name ∈ entries.map (·.1)
  · rw [length_put_of_mem value hmem]
    exact Nat.le_succ _
  · rw [put_of_not_mem value hmem, List.length_append, List.length_singleton]

theorem putAll_cons (entry : Text × Quantity) (entries more : Entries) :
    entries.putAll (entry :: more) = (entries.put entry.1 entry.2).putAll more := rfl

theorem putAll_append (entries more more' : Entries) :
    entries.putAll (more ++ more') = (entries.putAll more).putAll more' := List.foldl_append

theorem length_putAll_le (entries more : Entries) :
    (entries.putAll more).length ≤ entries.length + more.length := by
  induction more generalizing entries with
  | nil => exact le_refl _
  | cons entry more ih =>
    have hrest := ih (entries.put entry.1 entry.2)
    have hput := length_put_le entry.1 entry.2 entries
    rw [putAll_cons, List.length_cons]
    omega

/-- **No entry is lost** exactly when all names are different. -/
theorem length_putAll_eq_iff (h : (entries.map (·.1)).Nodup) :
    (entries.putAll more).length = entries.length + more.length
      ↔ ((entries ++ more).map (·.1)).Nodup := by
  refine ⟨?_, fun hnodup => by rw [putAll_eq_append hnodup, List.length_append]⟩
  induction more generalizing entries with
  | nil =>
    intro
    rw [List.append_nil]
    exact h
  | cons entry more ih =>
    intro hlength
    rw [putAll_cons] at hlength
    by_cases hmem : entry.1 ∈ entries.map (·.1)
    · -- the entry replaces another
      have hle := length_putAll_le (entries.put entry.1 entry.2) more
      rw [length_put_of_mem _ hmem, hlength, List.length_cons] at hle
      omega
    · have happend : entries.put entry.1 entry.2 = entries ++ [entry] :=
        put_of_not_mem entry.2 hmem
      have hnodup : ((entries ++ [entry]).map (·.1)).Nodup := by
        rw [List.map_append, List.map_singleton, List.nodup_append_comm, List.singleton_append,
          List.nodup_cons]
        exact ⟨hmem, h⟩
      have hrest := ih hnodup
      rw [List.append_assoc, List.singleton_append] at hrest
      apply hrest
      rw [← happend, hlength, happend, List.length_append, List.length_singleton, List.length_cons]
      omega

theorem lookup_put_self (name : Text) (value : Quantity) (entries : Entries) :
    (entries.put name value).lookup name = some value := by
  induction entries with
  | nil => simp [put]
  | cons entry entries ih =>
    rw [put]
    split
    · next heq => simp [heq]
    · next hne => rw [List.lookup_cons, beq_false_of_ne (Ne.symm hne), ih]

theorem lookup_put_of_ne (value : Quantity) (h : n ≠ name) :
    (entries.put name value).lookup n = entries.lookup n := by
  induction entries with
  | nil => simp [put, h]
  | cons entry entries ih =>
    obtain ⟨first, v⟩ := entry
    rw [put]
    split
    · next heq => rw [List.lookup_cons, List.lookup_cons, heq, beq_false_of_ne h]
    · rw [List.lookup_cons, List.lookup_cons, ih]

/-- Entries of other names do not matter. -/
theorem lookup_putAll_of_not_mem (h : n ∉ more.map (·.1)) :
    (entries.putAll more).lookup n = entries.lookup n := by
  induction more generalizing entries with
  | nil => rfl
  | cons entry more ih =>
    obtain ⟨hne, hmore⟩ := not_or.1 (mt List.mem_cons.2 h)
    rw [putAll_cons, ih hmore, lookup_put_of_ne _ hne]

end Entries

/-! ## Summaries -/

/-- The name of a percentile that has one. -/
def nameOf (p : Quantity) : Text := ((percentileName p).toOption).getD []

theorem percentileName_eq_ok (h : p.WithinHundred) : percentileName p = .ok (nameOf p) := by
  obtain ⟨u, -, -, hname⟩ := percentileName_of_withinHundred h
  rw [nameOf, hname]
  rfl

theorem nameOf_eq_iff (hp : p.WithinHundred) (hq : q.WithinHundred) :
    nameOf p = nameOf q ↔ p.sixDigits? = q.sixDigits? := by
  rw [← percentileName_eq_iff hp hq, percentileName_eq_ok hp, percentileName_eq_ok hq,
    Except.ok.injEq]

/-- Percentiles under their names. -/
def named (table : PercentileTable Quantity) : Entries :=
  table.map fun entry => (nameOf entry.1, entry.2)

theorem zip_named (table : PercentileTable Quantity) :
    ((named table).map (·.1)).zip (table.map (·.2)) = named table := by
  have hvalues : table.map (·.2) = (named table).map (·.2) := by
    rw [named, List.map_map]
    rfl
  rw [hvalues, ← List.unzip_fst, ← List.unzip_snd, List.zip_unzip]

section

variable (h : ∀ entry ∈ s.percentiles, entry.1.WithinHundred)

include h

theorem mapM_percentileName_eq :
    (s.percentiles.map (·.1)).mapM percentileName = .ok ((named s.percentiles).map (·.1)) := by
  have hnames : ∀ p ∈ s.percentiles.map (·.1), percentileName p = .ok (nameOf p) := by
    intro p hp
    obtain ⟨entry, hentry, rfl⟩ := List.mem_map.1 hp
    exact percentileName_eq_ok (h entry hentry)
  rw [mapM_of_forall hnames, named, List.map_map, List.map_map]
  rfl

theorem entries_eq_named :
    s.entries = .ok (s.leadingEntries.putAll (named s.percentiles ++ s.trailingEntries)) := by
  rw [entries_eq_putAll (mapM_percentileName_eq h), zip_named]

/-- The names of a summary are all different when the six digits of its percentiles are. -/
theorem nodup_names_iff :
    ((s.leadingEntries ++ (named s.percentiles ++ s.trailingEntries)).map (·.1)).Nodup
      ↔ s.percentiles.Pairwise fun a b => a.1.sixDigits? ≠ b.1.sixDigits? := by
  have hperm : (s.leadingEntries ++ (named s.percentiles ++ s.trailingEntries)).map (·.1)
      |>.Perm ((named s.percentiles).map (·.1) ++ fixedNames) := by
    rw [List.map_append, List.map_append]
    exact List.perm_append_comm_assoc ..
  have hapart : ((named s.percentiles).map (·.1)).Disjoint fixedNames := by
    intro name hname
    rw [named, List.map_map] at hname
    obtain ⟨entry, hentry, rfl⟩ := List.mem_map.1 hname
    exact not_mem_fixedNames (h entry hentry) (percentileName_eq_ok (h entry hentry))
  have hsame : ∀ {a b}, a ∈ s.percentiles → b ∈ s.percentiles →
      (nameOf a.1 ≠ nameOf b.1 ↔ a.1.sixDigits? ≠ b.1.sixDigits?) :=
    fun ha hb => not_congr (nameOf_eq_iff (h _ ha) (h _ hb))
  rw [hperm.nodup_iff, List.nodup_append', and_iff_left ⟨nodup_fixedNames, hapart⟩, named,
    List.map_map, List.Nodup, List.pairwise_map]
  exact List.Pairwise.iff_of_mem hsame

end

/-- The entry of a percentile has its value, unless a later percentile has the same six digits. -/
theorem lookup_nameOf {before later : PercentileTable Quantity} {entry : Quantity × Quantity}
    (h : ∀ e ∈ s.percentiles, e.1.WithinHundred)
    (hsplit : s.percentiles = before ++ entry :: later)
    (hlater : ∀ e ∈ later, e.1.sixDigits? ≠ entry.1.sixDigits?) :
    (s.leadingEntries.putAll (named s.percentiles ++ s.trailingEntries)).lookup (nameOf entry.1)
      = some entry.2 := by
  rw [hsplit] at h
  obtain ⟨-, hentry, hrest⟩ := List.forall_mem_append.1 h |>.imp_right List.forall_mem_cons.1
  have hnamed : named s.percentiles ++ s.trailingEntries
      = named before ++ (nameOf entry.1, entry.2) :: (named later ++ s.trailingEntries) := by
    rw [hsplit, named, List.map_append, List.map_cons, List.append_assoc, List.cons_append]
    rfl
  have hnot : nameOf entry.1 ∉ (named later ++ s.trailingEntries).map (·.1) := by
    rw [List.map_append, List.mem_append, named, List.map_map]
    rintro (hmem | hmem)
    · obtain ⟨e, he, hname⟩ := List.mem_map.1 hmem
      exact hlater e he ((nameOf_eq_iff (hrest e he) hentry).1 hname)
    · exact not_mem_fixedNames hentry (percentileName_eq_ok hentry)
        (List.mem_append_right _ hmem)
  rw [hnamed, Entries.putAll_append, Entries.putAll_cons, Entries.lookup_putAll_of_not_mem hnot,
    Entries.lookup_put_self]

/-- **The entries of a summary.**  Under a name that shows six significant digits of it, each
percentile has its value, unless a later one has the same six digits and replaces it.  So there are
nine more entries than percentiles exactly when no two percentiles have the same six digits, as is
the case when they are more than a ten-thousandth apart; then the percentiles stand in their order
between the six leading entries and the three trailing ones. -/
theorem entries_percentiles {s : Summary}
    (h : ∀ entry ∈ s.percentiles, entry.1.WithinHundred) :
    ∃ names entries, (s.percentiles.map (·.1)).mapM percentileName = .ok names
      ∧ s.entries = .ok entries
      ∧ (∀ before entry later, s.percentiles = before ++ entry :: later →
          (∀ e ∈ later, e.1.sixDigits? ≠ entry.1.sixDigits?) →
          ∃ name, percentileName entry.1 = .ok name ∧ entries.lookup name = some entry.2)
      ∧ (entries.length = s.percentiles.length + 9
        ↔ s.percentiles.Pairwise fun a b => a.1.sixDigits? ≠ b.1.sixDigits?)
      ∧ ((s.percentiles.Pairwise fun a b => a.1.sixDigits? ≠ b.1.sixDigits?) →
        entries = s.leadingEntries ++ names.zip (s.percentiles.map (·.2)) ++ s.trailingEntries)
      ∧ ((s.percentiles.Pairwise fun a b => a.1.Apart b.1) →
        s.percentiles.Pairwise fun a b => a.1.sixDigits? ≠ b.1.sixDigits?) := by
  refine ⟨_, _, mapM_percentileName_eq h, entries_eq_named h, ?lookup, ?length, ?order, ?apart⟩
  case lookup =>
    intro before entry later hsplit hlater
    have hentry : entry ∈ s.percentiles := by
      rw [hsplit]
      exact List.mem_append_right _ List.mem_cons_self
    exact ⟨_, percentileName_eq_ok (h entry hentry), lookup_nameOf h hsplit hlater⟩
  case length =>
    have hleading : (s.leadingEntries.map (·.1)).Nodup :=
      (List.nodup_append'.1 nodup_fixedNames).1
    have hlength : s.percentiles.length + 9
        = s.leadingEntries.length + (named s.percentiles ++ s.trailingEntries).length := by
      rw [List.length_append, named, List.length_map]
      show _ = 6 + (_ + 3)
      omega
    rw [hlength, Entries.length_putAll_eq_iff hleading, nodup_names_iff h]
  case order =>
    intro hdiffer
    rw [Entries.putAll_eq_append ((nodup_names_iff h).2 hdiffer), List.append_assoc, zip_named]
  case apart =>
    intro hapart
    exact hapart.imp_of_mem fun ha hb => Quantity.Apart.sixDigits?_ne (h _ ha) (h _ hb)

/-- A summary with two percentiles, one of them a whole number. -/
def twoPercentiles : Summary :=
  { empty with percentiles :=
      [(.whole 50, .whole 38), (.binary ((Decimal.mk 999 (-1)).toBinary64 false), .whole 480)] }

theorem entries_percentiles_two :
    (∀ entry ∈ twoPercentiles.percentiles, entry.1.WithinHundred)
      ∧ (twoPercentiles.percentiles.Pairwise fun a b => a.1.sixDigits? ≠ b.1.sixDigits?)
      ∧ ∃ entries, twoPercentiles.entries = .ok entries
        ∧ entries.lookup (Text.lit "percentile99.9") = some (.whole 480) := by
  have hwithin : ∀ entry ∈ twoPercentiles.percentiles, entry.1.WithinHundred := by decide +kernel
  have hlength : twoPercentiles.entries.map List.length = .ok 11 := by decide +kernel
  have hname : percentileName (.binary ((Decimal.mk 999 (-1)).toBinary64 false))
      = .ok (Text.lit "percentile99.9") := by
    decide +kernel
  obtain ⟨_, entries, -, hentries, hlookup, hcount, -, -⟩ := entries_percentiles hwithin
  rw [hentries, Except.map, Except.ok.injEq] at hlength
  refine ⟨hwithin, hcount.1 hlength, entries, hentries, ?_⟩
  obtain ⟨name, hname', hvalue⟩ := hlookup [_] _ [] rfl (by simp)
  obtain rfl := Except.ok.inj (hname.symm.trans hname')
  exact hvalue

/-- A summary with two percentiles that are different and have the same six digits. -/
def closePercentiles : Summary :=
  { empty with percentiles :=
      [(.binary ((Decimal.mk 9999999 (-5)).toBinary64 false), .whole 1),
        (.binary ((Decimal.mk 99999999 (-6)).toBinary64 false), .whole 2)] }

/-- The value of one of them is lost. -/
theorem entries_closePercentiles :
    (∀ entry ∈ closePercentiles.percentiles, entry.1.WithinHundred)
      ∧ (closePercentiles.percentiles.Pairwise fun a b => a.1.same b.1 = false)
      ∧ ∃ entries, closePercentiles.entries = .ok entries
        ∧ entries = closePercentiles.leadingEntries ++ [(Text.lit "percentile100", .whole 2)]
          ++ closePercentiles.trailingEntries
        ∧ entries.length ≠ closePercentiles.percentiles.length + 9 := by
  refine ⟨by decide +kernel, by decide +kernel, _, ?_, rfl, by decide⟩
  decide +kernel

end Summary

end PhaseSplit
