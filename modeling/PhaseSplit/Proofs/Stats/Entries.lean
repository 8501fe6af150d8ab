import Mathlib.Tactic
import PhaseSplit.Proofs.Json.Objects
import PhaseSplit.Proofs.Split.Completion
import PhaseSplit.Proofs.Stats.Percentile
import PhaseSplit.Proofs.Stats.SummaryText

/-!
# The entries of a summary

A summary that was made from statistics has one entry for each name of the columns of a table, in
that order.  Its counts and extremes are whole numbers that are not too long, everything else is a
binary number.

* `Summary.WellMade`: the summaries that statistics have;
* `PhaseStats.wellMade_addAll`: the summary of samples is one of them;
* `Summary.entries_eq`: their entries;
* `Summary.WellMade.isPlain_members`: the object of these can be read back.
-/

namespace PhaseSplit

/-! ## Kinds of quantities -/

namespace Quantity

/-- A whole number that is not too long to be read. -/
def IsWhole (q : Quantity) : Prop := ∃ n, q = .whole n ∧ n.natAbs < 10 ^ maxDigits

/-- A binary number that is one. -/
def IsBinary (q : Quantity) : Prop := ∃ x, q = .binary x ∧ x.IsNumber

/-- Quantities of the same kind. -/
def Alike (p q : Quantity) : Prop := p.IsWhole ∧ q.IsWhole ∨ p.IsBinary ∧ q.IsBinary

theorem isWhole_of_natAbs_lt {n : Int} {k : Nat} (h : n.natAbs < 2 ^ k) (hk : k ≤ 1024) :
    (whole n).IsWhole := by
  refine ⟨n, rfl, h.trans_le (Decimal.two_pow_le_ten_pow ?_)⟩
  have hdigits : maxDigits = 4300 := rfl
  omega

theorem isBinary_zero : (binary .zero).IsBinary := ⟨_, rfl, Binary64.isNumber_finite_zero false⟩

end Quantity

/-- A summary as statistics make it. -/
structure Summary.WellMade (s : Summary) : Prop where
  count : s.count.IsWhole
  errorCount : s.errorCount.IsWhole
  errorPercentage : s.errorPercentage.IsBinary
  average : s.average.IsBinary
  least : s.least.IsWhole
  greatest : s.greatest.IsWhole
  keys : s.percentiles.map (·.1) = summaryPercentiles
  values : ∀ entry ∈ s.percentiles, entry.2.IsBinary
  throughput : s.throughput.IsBinary
  receivedRate : s.receivedRate.IsBinary
  sentRate : s.sentRate.IsBinary

theorem Summary.wellMade_empty : Summary.empty.WellMade where
  count := Quantity.isWhole_of_natAbs_lt (k := 0) (by decide) (by decide)
  errorCount := Quantity.isWhole_of_natAbs_lt (k := 0) (by decide) (by decide)
  errorPercentage := Quantity.isBinary_zero
  average := Quantity.isBinary_zero
  least := Quantity.isWhole_of_natAbs_lt (k := 0) (by decide) (by decide)
  greatest := Quantity.isWhole_of_natAbs_lt (k := 0) (by decide) (by decide)
  keys := by
    show (summaryPercentiles.map fun p => (p, Quantity.binary .zero)).map (·.1) = _
    rw [List.map_map]
    exact List.map_id _
  values := by
    intro entry hentry
    obtain ⟨p, -, rfl⟩ := List.mem_map.1 hentry
    exact Quantity.isBinary_zero
  throughput := Quantity.isBinary_zero
  receivedRate := Quantity.isBinary_zero
  sentRate := Quantity.isBinary_zero

/-! ## The parts of a summary -/

namespace Binary64

variable {x y : Binary64} {j : Nat}

theorem isNumber_div_of_atLeast (hx : x.IsNumber) (hy : y.AtLeast j) : (x.div y).IsNumber := by
  obtain ⟨t, v, hv⟩ := hy
  exact isNumber_div hx (pos_of_one_le hv).ne'

theorem isNumber_zero : zero.IsNumber := isNumber_finite_zero false

theorem isNumber_mul_ofInt {k : Nat} {n : Int} (hx : x.Below k) (hy : ofInt n = .ok y) :
    (x.mul y).IsNumber := by
  obtain ⟨s, u, -⟩ := hx
  obtain ⟨t, v, rfl, -⟩ := exists_of_ofInt hy
  exact isNumber_mul s t u v

theorem isNumber_div_ofInt {n : Int} (hx : x.IsNumber) (hn : n ≠ 0) (hy : ofInt n = .ok y) :
    (x.div y).IsNumber := by
  obtain ⟨t, v, rfl, hv⟩ := exists_of_ofInt hy
  exact isNumber_div hx (hv hn)

end Binary64

section

open Binary64

variable {x seconds : Binary64} {n : Int} {j : Nat}

theorem isNumber_requestRate (hseconds : seconds.AtLeast j)
    (h : requestRate n (.binary seconds) = .ok x) : x.IsNumber := by
  unfold requestRate at h
  split at h
  · cases h
    exact isNumber_zero
  · obtain ⟨y, hy, h⟩ := bind_eq_ok_iff.1 h
    cases h
    exact isNumber_div_of_atLeast (isNumber_ofInt hy) hseconds

theorem isNumber_kilobyteRate (hseconds : seconds.AtLeast j)
    (h : kilobyteRate n (.binary seconds) = .ok x) : x.IsNumber := by
  have hkilobyte : (exactly 1024).AtLeast 0 :=
    atLeast_exactly (by decide) (show 1024 < 2 ^ 11 by decide) (by decide)
  unfold kilobyteRate at h
  split at h
  · cases h
    exact isNumber_zero
  · obtain ⟨y, hy, h⟩ := bind_eq_ok_iff.1 h
    cases h
    exact isNumber_div_of_atLeast (isNumber_div_of_atLeast (isNumber_ofInt hy) hkilobyte) hseconds

theorem isNumber_percentileValue {ordered : Array Int} {p : Quantity}
    (h : percentileValue ordered p = .ok x) : x.IsNumber := by
  unfold percentileValue at h
  split at h
  · cases h
    exact isNumber_zero
  · exact isNumber_ofInt (mapError_eq_ok_iff.1 h)

end

/-! ## The percentiles of a summary -/

theorem map_fst_of_summaryPercentiles {values : List Int} {table : PercentileTable Binary64}
    (h : percentileValues values summaryPercentiles = .ok table) :
    table.map (·.1) = summaryPercentiles := by
  have hdiffer : summaryPercentiles.Pairwise fun q p => q.same p = false := by decide +kernel
  exact map_fst_of_percentileValues hdiffer h

theorem isNumber_of_percentileValues {values : List Int} {ps : List Quantity}
    {table : PercentileTable Binary64} (h : percentileValues values ps = .ok table) :
    ∀ entry ∈ table, entry.2.IsNumber := by
  have hentries : ∀ entry ∈ table, True ∧ entry.2.IsNumber :=
    forall_of_percentileValues (P := fun _ => True) (fun _ _ => trivial)
      (fun _ _ => isNumber_percentileValue) h
  exact fun entry hentry => (hentries entry hentry).2

/-! ## Summaries from statistics -/

namespace PhaseStats

variable {s : PhaseStats} {summary : Summary}

theorem isBinary_of_rounded {x : Binary64} {places : Int} {q : Quantity} (hx : x.IsNumber)
    (h : arithmetic (.binary <$> x.roundToPlaces places) = .ok q) : q.IsBinary := by
  unfold arithmetic at h
  rw [mapError_eq_ok_iff] at h
  obtain ⟨y, hround, rfl⟩ := map_eq_ok_iff.1 h
  exact ⟨y, rfl, Binary64.isNumber_roundToPlaces hx hround⟩

/-- A summary between extremes that are not too large is well made. -/
theorem wellMade_of_summaryWithin {least greatest first last : Int} (hpos : 0 < s.count)
    (hleast : least.natAbs ≤ 2 ^ 31) (hgreatest : greatest.natAbs ≤ 2 ^ 31)
    (hfirst : first.natAbs ≤ 2 ^ 63) (hlast : last.natAbs ≤ 2 ^ 63)
    (h : s.summaryWithin least greatest first last = .ok summary) : summary.WellMade := by
  unfold summaryWithin at h
  simp only [bind_eq_ok_iff] at h
  obtain ⟨seconds, hseconds, table, htable, errors, herrors, count, hcount, h⟩ := h
  obtain ⟨errorPercentage, hpercentage, mean, hmean, average, haverage, h⟩ := h
  obtain ⟨percentiles, hpercentiles, requests, hrequests, throughput, hthroughput, h⟩ := h
  obtain ⟨received, hreceived, receivedRate, hreceivedRate, h⟩ := h
  obtain ⟨sent, hsent, sentRate, hsentRate, h⟩ := h
  cases h
  -- the time between the timestamps is at least a millisecond
  obtain ⟨seconds', hseconds', -, hatLeast⟩ := gives_spanSeconds hfirst hlast
  rw [arithmetic, mapError_eq_ok_iff, hseconds'] at hseconds
  cases hseconds
  rw [arithmetic, mapError_eq_ok_iff] at herrors hcount hmean hrequests hreceived hsent
  rw [mapError_eq_ok_iff] at htable
  have hshare : (((exactly 100).mul errors).div count).IsNumber := by
    have hhundred : (exactly 100).Below 8 := below_exactly (by decide) (by decide)
    have hproduct := Binary64.isNumber_mul_ofInt hhundred herrors
    exact Binary64.isNumber_div_ofInt hproduct (by omega) hcount
  have hbinary : ∀ entry ∈ percentiles, entry.2.IsBinary := by
    refine mapM_forall ?_ hpercentiles
    intro entry hentry rounded hrounded
    obtain ⟨q, hq, h⟩ := bind_eq_ok_iff.1 hrounded
    cases h
    exact isBinary_of_rounded (isNumber_of_percentileValues htable entry hentry) hq
  have hkeys : percentiles.map (·.1) = table.map (·.1) := by
    refine map_of_mapM ?_ hpercentiles
    intro entry rounded hrounded
    obtain ⟨q, -, h⟩ := bind_eq_ok_iff.1 hrounded
    cases h
    rfl
  exact {
    count := Quantity.isWhole_of_natAbs_lt (Binary64.natAbs_lt_of_ofInt hcount) (le_refl _)
    errorCount := Quantity.isWhole_of_natAbs_lt (Binary64.natAbs_lt_of_ofInt herrors) (le_refl _)
    errorPercentage := isBinary_of_rounded hshare hpercentage
    average := isBinary_of_rounded (Binary64.isNumber_ofQuotient hmean) haverage
    least := Quantity.isWhole_of_natAbs_lt (k := 32) (hleast.trans_lt (by decide)) (by decide)
    greatest := Quantity.isWhole_of_natAbs_lt (k := 32) (hgreatest.trans_lt (by decide)) (by decide)
    keys := hkeys.trans (map_fst_of_summaryPercentiles htable)
    values := hbinary
    throughput := isBinary_of_rounded (isNumber_requestRate hatLeast hrequests) hthroughput
    receivedRate := isBinary_of_rounded (isNumber_kilobyteRate hatLeast hreceived) hreceivedRate
    sentRate := isBinary_of_rounded (isNumber_kilobyteRate hatLeast hsent) hsentRate }

/-- The extremes of elapsed times are elapsed times. -/
structure ExtremesWithin (s : PhaseStats) : Prop where
  least_le : ∀ t ∈ s.least, t.natAbs ≤ 2 ^ 31
  greatest_le : ∀ t ∈ s.greatest, t.natAbs ≤ 2 ^ 31

theorem extremesWithin_addAll {xs : List Sample} (h : s.ExtremesWithin)
    (hxs : ∀ x ∈ xs, x.measured.InRange) : (s.addAll xs).ExtremesWithin := by
  induction xs generalizing s with
  | nil => exact h
  | cons x xs ih =>
    obtain ⟨hx, hxs⟩ := List.forall_mem_cons.1 hxs
    refine ih (s := s.add x.measured) ⟨?_, ?_⟩ hxs
    · rintro _ ⟨⟩
      exact natAbs_lesser_le h.least_le hx.elapsed
    · rintro _ ⟨⟩
      exact natAbs_greater_le h.greatest_le hx.elapsed

/-- **The summary of samples is well made.** -/
theorem wellMade_addAll {precision : Int} {xs : List Sample} (hprecision : 0 ≤ precision)
    (hxs : ∀ x ∈ xs, x.measured.InRange)
    (h : ((empty precision).addAll xs).summary = .ok summary) : summary.WellMade := by
  have hwithin := within_addAll (within_empty hprecision) hxs
  have hextremes : ((empty precision).addAll xs).ExtremesWithin :=
    extremesWithin_addAll ⟨by simp [empty], by simp [empty]⟩ hxs
  unfold PhaseStats.summary at h
  split at h
  case h_1 least greatest first last hleast hgreatest hfirst hlast =>
    have hpos := hwithin.count_pos (by rw [hleast]; rfl)
    exact wellMade_of_summaryWithin hpos (hextremes.least_le _ hleast)
      (hextremes.greatest_le _ hgreatest) (hwithin.first_le _ hfirst) (hwithin.last_le _ hlast) h
  case h_2 =>
    cases h
    exact Summary.wellMade_empty

/-- There is a sample from which the extremes are known. -/
structure HasExtremes (s : PhaseStats) : Prop where
  least : s.least.isSome
  greatest : s.greatest.isSome
  first : s.firstTimestamp.isSome
  last : s.lastTimestamp.isSome

theorem hasExtremes_addAll {xs : List Sample} (h : s.HasExtremes) : (s.addAll xs).HasExtremes := by
  induction xs generalizing s with
  | nil => exact h
  | cons x xs ih => exact ih (s := s.add x.measured) ⟨rfl, rfl, rfl, rfl⟩

/-- **The count of a summary** is the number of samples. -/
theorem count_of_summary_addAll {precision : Int} {xs : List Sample}
    (h : ((empty precision).addAll xs).summary = .ok summary) :
    summary.count = .whole xs.length := by
  cases xs with
  | nil =>
    cases h
    rfl
  | cons x xs =>
    have hextremes : ((empty precision).addAll (x :: xs)).HasExtremes :=
      hasExtremes_addAll (s := (empty precision).add x.measured) ⟨rfl, rfl, rfl, rfl⟩
    have hcount : ((empty precision).addAll (x :: xs)).count = (x :: xs).length := by
      rw [count_addAll]
      exact Nat.zero_add _
    rw [← hcount]
    generalize (empty precision).addAll (x :: xs) = s at *
    obtain ⟨least, hleast⟩ := Option.isSome_iff_exists.1 hextremes.least
    obtain ⟨greatest, hgreatest⟩ := Option.isSome_iff_exists.1 hextremes.greatest
    obtain ⟨first, hfirst⟩ := Option.isSome_iff_exists.1 hextremes.first
    obtain ⟨last, hlast⟩ := Option.isSome_iff_exists.1 hextremes.last
    unfold PhaseStats.summary at h
    rw [hleast, hgreatest, hfirst, hlast] at h
    unfold summaryWithin at h
    simp only [bind_eq_ok_iff] at h
    obtain ⟨_, -, _, -, _, -, _, -, _, -, _, -, _, -, _, -, h⟩ := h
    obtain ⟨_, -, _, -, _, -, _, -, _, -, _, -, h⟩ := h
    cases h
    rfl

end PhaseStats

/-! ## Entries -/

namespace Summary

variable {s t : Summary} {name : Text} {value : Quantity} {entries : Entries}

theorem Entries.put_of_not_mem (value : Quantity) (h : name ∉ entries.map (·.1)) :
    entries.put name value = entries ++ [(name, value)] := by
  induction entries with
  | nil => rfl
  | cons entry entries ih =>
    obtain ⟨hne, hentries⟩ := not_or.1 (mt List.mem_cons.2 h)
    rw [Entries.put, if_neg (Ne.symm hne), ih hentries, List.cons_append]

/-- Percentiles are put under their names. -/
theorem foldlM_percentileName {percentiles : PercentileTable Quantity} {names : List Text}
    (h : (percentiles.map (·.1)).mapM percentileName = .ok names) :
    percentiles.foldlM (fun (entries : Entries) (p, value) => do
      return entries.put (← percentileName p) value) entries
    = .ok ((names.zip (percentiles.map (·.2))).foldl
        (fun entries (name, value) => entries.put name value) entries) := by
  induction percentiles generalizing entries names with
  | nil =>
    cases h
    rfl
  | cons entry percentiles ih =>
    simp only [List.map_cons, List.mapM_cons, bind_eq_ok_iff] at h
    obtain ⟨name, hname, names', hnames, h⟩ := h
    cases h
    rw [List.foldlM_cons]
    dsimp only
    rw [hname]
    exact ih hnames

/-- The names of the percentiles. -/
def percentileNames : List Text :=
  [Text.lit "percentile50", Text.lit "percentile75", Text.lit "percentile90",
    Text.lit "percentile95", Text.lit "percentile99", Text.lit "percentile99.9"]

theorem mapM_percentileName : summaryPercentiles.mapM percentileName = .ok percentileNames := by
  decide +kernel

/-- All names of entries. -/
def allNames : List Text :=
  empty.leadingEntries.map (·.1) ++ percentileNames ++ empty.trailingEntries.map (·.1)

theorem nodup_allNames : allNames.Nodup := by decide +kernel

theorem length_percentileNames (h : s.percentiles.map (·.1) = summaryPercentiles) :
    percentileNames.length = (s.percentiles.map (·.2)).length := by
  have hlength := congrArg List.length h
  rw [List.length_map] at hlength
  rw [List.length_map, hlength]
  rfl

theorem map_fst_entries (h : s.percentiles.map (·.1) = summaryPercentiles) :
    (s.leadingEntries ++ percentileNames.zip (s.percentiles.map (·.2))
      ++ s.trailingEntries).map (·.1) = allNames := by
  rw [List.map_append, List.map_append, List.map_fst_zip (length_percentileNames h).le]
  rfl

/-- The entries after others have been put among them, one after the other. -/
def Entries.putAll (entries more : Entries) : Entries :=
  more.foldl (fun entries (name, value) => entries.put name value) entries

/-- Entries of new names are put after the others. -/
theorem Entries.putAll_eq_append {more : Entries} (h : ((entries ++ more).map (·.1)).Nodup) :
    entries.putAll more = entries ++ more := by
  have hput : ∀ (entries : Entries) name value, name ∉ entries.map (·.1) →
      entries.put name value = entries ++ [(name, value)] :=
    fun _ _ value => Entries.put_of_not_mem value
  exact foldl_put hput h

/-- Everything after the leading entries is put among them. -/
theorem entries_eq_putAll {names : List Text}
    (h : (s.percentiles.map (·.1)).mapM percentileName = .ok names) :
    s.entries = .ok (s.leadingEntries.putAll
      (names.zip (s.percentiles.map (·.2)) ++ s.trailingEntries)) := by
  unfold entries Entries.putAll
  rw [foldlM_percentileName h, List.foldl_append]
  rfl

/-- The entries of a summary with all percentiles, in three parts. -/
theorem entries_eq_append (h : s.percentiles.map (·.1) = summaryPercentiles) :
    s.entries = .ok (s.leadingEntries ++ percentileNames.zip (s.percentiles.map (·.2))
      ++ s.trailingEntries) := by
  have hnodup := nodup_allNames
  rw [← map_fst_entries h, List.append_assoc] at hnodup
  have hnames : (s.percentiles.map (·.1)).mapM percentileName = .ok percentileNames := by
    rw [h]
    exact mapM_percentileName
  rw [entries_eq_putAll hnames, Entries.putAll_eq_append hnodup, List.append_assoc]

/-- The names of entries are those of the summary of no samples. -/
theorem entryNames_eq : entryNames = allNames := by
  have hkeys := wellMade_empty.keys
  delta entryNames
  rw [entries_eq_append hkeys]
  exact map_fst_entries hkeys

/-- **The entries of a summary** give each name its quantity. -/
theorem entries_eq (h : s.WellMade) :
    s.entries = .ok (entryNames.zip s.quantities) := by
  have hlength := length_percentileNames h.keys
  have hleading : (empty.leadingEntries.map (·.1)).zip (s.leadingEntries.map (·.2))
      = s.leadingEntries := rfl
  have htrailing : (empty.trailingEntries.map (·.1)).zip (s.trailingEntries.map (·.2))
      = s.trailingEntries := rfl
  rw [entries_eq_append h.keys, entryNames_eq, allNames, quantities, List.zip_append,
    List.zip_append, hleading, htrailing]
  · rfl
  · rw [List.length_append, List.length_append, hlength]
    rfl

theorem length_quantities (h : s.WellMade) : s.quantities.length = entryNames.length := by
  have hlength := length_percentileNames h.keys
  rw [entryNames_eq, allNames, quantities, List.length_append, List.length_append,
    List.length_append, List.length_append, hlength]
  rfl

/-- The quantities of two summaries are of the same kinds. -/
theorem forall₂_quantities (hs : s.WellMade) (ht : t.WellMade) :
    List.Forall₂ Quantity.Alike s.quantities t.quantities := by
  have hpercentiles : List.Forall₂ Quantity.Alike (s.percentiles.map (·.2))
      (t.percentiles.map (·.2)) := by
    rw [List.forall₂_iff_zip]
    refine ⟨(length_percentileNames hs.keys).symm.trans (length_percentileNames ht.keys), ?_⟩
    intro p q hpq
    obtain ⟨hp, hq⟩ := List.of_mem_zip hpq
    obtain ⟨entry, hentry, rfl⟩ := List.mem_map.1 hp
    obtain ⟨entry', hentry', rfl⟩ := List.mem_map.1 hq
    exact .inr ⟨hs.values entry hentry, ht.values entry' hentry'⟩
  refine List.rel_append (List.rel_append ?_ hpercentiles) ?_
  · refine .cons (.inl ⟨hs.count, ht.count⟩) (.cons (.inl ⟨hs.errorCount, ht.errorCount⟩)
      (.cons (.inr ⟨hs.errorPercentage, ht.errorPercentage⟩)
      (.cons (.inr ⟨hs.average, ht.average⟩) (.cons (.inl ⟨hs.least, ht.least⟩)
      (.cons (.inl ⟨hs.greatest, ht.greatest⟩) .nil)))))
  · exact .cons (.inr ⟨hs.throughput, ht.throughput⟩)
      (.cons (.inr ⟨hs.receivedRate, ht.receivedRate⟩)
      (.cons (.inr ⟨hs.sentRate, ht.sentRate⟩) .nil))

/-! ## Members -/

-- the names of entries are never computed from the summary of no samples
attribute [local irreducible] entryNames

/-- The members of the object that a summary is written as. -/
def members (s : Summary) : Json.Members :=
  (entryNames.zip s.quantities).map fun (name, q) => (name, q.toJson)

theorem WellMade.map_fst_members (h : s.WellMade) : s.members.map (·.1) = entryNames := by
  have hlength := (length_quantities h).ge
  unfold members
  rw [List.map_map]
  exact List.map_fst_zip hlength

theorem getElem_mem_members {i : Nat} (hi : i < entryNames.length) (hi' : i < s.quantities.length) :
    (entryNames[i], s.quantities[i].toJson) ∈ s.members := by
  refine List.mem_map.2 ⟨(entryNames[i], s.quantities[i]), ?_, rfl⟩
  rw [List.mem_iff_getElem]
  have hzip : i < (entryNames.zip s.quantities).length := by
    rw [List.length_zip]
    omega
  exact ⟨i, hzip, List.getElem_zip⟩

theorem isPlainName_of_mem {name : Text} (h : name ∈ entryNames) : Json.IsPlainName name := by
  have hnames : allNames = (["count", "errorCount", "errorPercentage", "average", "min", "max",
      "percentile50", "percentile75", "percentile90", "percentile95", "percentile99",
      "percentile99.9", "throughput", "receivedKBps", "sentKBps"].map Text.lit) := rfl
  rw [entryNames_eq, hnames] at h
  obtain ⟨chars, hchars, rfl⟩ := List.mem_map.1 h
  refine ⟨chars.toList, rfl, ?_⟩
  rw [← List.forall_iff_forall_mem]
  revert chars
  decide

theorem isPlain_toJson {q : Quantity} (h : q.Alike q) : q.toJson.IsPlain := by
  obtain ⟨⟨n, rfl, hn⟩, -⟩ | ⟨⟨x, rfl, hx⟩, -⟩ := h
  · exact .int hn
  · exact .float hx

theorem WellMade.isPlain_members (h : s.WellMade) : s.members.IsPlain := by
  refine ⟨?_, ?_, ?_⟩
  · intro m hm
    obtain ⟨⟨name, q⟩, hmem, rfl⟩ := List.mem_map.1 hm
    exact isPlainName_of_mem (List.of_mem_zip hmem).1
  · intro m hm
    obtain ⟨⟨name, q⟩, hmem, rfl⟩ := List.mem_map.1 hm
    have hall := List.forall₂_same.1 (forall₂_quantities h h)
    exact isPlain_toJson (hall q (List.of_mem_zip hmem).2)
  · rw [h.map_fst_members, entryNames_eq]
    exact nodup_allNames

theorem WellMade.members_ne_nil (h : s.WellMade) : s.members ≠ [] := by
  intro hnil
  have hkeys := h.map_fst_members
  rw [hnil, entryNames_eq] at hkeys
  cases hkeys

end Summary

end PhaseSplit
