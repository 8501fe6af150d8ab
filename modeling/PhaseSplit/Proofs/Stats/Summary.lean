import Mathlib.Tactic
import PhaseSplit.Proofs.Number.Magnitude
import PhaseSplit.Proofs.Sample.Reading
import PhaseSplit.Stats.PhaseStats

/-!
# Every phase has a summary

A summary divides, rounds and turns integers into binary numbers, and each of these steps can be
refused.  None is, if the statistics were gathered from fewer than `2 ^ 63` samples that were read
from lines: the fields of a sample have a range, so sums grow by a known amount with each sample,
and the time between two timestamps never counts as less than a millisecond.

* `Measured.InRange`, `inRange_of_readLine`: what a line can contribute;
* `PhaseStats.Within`: how far statistics can have come; each sample keeps them within these bounds
  (`PhaseStats.within_add`);
* `gives_spanSeconds`, `gives_requestRate`, `gives_kilobyteRate`, `gives_percentileValues`: the
  parts of a summary;
* `forall_of_percentileValues`: what a table of percentiles can hold;
* `PhaseStats.gives_summary`: the summary.
-/

namespace PhaseSplit

/-! ## Samples in range -/

/-- What a sample contributes lies in the ranges of the fields that it comes from. -/
structure Measured.InRange (m : Measured) : Prop where
  timestamp : m.timestamp.natAbs ≤ 2 ^ 63
  elapsed : m.elapsed.natAbs ≤ 2 ^ 31
  received : m.received.natAbs ≤ 2 ^ 31
  sent : m.sent.natAbs ≤ 2 ^ 31

theorem natAbs_le_of_readInt {f : Field} {n v : Int} {columns : List Text}
    (h : f.readInt n columns = .ok v) : v.natAbs ≤ 2 ^ (f.bits - 1) := by
  obtain ⟨numeral, -, -, hrange, rfl⟩ := readInt_eq_ok_iff.1 h
  unfold Field.inRange at hrange
  have hpow : Int.pow 2 (f.bits - 1) = ((2 ^ (f.bits - 1) : Nat) : Int) :=
    (Int.natCast_pow 2 (f.bits - 1)).symm
  rw [hpow, Bool.and_eq_true, decide_eq_true_eq, decide_eq_true_eq] at hrange
  omega

/-- A sample that was read from a line is in range. -/
theorem inRange_of_readLine {limit n : Int} {line : Text} {x : Sample}
    (h : readLine limit n line = .ok (.sample x)) : x.measured.InRange := by
  obtain ⟨columns, -, hx⟩ := readLine_eq_sample_iff.1 h
  obtain ⟨ht, he, -, hr, hs, -⟩ := readSample_eq_ok_iff.1 hx
  exact ⟨natAbs_le_of_readInt ht, natAbs_le_of_readInt he, natAbs_le_of_readInt hr,
    natAbs_le_of_readInt hs⟩

/-! ## Statistics within bounds -/

namespace PhaseStats

/-- How far the statistics of `count` samples can have come. -/
structure Within (s : PhaseStats) : Prop where
  precision_nonneg : 0 ≤ s.precision
  errors_le : s.errors ≤ s.count
  elapsedSum_le : s.elapsedSum.natAbs ≤ s.count * 2 ^ 31
  received_le : s.received.natAbs ≤ s.count * 2 ^ 31
  sent_le : s.sent.natAbs ≤ s.count * 2 ^ 31
  elapsed_le : ∀ v ∈ s.elapsedValues.toList, v.natAbs ≤ 2 ^ 31
  first_le : ∀ t ∈ s.firstTimestamp, t.natAbs ≤ 2 ^ 63
  last_le : ∀ t ∈ s.lastTimestamp, t.natAbs ≤ 2 ^ 63
  count_pos : s.least.isSome → 0 < s.count

variable {s : PhaseStats} {m : Measured}

theorem within_empty {precision : Int} (h : 0 ≤ precision) : (empty precision).Within where
  precision_nonneg := h
  errors_le := le_refl _
  elapsedSum_le := Nat.zero_le _
  received_le := Nat.zero_le _
  sent_le := Nat.zero_le _
  elapsed_le := by simp [empty]
  first_le := by simp [empty]
  last_le := by simp [empty]
  count_pos := by simp [empty]

theorem natAbs_add_le_succ_mul {a b : Int} {n bound : Nat} (ha : a.natAbs ≤ n * bound)
    (hb : b.natAbs ≤ bound) : (a + b).natAbs ≤ (n + 1) * bound := by
  rw [Nat.succ_mul]
  exact (Int.natAbs_add_le a b).trans (Nat.add_le_add ha hb)

theorem natAbs_lesser_le {known : Option Int} {n : Int} {bound : Nat}
    (hknown : ∀ t ∈ known, t.natAbs ≤ bound) (hn : n.natAbs ≤ bound) :
    (lesser known n).natAbs ≤ bound := by
  cases known with
  | none => exact hn
  | some m =>
    unfold lesser
    dsimp only
    split
    · exact hn
    · exact hknown m rfl

theorem natAbs_greater_le {known : Option Int} {n : Int} {bound : Nat}
    (hknown : ∀ t ∈ known, t.natAbs ≤ bound) (hn : n.natAbs ≤ bound) :
    (greater known n).natAbs ≤ bound := by
  cases known with
  | none => exact hn
  | some m =>
    unfold greater
    dsimp only
    split
    · exact hn
    · exact hknown m rfl

/-- One more sample keeps the statistics within their bounds. -/
theorem within_add (h : s.Within) (hm : m.InRange) : (s.add m).Within where
  precision_nonneg := h.precision_nonneg
  errors_le := by
    have := h.errors_le
    unfold add
    dsimp only
    split <;> omega
  elapsedSum_le := natAbs_add_le_succ_mul h.elapsedSum_le hm.elapsed
  received_le := natAbs_add_le_succ_mul h.received_le hm.received
  sent_le := natAbs_add_le_succ_mul h.sent_le hm.sent
  elapsed_le := by
    intro v hv
    have hpush : (s.add m).elapsedValues.toList = s.elapsedValues.toList ++ [m.elapsed] :=
      Array.toList_push ..
    rw [hpush, List.mem_append, List.mem_singleton] at hv
    rcases hv with hv | rfl
    · exact h.elapsed_le v hv
    · exact hm.elapsed
  first_le := by
    rintro _ ⟨⟩
    exact natAbs_lesser_le h.first_le hm.timestamp
  last_le := by
    rintro _ ⟨⟩
    exact natAbs_greater_le h.last_le hm.timestamp
  count_pos := fun _ => Nat.succ_pos _

end PhaseStats

/-! ## The parts of a summary -/

theorem below_exactly {n k : Nat} (hn : n < 2 ^ k) (hk : k < 1024) :
    (exactly n).Below (k + 1) := Binary64.below_ofRatio _ hn hk

theorem atLeast_exactly {n k : Nat} (hpos : 0 < n) (hn : n < 2 ^ k) (hk : k < 1024) :
    (exactly n).AtLeast 0 := Binary64.atLeast_ofRatio_one _ hpos hn hk

/-- The time between two timestamps is at least a millisecond. -/
theorem gives_spanSeconds {first last : Int} (hfirst : first.natAbs ≤ 2 ^ 63)
    (hlast : last.natAbs ≤ 2 ^ 63) :
    Gives (spanSeconds first last) fun x => x.Below 67 ∧ x.AtLeast 11 := by
  have hspan : (max leastSpan (last - first)).natAbs < 2 ^ 65 := by
    unfold leastSpan
    omega
  have hne : max leastSpan (last - first) ≠ 0 := by
    unfold leastSpan
    omega
  refine (Binary64.gives_ofInt hspan (by decide)).bind ?_
  rintro millis ⟨hbelow, hatLeast⟩
  have hsecond : (exactly 1000).Below 11 := below_exactly (by decide) (by decide)
  have hsecond' : (exactly 1000).AtLeast 0 :=
    atLeast_exactly (by decide) (show 1000 < 2 ^ 10 by decide) (by decide)
  refine Gives.ok ⟨?_, ?_⟩
  · exact (Binary64.below_div hbelow hsecond' (by decide)).mono (by decide)
  · exact Binary64.atLeast_div hbelow (hatLeast hne) hsecond' hsecond (by decide) (by decide)

theorem gives_requestRate {count : Int} {seconds : Binary64} {j k : Nat}
    (hcount : count.natAbs < 2 ^ k) (hseconds : seconds.AtLeast j) (hkj : k + 1 + j < 1024) :
    Gives (requestRate count (.binary seconds)) (Binary64.Below (k + 1 + j + 1)) := by
  unfold requestRate
  split
  · exact Gives.ok (Binary64.below_zero _)
  · refine (Binary64.gives_ofInt hcount (by omega)).bind ?_
    rintro x ⟨hx, -⟩
    exact Gives.ok (Binary64.below_div hx hseconds hkj)

theorem gives_kilobyteRate {bytes : Int} {seconds : Binary64} {j k : Nat}
    (hbytes : bytes.natAbs < 2 ^ k) (hseconds : seconds.AtLeast j) (hkj : k + 2 + j < 1024) :
    Gives (kilobyteRate bytes (.binary seconds)) (Binary64.Below (k + 2 + j + 1)) := by
  unfold kilobyteRate
  split
  · exact Gives.ok (Binary64.below_zero _)
  · refine (Binary64.gives_ofInt hbytes (by omega)).bind ?_
    rintro x ⟨hx, -⟩
    have hkilobyte : (exactly 1024).AtLeast 0 :=
      atLeast_exactly (by decide) (show 1024 < 2 ^ 11 by decide) (by decide)
    have hkilobytes : (x.div bytesPerKilobyte).Below (k + 2) :=
      (Binary64.below_div hx hkilobyte (by omega)).mono (by omega)
    exact Gives.ok (Binary64.below_div hkilobytes hseconds hkj)

/-- A new entry of a table has the value that was put, under the percentile that was named or an
equal one. -/
theorem PercentileTable.mem_put {α : Type} {p : Quantity} {a : α} {table : PercentileTable α}
    {entry : Quantity × α} (h : entry ∈ table.put p a) :
    entry ∈ table ∨ entry.2 = a ∧ (entry.1 = p ∨ entry.1 ∈ table.map (·.1)) := by
  induction table with
  | nil =>
    rw [List.mem_singleton.1 h]
    exact .inr ⟨rfl, .inl rfl⟩
  | cons head table ih =>
    rw [PercentileTable.put] at h
    split at h
    · rcases List.mem_cons.1 h with rfl | h
      · exact .inr ⟨rfl, .inr (List.mem_cons_self ..)⟩
      · exact .inl (List.mem_cons_of_mem _ h)
    · rcases List.mem_cons.1 h with rfl | h
      · exact .inl (List.mem_cons_self ..)
      · rcases ih h with hmem | ⟨heq, hkey⟩
        · exact .inl (List.mem_cons_of_mem _ hmem)
        · exact .inr ⟨heq, hkey.imp_right (List.mem_cons_of_mem _)⟩

/-- A table of percentiles holds values that were computed, under percentiles that were asked
for. -/
theorem forall_of_percentileValues {values : List Int} {ps : List Quantity}
    {table : PercentileTable Binary64} {P : Quantity → Prop} {Q : Binary64 → Prop}
    (hp : ∀ p ∈ ps, P p)
    (hvalue : ∀ p x, percentileValue (values.mergeSort (· ≤ ·)).toArray p = .ok x → Q x)
    (h : percentileValues values ps = .ok table) : ∀ entry ∈ table, P entry.1 ∧ Q entry.2 := by
  unfold percentileValues at h
  split at h
  · refine foldlM_invariant (P := fun table => ∀ entry ∈ table, P entry.1 ∧ Q entry.2) ?_
      (by simp) h
    intro table p table' hmem htable hstep entry hentry
    obtain ⟨x, hx, rfl⟩ := map_eq_ok_iff.1 hstep
    rcases PercentileTable.mem_put hentry with hold | ⟨heq, rfl | hkey⟩
    · exact htable entry hold
    · exact ⟨hp _ hmem, heq ▸ hvalue _ x hx⟩
    · obtain ⟨old, hold, hkey⟩ := List.mem_map.1 hkey
      exact ⟨hkey ▸ (htable old hold).1, heq ▸ hvalue p x hx⟩
  · cases h

theorem mem_of_atPercentile {values : List Int} {p : Quantity} {v : Int}
    (h : atPercentile (values.mergeSort (· ≤ ·)).toArray p = some v) : v ∈ values := by
  unfold atPercentile at h
  rw [List.getElem?_toArray] at h
  exact List.mem_mergeSort.1 (List.mem_of_getElem? h)

/-- The values of percentiles are found if each value has a place and a binary number. -/
theorem gives_percentileValues {values : List Int} {k : Nat} (percentiles : List Quantity)
    (hfits : ∀ v ∈ values, fitsInt64 v = true)
    (hbinary : ∀ v ∈ values, Gives (Binary64.ofInt v) (Binary64.Below k)) :
    Gives (percentileValues values percentiles) fun table => ∀ entry ∈ table, entry.2.Below k := by
  unfold percentileValues
  rw [if_pos (List.all_eq_true.2 hfits)]
  have hvalue : ∀ p, Gives (percentileValue (values.mergeSort (· ≤ ·)).toArray p)
      (Binary64.Below k) := by
    intro p
    unfold percentileValue
    cases hat : atPercentile (values.mergeSort (· ≤ ·)).toArray p with
    | none => exact Gives.ok (Binary64.below_zero k)
    | some v => exact (hbinary v (mem_of_atPercentile hat)).mapError
  refine Gives.foldlM (by simp) ?_
  intro table htable p _
  refine (hvalue p).map ?_
  intro x hx entry hentry
  rcases PercentileTable.mem_put hentry with hentry | ⟨heq, -⟩
  · exact htable entry hentry
  · rw [heq]
    exact hx

theorem fitsInt64_of_natAbs_le {v : Int} (h : v.natAbs ≤ 2 ^ 31) : fitsInt64 v = true := by
  have hpow : Int.pow 2 63 = 2 ^ 63 := rfl
  unfold fitsInt64
  rw [hpow, Bool.and_eq_true, decide_eq_true_eq, decide_eq_true_eq]
  omega

theorem gives_ofInt_of_natAbs_le {v : Int} (h : v.natAbs ≤ 2 ^ 31) :
    Gives (Binary64.ofInt v) (Binary64.Below 33) := by
  have hlt : v.natAbs < 2 ^ 32 := h.trans_lt (by decide)
  exact (Binary64.gives_ofInt hlt (by decide)).imp fun _ hx => hx.1

/-! ## The summary -/

/-- Whether a quantity is a finite number. -/
def Quantity.isFinite : Quantity → Bool
  | .whole _ => true
  | .binary x => x.isFinite

/-- The quantities of a summary, in the order of their entries. -/
def Summary.quantities (s : Summary) : List Quantity :=
  s.leadingEntries.map (·.2) ++ s.percentiles.map (·.2) ++ s.trailingEntries.map (·.2)

namespace PhaseStats

variable {s : PhaseStats}

theorem gives_arithmetic {α : Type} {x : Except RangeFault α} {P : α → Prop} (h : Gives x P) :
    Gives (arithmetic x) P := h.mapError

theorem gives_rounded {x : Binary64} {k : Nat} {places : Int} (hx : x.Below k) (hk : k + 1 < 1024)
    (hplaces : 0 ≤ places) :
    Gives (arithmetic (Quantity.binary <$> x.roundToPlaces places)) (·.isFinite = true) :=
  gives_arithmetic ((Binary64.gives_roundToPlaces hx hplaces hk).map fun _ hy => hy.isFinite)

/-- A number is computed, rounded, and made part of the rest. -/
theorem gives_bind_rounded {α : Type} {x : Except RangeFault Binary64} {k : Nat} {places : Int}
    {rest : Quantity → Except SummaryFault α} {P : α → Prop} (hx : Gives x (Binary64.Below k))
    (hk : k + 1 < 1024) (hplaces : 0 ≤ places)
    (hrest : ∀ q : Quantity, q.isFinite = true → Gives (rest q) P) :
    Gives (do rest (← arithmetic (.binary <$> (← arithmetic x).roundToPlaces places))) P := by
  refine (gives_arithmetic hx).bind ?_
  intro a ha
  exact (gives_rounded ha hk hplaces).bind hrest

theorem gives_summaryWithin {least greatest first last : Int} (h : s.Within) (hpos : 0 < s.count)
    (hcount : s.count < 2 ^ 63) (hfirst : first.natAbs ≤ 2 ^ 63) (hlast : last.natAbs ≤ 2 ^ 63) :
    Gives (s.summaryWithin least greatest first last)
      fun summary => ∀ q ∈ summary.quantities, q.isFinite = true := by
  have hplaces := h.precision_nonneg
  -- a sum of fewer than `2 ^ 63` numbers of at most `2 ^ 31` each
  have hsum : ∀ {n : Int}, n.natAbs ≤ s.count * 2 ^ 31 → n.natAbs < 2 ^ 94 := by
    intro n hn
    omega
  have herrors : (s.errors : Int).natAbs < 2 ^ 63 := h.errors_le.trans_lt hcount
  have hcount' : (s.count : Int).natAbs < 2 ^ 63 := hcount
  unfold summaryWithin
  dsimp only
  refine (gives_arithmetic (gives_spanSeconds hfirst hlast)).bind ?_
  rintro seconds ⟨-, hseconds⟩
  have htable := gives_percentileValues summaryPercentiles
    (fun v hv => fitsInt64_of_natAbs_le (h.elapsed_le v hv))
    (fun v hv => gives_ofInt_of_natAbs_le (h.elapsed_le v hv))
  refine htable.mapError.bind ?_
  intro table hentries
  -- the share of errors
  refine (gives_arithmetic (Binary64.gives_ofInt herrors (by decide))).bind ?_
  rintro errors ⟨hfailed, -⟩
  refine (gives_arithmetic (Binary64.gives_ofInt hcount' (by decide))).bind ?_
  rintro count ⟨-, hall⟩
  have hhundred : (exactly 100).Below 8 := below_exactly (by decide) (by decide)
  have hproduct := Binary64.below_mul hhundred hfailed (by decide)
  have hshare := Binary64.below_div hproduct (hall (by omega)) (by decide)
  refine (gives_rounded hshare (by decide) hplaces).bind ?_
  intro errorPercentage herrorPercentage
  -- the average
  refine gives_bind_rounded (Binary64.gives_ofQuotient (hsum h.elapsedSum_le) (by decide))
    (by decide) hplaces ?_
  intro average haverage
  -- the percentiles
  have hpercentiles : Gives (table.mapM fun entry => do
      let value ← arithmetic (Quantity.binary <$> entry.2.roundToPlaces s.precision)
      return (entry.1, value)) fun rounded => ∀ entry ∈ rounded, entry.2.isFinite = true := by
    refine Gives.mapM ?_
    intro entry hentry
    exact (gives_rounded (hentries entry hentry) (by decide) hplaces).bind
      fun _ hq => Gives.ok hq
  refine hpercentiles.bind ?_
  intro percentiles hfinite
  -- the rates
  refine gives_bind_rounded (gives_requestRate hcount' hseconds (by decide)) (by decide) hplaces ?_
  intro throughput hthroughput
  refine gives_bind_rounded (gives_kilobyteRate (hsum h.received_le) hseconds (by decide))
    (by decide) hplaces ?_
  intro receivedRate hreceivedRate
  refine gives_bind_rounded (gives_kilobyteRate (hsum h.sent_le) hseconds (by decide))
    (by decide) hplaces ?_
  intro sentRate hsentRate
  refine Gives.ok ?_
  simp only [Summary.quantities, Summary.leadingEntries, Summary.trailingEntries, List.map_cons,
    List.map_nil, List.forall_mem_append, List.forall_mem_cons, List.forall_mem_map]
  exact ⟨⟨⟨rfl, rfl, herrorPercentage, haverage, rfl, rfl, by simp⟩, hfinite⟩, hthroughput,
    hreceivedRate, hsentRate, by simp⟩

/-- **Every phase of fewer than `2 ^ 63` samples has a summary**, of finite numbers. -/
theorem gives_summary (h : s.Within) (hcount : s.count < 2 ^ 63) :
    Gives s.summary fun summary => ∀ q ∈ summary.quantities, q.isFinite = true := by
  unfold summary
  split
  case h_1 least greatest first last hleast hgreatest hfirst hlast =>
    have hpos : 0 < s.count := h.count_pos (by rw [hleast]; rfl)
    exact gives_summaryWithin h hpos hcount (h.first_le _ hfirst) (h.last_le _ hlast)
  case h_2 => exact Gives.ok (by decide)

end PhaseStats

end PhaseSplit
