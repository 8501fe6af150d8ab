import Mathlib.Tactic
import PhaseSplit.Proofs.Number.Rounding
import PhaseSplit.Proofs.Split.Completion
import PhaseSplit.Proofs.Stats.Aggregate

/-!
# No step of a summary fails

A summary is made of divisions, of places in the list of elapsed times, and of integers that become
binary numbers.  Of samples that were read from lines, fewer than `2 ^ 63`, all of these are defined
in every phase: what is divided by is above zero, every rank lies within the list, and no number
leaves its range.

* `Binary64.IsPositive`: what can be divided by;
* `gives_ofInt_pos`, `gives_spanSeconds_pos`: counts and times can;
* `nearestRank_mem`: the rank of a percentile;
* `PhaseStats.Sound`, `PhaseStats.sound_ofSamples`: the steps of the summary of some samples;
* `Accumulator.summarize_completes`: the summary of a phase, with all its steps.
-/

namespace PhaseSplit

/-! ## Divisors -/

namespace Binary64

variable {x y : Binary64} {num den j k : Nat} {n : Int}

/-- A finite number above zero. -/
def IsPositive (x : Binary64) : Prop := ∃ u, 0 < u ∧ x = finite false u

/-- A number without a sign that is not too close to zero is above zero. -/
theorem isPositive_ofSteps (h : (ofSteps false num den).AtLeast j) :
    (ofSteps false num den).IsPositive := by
  unfold ofSteps at h ⊢
  dsimp only at h ⊢
  split at h
  · next hlimit =>
    obtain ⟨_, _, hone⟩ := h
    exact ⟨_, pos_of_one_le hone, if_pos hlimit⟩
  · cases h

theorem isPositive_div (hx : x.IsPositive) (hy : y.IsPositive) (h : (x.div y).AtLeast j) :
    (x.div y).IsPositive := by
  obtain ⟨u, -, rfl⟩ := hx
  obtain ⟨v, hv, rfl⟩ := hy
  rw [div_eq_ofSteps hv] at h ⊢
  exact isPositive_ofSteps h

end Binary64

theorem isPositive_exactly {n k : Nat} (hpos : 0 < n) (hn : n < 2 ^ k) (hk : k < 1024) :
    (exactly n).IsPositive := by
  have hatLeast := atLeast_exactly hpos hn hk
  unfold exactly Binary64.ofRatio at hatLeast ⊢
  exact Binary64.isPositive_ofSteps hatLeast

/-- A number of samples can be divided by, if there is a sample. -/
theorem gives_ofInt_pos {n : Int} {k : Nat} (hpos : 0 < n) (hn : n.natAbs < 2 ^ k) (hk : k < 1024) :
    Gives (Binary64.ofInt n) Binary64.IsPositive := by
  obtain ⟨x, hx, -, hatLeast⟩ := Binary64.gives_ofInt hn hk
  have hsign : decide (n < 0) = false := decide_eq_false (Int.not_lt.2 hpos.le)
  have hvalue : Binary64.ofRatio (n < 0) n.natAbs 1 = x := Binary64.eq_of_orFault hx
  have hlarge := hatLeast hpos.ne'
  rw [hsign] at hvalue
  rw [← hvalue] at hx hlarge
  exact ⟨_, hx, Binary64.isPositive_ofSteps hlarge⟩

/-- The time between two timestamps can be divided by, because it has at least a millisecond. -/
theorem gives_spanSeconds_pos {first last : Int} (hfirst : first.natAbs ≤ 2 ^ 63)
    (hlast : last.natAbs ≤ 2 ^ 63) : Gives (spanSeconds first last) Binary64.IsPositive := by
  obtain ⟨seconds, hseconds, -, hatLeast⟩ := gives_spanSeconds hfirst hlast
  obtain ⟨millis, hmillis, heq⟩ := bind_eq_ok_iff.1 hseconds
  cases heq
  have hspan : 0 < max leastSpan (last - first) := by
    unfold leastSpan
    omega
  have hspan' : (max leastSpan (last - first)).natAbs < 2 ^ 65 := by
    unfold leastSpan
    omega
  obtain ⟨millis', hmillis', hpositive⟩ := gives_ofInt_pos hspan hspan' (by decide)
  obtain rfl : millis' = millis := Except.ok.inj (hmillis'.symm.trans hmillis)
  have hsecond : millisPerSecond.IsPositive :=
    isPositive_exactly (k := 10) (by decide) (by decide) (by decide)
  exact ⟨_, hseconds, Binary64.isPositive_div hpositive hsecond hatLeast⟩

/-! ## Ranks -/

/-- The rank of a percentile is one of the places in a list. -/
theorem nearestRank_mem (p : Quantity) {count : Int} (h : 0 < count) :
    1 ≤ nearestRank p count ∧ nearestRank p count ≤ count := by
  unfold nearestRank
  split
  · unfold rankOf
    omega
  · omega

/-! ## The steps of a summary -/

namespace PhaseStats

/-- What the steps of a summary ask of the statistics of at least one sample. -/
structure Sound (s : PhaseStats) : Prop where
  /-- Shares and averages are divided by the number of samples. -/
  count : Gives (Binary64.ofInt s.count) Binary64.IsPositive
  /-- Rates are divided by the time between the first and the last timestamp. -/
  span : ∃ first last, s.firstTimestamp = some first ∧ s.lastTimestamp = some last
    ∧ Gives (spanSeconds first last) Binary64.IsPositive
  /-- Every rank is a place in the list of elapsed times. -/
  ranks : ∀ p, 1 ≤ nearestRank p s.elapsedValues.size
    ∧ nearestRank p s.elapsedValues.size ≤ s.elapsedValues.size
  /-- The elapsed times have a place in the arrays that are sorted. -/
  fits : ∀ v ∈ s.elapsedValues.toList, fitsInt64 v = true
  /-- The other integers, and the elapsed times, have binary numbers. -/
  integers : ∀ n ∈ [(s.errors : Int), s.received, s.sent] ++ s.elapsedValues.toList,
    ∃ x, Binary64.ofInt n = .ok x
  /-- So has the average. -/
  average : ∃ x, Binary64.ofQuotient s.elapsedSum s.count = .ok x

variable {precision : Int} {xs : List Sample}

/-- **The steps of the summary of some samples are defined.** -/
theorem sound_ofSamples (hprecision : 0 ≤ precision) (hxs : ∀ x ∈ xs, x.measured.InRange)
    (hlength : xs.length < 2 ^ 63) (hne : xs ≠ []) : (ofSamples precision xs).Sound := by
  have hwithin : (ofSamples precision xs).Within := by
    rw [← addAll_eq_ofSamples]
    exact within_addAll (within_empty hprecision) hxs
  obtain ⟨-, -, hfirst, hlast⟩ := extremes_ofSamples precision xs
  obtain ⟨first, hfirst⟩ := Option.ne_none_iff_exists'.1 (mt hfirst.1 hne)
  obtain ⟨last, hlast⟩ := Option.ne_none_iff_exists'.1 (mt hlast.1 hne)
  have hcount : (ofSamples precision xs).count = xs.length := rfl
  have hsize : (ofSamples precision xs).elapsedValues.size = xs.length := by
    simp [ofSamples]
  have hpos : 0 < xs.length := List.length_pos_iff.2 hne
  generalize ofSamples precision xs = s at *
  rw [← hcount] at hlength hpos hsize
  exact {
    count := gives_ofInt_pos (Int.natCast_pos.2 hpos) hlength (by decide)
    span := ⟨first, last, hfirst, hlast,
      gives_spanSeconds_pos (hwithin.first_le _ hfirst) (hwithin.last_le _ hlast)⟩
    ranks := fun p => nearestRank_mem p (by omega)
    fits := fun v hv => fitsInt64_of_natAbs_le (hwithin.elapsed_le v hv)
    integers := by
      have hbound : ∀ n ∈ [(s.errors : Int), s.received, s.sent] ++ s.elapsedValues.toList,
          n.natAbs < 2 ^ 94 := by
        have herrors := hwithin.errors_le
        have hreceived := hwithin.received_le
        have hsent := hwithin.sent_le
        rw [List.forall_mem_append]
        refine ⟨?_, fun v hv => (hwithin.elapsed_le v hv).trans_lt (by decide)⟩
        simp only [List.forall_mem_cons]
        exact ⟨by omega, by omega, by omega, by simp⟩
      exact fun n hn => (Binary64.gives_ofInt (hbound n hn) (by decide)).exists_ok
    average := by
      have hsum : s.elapsedSum.natAbs < 2 ^ 94 := by
        have := hwithin.elapsedSum_le
        omega
      exact (Binary64.gives_ofQuotient hsum (by decide)).exists_ok }

end PhaseStats

/-! ## Both phases -/

namespace Accumulator

variable {precision : Int} {routed : List (Sample × Phase)}

/-- **The summary of a phase never fails.**  Let fewer than `2 ^ 63` samples, each of them read from
some line, be added to an accumulator in any order and for either phase, whatever its precision.
Then each phase has a summary of finite numbers; it is the empty one if there is no sample, and else
every step to it is defined. -/
theorem summarize_completes (hprecision : 0 ≤ precision)
    (hread : ∀ entry ∈ routed, ∃ limit n line, readLine limit n line = .ok (.sample entry.1))
    (hlength : routed.length < 2 ^ 63) (phase : Phase) :
    (∀ a, create precision = .ok a → a = fresh precision)
      ∧ ∃ summary, (((fresh precision).addAll routed).summarize phase).2 = .ok summary
        ∧ (∀ q ∈ summary.quantities, q.isFinite = true)
        ∧ ((((fresh precision).addAll routed).stats.get phase).count = 0 → summary = .empty)
        ∧ ((((fresh precision).addAll routed).stats.get phase).count ≠ 0 →
          (((fresh precision).addAll routed).stats.get phase).Sound) := by
  have hxs : ∀ x ∈ ofPhase phase routed, x.measured.InRange := by
    intro x hx
    obtain ⟨limit, n, line, hline⟩ := hread _ (mem_ofPhase.1 hx)
    exact inRange_of_readLine hline
  have hphase : (ofPhase phase routed).length < 2 ^ 63 :=
    (length_ofPhase_le phase routed).trans_lt hlength
  obtain ⟨summary, hsummary, hfinite⟩ := PhaseStats.gives_summary_addAll hprecision hxs hphase
  rw [PhaseStats.addAll_eq_ofSamples] at hsummary
  have hcount : (((fresh precision).addAll routed).stats.get phase).count
      = (ofPhase phase routed).length := by
    rw [get_addAll_fresh]
    rfl
  refine ⟨fun a ha => (create_eq_ok_iff.1 ha).2.2, summary, ?_, hfinite, ?none, ?some⟩
  · unfold summarize
    rw [get_addAll_fresh]
    exact hsummary
  case none =>
    intro hzero
    rw [hcount, List.length_eq_zero_iff] at hzero
    rw [hzero] at hsummary
    cases hsummary
    rfl
  case some =>
    intro hpos
    rw [hcount, ne_eq, List.length_eq_zero_iff] at hpos
    rw [get_addAll_fresh]
    exact PhaseStats.sound_ofSamples hprecision hxs hphase hpos

/-- Two samples of one phase, the later one read first, and none of the other; the sizes are the
least and the greatest there are. -/
def reversedSamples : List (Sample × Phase) :=
  [(⟨9000, 12, false, -2147483648, 2147483647,
      Text.lit "9000,12,a,b,c,d,e,false,f,-2147483648,2147483647", 2⟩, .measurement),
    (⟨1000, -5, true, 1, 2, Text.lit "1000,-5,a,b,c,d,e,TRUE,f,1,2", 7⟩, .measurement)]

/-- Summaries to a quintillion places. -/
theorem summarize_completes_reversed :
    (0 : Int) ≤ 10 ^ 18
      ∧ (∃ summary, (((fresh (10 ^ 18)).addAll reversedSamples).summarize .measurement).2
        = .ok summary)
      ∧ (((fresh (10 ^ 18)).addAll reversedSamples).stats.get .measurement).Sound
      ∧ (((fresh (10 ^ 18)).addAll reversedSamples).summarize .warmup).2 = .ok .empty := by
  have hprecision : (0 : Int) ≤ 10 ^ 18 := by decide
  have hread : ∀ entry ∈ reversedSamples,
      ∃ limit n line, readLine limit n line = .ok (.sample entry.1) := by
    intro entry hentry
    refine ⟨17, entry.1.lineNumber, entry.1.line, ?_⟩
    revert entry
    decide +kernel
  have hlength : reversedSamples.length < 2 ^ 63 := by decide
  obtain ⟨-, summary, hsummary, -, -, hmeasured⟩ :=
    summarize_completes hprecision hread hlength .measurement
  obtain ⟨-, zeros, hzeros, -, hempty, -⟩ := summarize_completes hprecision hread hlength .warmup
  refine ⟨hprecision, ⟨summary, hsummary⟩, hmeasured (by decide), ?_⟩
  rw [hzeros, hempty (by decide)]

end Accumulator

end PhaseSplit
