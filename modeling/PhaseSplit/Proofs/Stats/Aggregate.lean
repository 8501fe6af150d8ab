import Mathlib.Tactic
import PhaseSplit.Proofs.Split.Bookkeeping
import PhaseSplit.Proofs.Stats.Percentile

/-!
# Statistics are aggregates

The running statistics of a phase are counts, sums and extremes of its samples, updated one sample
at a time.  They are those of the list of samples, and a summary does not depend on its order.

* `PhaseStats.ofSamples`: the statistics of a list of samples, field by field;
* `PhaseStats.add_ofSamples`, `PhaseStats.addAll_eq_ofSamples`: one more sample, and all of them;
* `percentileValues_perm`, `PhaseStats.summary_perm`: what the order of the samples leaves alone;
* `Accumulator.create_eq_ok_iff`, `Accumulator.addAll_spec`: the statistics of both phases.
-/

namespace PhaseSplit

/-! ## Extremes of lists -/

section

variable {l l' : List Int} {n : Int}

theorem lesser_some (m n : Int) : lesser (some m) n = min m n := by
  show (if n < m then n else m) = min m n
  split <;> omega

theorem greater_some (m n : Int) : greater (some m) n = max m n := by
  show (if m < n then n else m) = max m n
  split <;> omega

theorem min?_concat (l : List Int) (n : Int) : (l ++ [n]).min? = some (lesser l.min? n) := by
  cases l with
  | nil => rfl
  | cons a l =>
    rw [List.cons_append, List.min?_cons', List.min?_cons', List.foldl_append, lesser_some]
    rfl

theorem max?_concat (l : List Int) (n : Int) : (l ++ [n]).max? = some (greater l.max? n) := by
  cases l with
  | nil => rfl
  | cons a l =>
    rw [List.cons_append, List.max?_cons', List.max?_cons', List.foldl_append, greater_some]
    rfl

theorem min?_perm (h : l.Perm l') : l.min? = l'.min? := by
  cases hl : l.min? with
  | none =>
    rw [List.min?_eq_none_iff] at hl
    subst hl
    rw [List.nil_perm.1 h, List.min?_nil]
  | some m =>
    obtain ⟨hmem, hleast⟩ := List.min?_eq_some_iff.1 hl
    exact (List.min?_eq_some_iff.2 ⟨h.mem_iff.1 hmem, fun b hb => hleast b (h.mem_iff.2 hb)⟩).symm

theorem max?_perm (h : l.Perm l') : l.max? = l'.max? := by
  cases hl : l.max? with
  | none =>
    rw [List.max?_eq_none_iff] at hl
    subst hl
    rw [List.nil_perm.1 h, List.max?_nil]
  | some m =>
    obtain ⟨hmem, hgreatest⟩ := List.max?_eq_some_iff.1 hl
    exact (List.max?_eq_some_iff.2
      ⟨h.mem_iff.1 hmem, fun b hb => hgreatest b (h.mem_iff.2 hb)⟩).symm

end

/-! ## One phase -/

namespace PhaseStats

variable {precision : Int} {xs ys : List Sample} {x : Sample}

/-- The statistics of a list of samples. -/
def ofSamples (precision : Int) (xs : List Sample) : PhaseStats where
  precision
  count := xs.length
  errors := xs.countP fun x => !x.success
  elapsedSum := (xs.map Sample.elapsed).sum
  least := (xs.map Sample.elapsed).min?
  greatest := (xs.map Sample.elapsed).max?
  elapsedValues := (xs.map Sample.elapsed).toArray
  received := (xs.map Sample.received).sum
  sent := (xs.map Sample.sent).sum
  firstTimestamp := (timestamps xs).min?
  lastTimestamp := (timestamps xs).max?

/-- One more sample. -/
theorem add_ofSamples (precision : Int) (xs : List Sample) (x : Sample) :
    (ofSamples precision xs).add x.measured = ofSamples precision (xs ++ [x]) := by
  have herrors : (if x.success then xs.countP (fun x => !x.success)
      else xs.countP (fun x => !x.success) + 1) = (xs ++ [x]).countP fun x => !x.success := by
    rw [List.countP_append, List.countP_singleton]
    cases x.success <;> rfl
  unfold ofSamples add timestamps Sample.measured
  dsimp only
  rw [herrors]
  simp only [List.map_append, List.map_cons, List.map_nil, min?_concat, max?_concat,
    List.sum_append, List.sum_singleton, List.length_append, List.length_singleton,
    List.push_toArray]

/-- **The running statistics are those of the samples so far.** -/
theorem addAll_eq_ofSamples (precision : Int) (xs : List Sample) :
    (empty precision).addAll xs = ofSamples precision xs := by
  induction xs using List.reverseRecOn with
  | nil => rfl
  | append_singleton xs x ih =>
    rw [← add_ofSamples, ← ih, addAll, addAll, List.foldl_append]
    rfl

/-- The extremes are missing where there are no samples, and only there. -/
theorem extremes_ofSamples (precision : Int) (xs : List Sample) :
    ((ofSamples precision xs).least = none ↔ xs = [])
      ∧ ((ofSamples precision xs).greatest = none ↔ xs = [])
      ∧ ((ofSamples precision xs).firstTimestamp = none ↔ xs = [])
      ∧ ((ofSamples precision xs).lastTimestamp = none ↔ xs = []) := by
  simp [ofSamples, timestamps]

end PhaseStats

/-! ## The order of the samples -/

theorem mergeSort_perm_eq {values values' : List Int} (h : values.Perm values') :
    values.mergeSort (· ≤ ·) = values'.mergeSort (· ≤ ·) := by
  have hperm := (List.mergeSort_perm values (· ≤ ·)).trans
    (h.trans (List.mergeSort_perm values' (· ≤ ·)).symm)
  exact List.Perm.eq_of_pairwise (fun _ _ _ _ => le_antisymm) (pairwise_mergeSort_le values)
    (pairwise_mergeSort_le values') hperm

/-- Percentiles do not depend on the order of the values, nor does their failure. -/
theorem percentileValues_perm {values values' : List Int} (ps : List Quantity)
    (h : values.Perm values') : percentileValues values ps = percentileValues values' ps := by
  unfold percentileValues
  rw [h.all_eq, mergeSort_perm_eq h]

namespace PhaseStats

variable {precision : Int} {xs ys : List Sample}

/-- Statistics of the same samples in another order differ in the order of the elapsed times. -/
theorem ofSamples_perm (precision : Int) (h : xs.Perm ys) :
    ofSamples precision ys
      = { ofSamples precision xs with elapsedValues := (ys.map Sample.elapsed).toArray } := by
  unfold ofSamples timestamps
  rw [h.length_eq, h.countP_eq, (h.map Sample.elapsed).sum_eq, (h.map Sample.received).sum_eq,
    (h.map Sample.sent).sum_eq, min?_perm (h.map Sample.elapsed), max?_perm (h.map Sample.elapsed),
    min?_perm (h.map Sample.timestamp), max?_perm (h.map Sample.timestamp)]

/-- **A summary does not depend on the order of the samples.** -/
theorem summary_perm (precision : Int) (h : xs.Perm ys) :
    (ofSamples precision xs).summary = (ofSamples precision ys).summary := by
  have hvalues : percentileValues (xs.map Sample.elapsed) summaryPercentiles
      = percentileValues (ys.map Sample.elapsed) summaryPercentiles :=
    percentileValues_perm _ (h.map Sample.elapsed)
  rw [ofSamples_perm precision h]
  unfold summary summaryWithin
  dsimp only
  have hxs : (ofSamples precision xs).elapsedValues.toList = xs.map Sample.elapsed := rfl
  rw [hxs, hvalues]

end PhaseStats

/-! ## Both phases -/

namespace Accumulator

variable {precision : Int} {a : Accumulator} {routed : List (Sample × Phase)}

/-- The accumulator for a precision, without samples. -/
def fresh (precision : Int) : Accumulator := ⟨precision, .const (.empty precision)⟩

theorem create_eq_ok_iff :
    create precision = .ok a
      ↔ 0 ≤ precision ∧ precision.natAbs < 10 ^ maxDigits ∧ a = fresh precision := by
  unfold create fresh
  rw [Decimal.ten_pow_eq]
  generalize 10 ^ maxDigits = bound
  by_cases hshort : precision.natAbs < bound
  · by_cases hneg : precision < 0
    · simp [hshort, hneg, Int.not_le.2 hneg]
    · simp [hshort, hneg, Int.not_lt.1 hneg, eq_comm]
  · simp [hshort]

/-- The statistics of each phase are those of its samples. -/
theorem get_addAll_fresh (precision : Int) (routed : List (Sample × Phase)) (p : Phase) :
    ((fresh precision).addAll routed).stats.get p = .ofSamples precision (ofPhase p routed) := by
  unfold fresh
  rw [stats_addAll, PerPhase.get_const, PhaseStats.addAll_eq_ofSamples]

theorem total_eq (a : Accumulator) :
    a.total = (a.stats.get .warmup).count + (a.stats.get .measurement).count := rfl

/-- Summaries are made of the counts of both phases and their summaries. -/
theorem summarizeAll_congr {b : Accumulator}
    (hcount : ∀ p, (a.stats.get p).count = (b.stats.get p).count)
    (hsummary : ∀ p, (a.stats.get p).summary = (b.stats.get p).summary) :
    a.summarizeAll = b.summarizeAll := by
  have hphase : ∀ p, a.summarize p = b.summarize p := by
    intro p
    unfold summarize
    dsimp only
    rw [hcount p, hsummary p]
  unfold summarizeAll
  rw [hphase, hphase]

/-- **An accumulator is an aggregate of each phase.**  There is one for every precision that is not
negative, unless the precision has too many digits to be written.  However the samples of the two
phases follow one another, the statistics of a phase are those of its samples alone, and summaries
and the total depend on the samples of each phase without their order. -/
theorem addAll_spec (precision : Int) (routed : List (Sample × Phase)) :
    (∀ a, create precision = .ok a
        ↔ 0 ≤ precision ∧ precision.natAbs < 10 ^ maxDigits ∧ a = fresh precision)
      ∧ (∀ p, ((fresh precision).addAll routed).stats.get p
          = .ofSamples precision (ofPhase p routed)
        ∧ ((((fresh precision).addAll routed).stats.get p).least = none
          ↔ ofPhase p routed = [])
        ∧ ((((fresh precision).addAll routed).stats.get p).greatest = none
          ↔ ofPhase p routed = [])
        ∧ ((((fresh precision).addAll routed).stats.get p).firstTimestamp = none
          ↔ ofPhase p routed = [])
        ∧ ((((fresh precision).addAll routed).stats.get p).lastTimestamp = none
          ↔ ofPhase p routed = []))
      ∧ ∀ routed' : List (Sample × Phase),
        (∀ p, (ofPhase p routed).Perm (ofPhase p routed')) →
        ((fresh precision).addAll routed).summarizeAll
            = ((fresh precision).addAll routed').summarizeAll
          ∧ ((fresh precision).addAll routed).total = ((fresh precision).addAll routed').total := by
  have hstats := get_addAll_fresh precision
  refine ⟨fun a => create_eq_ok_iff, ?_, ?_⟩
  · intro p
    rw [hstats]
    exact ⟨rfl, PhaseStats.extremes_ofSamples precision _⟩
  · intro routed' hperm
    have hcount : ∀ p, (((fresh precision).addAll routed).stats.get p).count
        = (((fresh precision).addAll routed').stats.get p).count := by
      intro p
      rw [hstats, hstats]
      exact (hperm p).length_eq
    refine ⟨summarizeAll_congr hcount ?_, ?_⟩
    · intro p
      rw [hstats, hstats]
      exact PhaseStats.summary_perm precision (hperm p)
    · rw [total_eq, total_eq, hcount, hcount]

/-- Three samples in one order. -/
def threeSamples : List (Sample × Phase) :=
  [(⟨1000, 30, true, 100, 20, Text.lit "a", 2⟩, .warmup),
    (⟨7000, 10, false, 100, 20, Text.lit "b", 3⟩, .measurement),
    (⟨6000, 20, true, 300, 10, Text.lit "c", 4⟩, .measurement)]

/-- The same samples in the opposite order. -/
theorem addAll_spec_reverse :
    create 2 = .ok (fresh 2)
      ∧ ((fresh 2).addAll threeSamples).summarizeAll
        = ((fresh 2).addAll threeSamples.reverse).summarizeAll
      ∧ (((fresh 2).addAll threeSamples).stats.get .measurement).firstTimestamp = some 6000 := by
  obtain ⟨hcreate, hstats, horder⟩ := addAll_spec 2 threeSamples
  have hshort : (2 : Int).natAbs < 10 ^ maxDigits :=
    Nat.lt_of_lt_of_le (by decide : (2 : Int).natAbs < 10 ^ 1)
      (Nat.pow_le_pow_right (by decide) (by decide))
  have hperm : ∀ p, (ofPhase p threeSamples).Perm (ofPhase p threeSamples.reverse) := by
    intro p
    cases p with
    | warmup => exact List.Perm.refl _
    | measurement => exact List.Perm.swap _ _ _
  refine ⟨(hcreate _).2 ⟨by decide, hshort, rfl⟩, (horder _ hperm).1, ?_⟩
  rw [(hstats .measurement).1]
  decide

end Accumulator

end PhaseSplit
