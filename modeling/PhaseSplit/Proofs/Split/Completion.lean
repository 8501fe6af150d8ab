import Mathlib.Tactic
import PhaseSplit.Proofs.Split.Bookkeeping
import PhaseSplit.Proofs.Stats.Summary

/-!
# How a split ends

A split can fail at three points: before the first line, at a line, and at the summaries.  The first
does not depend on the lines, and the last does not happen, so a split that has started has a result
exactly when all its lines have readings.

* `SplitState.close` is the end of a split at a line or after the last one;
* `splitLines_of_start`: what a split does that starts;
* `splitLines_cases`: a split fails in the same way on all lists of lines, or it enters the readings
  of its lines into a fresh state;
* `SplitState.exists_finish`: the summaries can be computed from the samples of a file;
* `exists_result_of_summaries`, `exists_result`: a split whose lines have readings has a result.
-/

namespace PhaseSplit

/-! ## Statistics of whole files -/

namespace PhaseStats

variable {s : PhaseStats} {xs : List Sample}

/-- Any number of samples keeps statistics within their bounds. -/
theorem within_addAll (h : s.Within) (hxs : ∀ x ∈ xs, x.measured.InRange) :
    (s.addAll xs).Within := by
  induction xs generalizing s with
  | nil => exact h
  | cons x xs ih =>
    have hx : (s.add x.measured).Within := within_add h (hxs x (List.mem_cons_self ..))
    exact ih hx fun y hy => hxs y (List.mem_cons_of_mem _ hy)

theorem count_addAll : (s.addAll xs).count = s.count + xs.length := by
  induction xs generalizing s with
  | nil => rfl
  | cons x xs ih =>
    have hstep : s.addAll (x :: xs) = (s.add x.measured).addAll xs := rfl
    have hcount : (s.add x.measured).count = s.count + 1 := rfl
    rw [hstep, ih, hcount, List.length_cons]
    omega

/-- The samples of a file have a summary, if they are fewer than `2 ^ 63`. -/
theorem gives_summary_addAll {precision : Int} (hprecision : 0 ≤ precision)
    (hxs : ∀ x ∈ xs, x.measured.InRange) (hlength : xs.length < 2 ^ 63) :
    Gives ((empty precision).addAll xs).summary
      fun summary => ∀ q ∈ summary.quantities, q.isFinite = true := by
  refine gives_summary (within_addAll (within_empty hprecision) hxs) ?_
  have hzero : (empty precision).count = 0 := rfl
  rw [count_addAll, hzero, Nat.zero_add]
  exact hlength

end PhaseStats

/-- Summaries of both phases make up the summaries of a split. -/
theorem Accumulator.exists_summarizeAll {a : Accumulator}
    (h : ∀ p, ∃ summary, (a.stats.get p).summary = .ok summary) :
    ∃ log summaries, a.summarizeAll = (log, .ok summaries) := by
  obtain ⟨warmup, hwarmup⟩ := h .warmup
  obtain ⟨measurement, hmeasurement⟩ := h .measurement
  unfold summarizeAll summarize
  dsimp only
  rw [hwarmup, hmeasurement]
  exact ⟨_, _, rfl⟩

theorem length_ofPhase_le (p : Phase) (routed : List (Sample × Phase)) :
    (ofPhase p routed).length ≤ routed.length := by
  unfold ofPhase
  rw [List.length_map]
  exact List.length_filter_le _ _

/-! ## The end of a split -/

/-- What a split leaves that has come to this state, and then to the end or to a fault. -/
def SplitState.close (s : SplitState) : Option LineFault → SplitOutcome
  | none => s.finish
  | some e => s.abort e

namespace SplitState

variable {config : SplitConfig} {s : SplitState} {fault : Option LineFault}

theorem sheets_finish : s.finish.sheets = s.sheets := by
  unfold finish
  dsimp only
  split <;> rfl

theorem progress_finish : s.finish.progress = s.progress.toList := by
  unfold finish
  dsimp only
  split <;> rfl

theorem sheets_close : (s.close fault).sheets = s.sheets := by
  cases fault with
  | some e => rfl
  | none => exact sheets_finish

theorem progress_close : (s.close fault).progress = s.progress.toList := by
  cases fault with
  | some e => rfl
  | none => exact progress_finish

/-- A split that reports a line as its fault has come to that line. -/
theorem result_close_eq_line {e : LineFault} (h : (s.close fault).result = .error (.line e)) :
    fault = some e := by
  cases fault with
  | some e' =>
    have habort : Except.error (.line e') = (.error (.line e) : Except SplitFault SplitResult) := h
    cases habort
    rfl
  | none =>
    have hfinish : s.finish.result = .error (.line e) := h
    unfold finish at hfinish
    dsimp only at hfinish
    split at hfinish <;> cases hfinish

theorem result_close_eq_ok {r : SplitResult} (h : (s.close fault).result = .ok r) :
    fault = none := by
  cases fault with
  | some e => cases h
  | none => rfl

/-- A state whose statistics can be summarized comes to a result. -/
theorem exists_finish (h : ∀ a, s.accumulator = some a →
      ∀ p, ∃ summary, (a.stats.get p).summary = .ok summary) :
    ∃ r, s.finish.result = .ok r := by
  unfold finish
  cases ha : s.accumulator with
  | none => exact ⟨_, rfl⟩
  | some a =>
    obtain ⟨log, summaries, hall⟩ := Accumulator.exists_summarizeAll (h a ha)
    rw [Option.map_some]
    dsimp only
    rw [hall]
    exact ⟨_, rfl⟩

/-- A split that does not start blames no line. -/
theorem start_ne_line (f : LineFault) (log : Log) : start config ≠ .error (.line f, log) := by
  intro h
  unfold start at h
  split at h
  · cases h
  · dsimp only at h
    split at h
    · split at h <;> cases h
    · cases h

/-- The state after the lines before the first fault. -/
def atEnd (config : SplitConfig) (millis : Int) (lines : List Text) : SplitState :=
  ((fresh config millis).readHeader lines).enterAll config
    (config.readings firstRow lines.tail).1

end SplitState

/-- A split that starts comes to the end of its lines or to the first that ends it. -/
theorem splitLines_of_start {millis : Int} (lines : List Text)
    (h : SplitState.start config = .ok (.fresh config millis)) :
    splitLines config lines = (SplitState.atEnd config millis lines).close
      (config.readings SplitState.firstRow lines.tail).2 := by
  unfold splitLines SplitState.atEnd
  rw [h]
  dsimp only
  rw [SplitState.run_eq]
  rcases (config.readings SplitState.firstRow lines.tail).2 with _ | e <;> rfl

/-- **How a split ends.**  Either it does not start, whatever the lines, or it comes to the end of
its lines or to the first that ends it. -/
theorem splitLines_cases (config : SplitConfig) :
    (∃ e log, (∀ f, e ≠ .line f) ∧ ∀ lines, splitLines config lines = ⟨.empty, [], log, .error e⟩)
      ∨ ∃ millis, durationMillis config.warmupDuration config.timeUnit = .ok millis
        ∧ ∀ lines, splitLines config lines = (SplitState.atEnd config millis lines).close
          (config.readings SplitState.firstRow lines.tail).2 := by
  rcases hstart : SplitState.start config with ⟨e, log⟩ | s
  · left
    refine ⟨e, log, ?_, ?_⟩
    · rintro f rfl
      exact SplitState.start_ne_line f log hstart
    · intro lines
      unfold splitLines
      rw [hstart]
  · right
    obtain ⟨millis, hmillis, -, rfl⟩ := SplitState.start_eq_ok_iff.1 hstart
    exact ⟨millis, hmillis, fun lines => splitLines_of_start lines hstart⟩

/-! ## Splits with a result -/

section

variable {config : SplitConfig} {millis : Int} {lines : List Text} {rs : List Reading}

/-- The samples of a phase among readings, as a split with a warmup of `millis` milliseconds assigns
them. -/
def samplesIn (config : SplitConfig) (millis : Int) (rs : List Reading) (p : Phase) : List Sample :=
  ofPhase p ((SplitState.fresh config millis).router.assign (samplesOf rs))

/-- A split whose lines all have readings has a result, if the samples of each phase have a
summary. -/
theorem exists_result_of_summaries
    (hrs : config.readings SplitState.firstRow lines.tail = (rs, none))
    (hsummaries : config.summarize = true → ∀ p, ∃ summary,
      ((PhaseStats.empty config.precision).addAll (samplesIn config millis rs p)).summary
        = .ok summary) :
    ∃ r, (SplitState.atEnd config millis lines).finish.result = .ok r := by
  refine SplitState.exists_finish ?_
  intro a ha p
  unfold SplitState.atEnd at ha
  rw [hrs, SplitState.accumulator_enterAll, SplitState.accumulator_readHeader,
    SplitState.router_readHeader] at ha
  cases hsummarize : config.summarize with
  | false =>
    rw [SplitState.accumulator_fresh_of_not_summarize millis hsummarize] at ha
    cases ha
  | true =>
    have hstats : a.stats.get p
        = (PhaseStats.empty config.precision).addAll (samplesIn config millis rs p) := by
      rw [SplitState.accumulator_fresh_of_summarize millis hsummarize, Option.map_some,
        Option.some.injEq] at ha
      rw [← ha, Accumulator.stats_addAll, PerPhase.get_const]
      rfl
    rw [hstats]
    exact hsummaries hsummarize p

/-- **A split whose lines all have readings has a result**, if there are fewer than `2 ^ 63`. -/
theorem exists_result (hlength : lines.length < 2 ^ 63)
    (hrs : config.readings SplitState.firstRow lines.tail = (rs, none)) :
    ∃ r, (SplitState.atEnd config millis lines).finish.result = .ok r := by
  refine exists_result_of_summaries hrs ?_
  intro _ p
  unfold samplesIn
  set routed := (SplitState.fresh config millis).router.assign (samplesOf rs) with hrouted
  refine (PhaseStats.gives_summary_addAll config.precision_nonneg ?_ ?_).exists_ok
  · intro x hx
    have hmem : x ∈ routed.map Prod.fst := List.mem_map_of_mem (mem_ofPhase.1 hx)
    rw [hrouted, Router.map_fst_assign, samplesOf_eq_acceptedSamples hrs] at hmem
    obtain ⟨-, -, -, hread⟩ := exists_of_mem_acceptedSamples hmem
    exact inRange_of_readLine hread
  · calc (ofPhase p routed).length ≤ routed.length := length_ofPhase_le p routed
      _ = (samplesOf rs).length := Router.length_assign _ _
      _ ≤ rs.length := List.length_filterMap_le _ _
      _ = lines.tail.length := SplitConfig.length_readings hrs
      _ ≤ lines.length := by simp
      _ < 2 ^ 63 := hlength

end

end PhaseSplit
