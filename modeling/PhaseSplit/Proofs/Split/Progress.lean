import Mathlib.Tactic
import PhaseSplit.Proofs.Split.Ledgers

/-!
# Announcements of progress

A split announces its progress each time it has taken as many samples as the interval says.  It
counts samples alone, so a line that is rejected neither delays an announcement nor repeats one.

* `dueCounts`: the counts at which progress is announced;
* `SplitState.Announces`: a state has announced these counts and no others, which one reading after
  another keeps (`SplitState.Announces.enter`, `SplitState.Announces.enterAll`);
* `splitLines_progress`: the announcements of a whole split, however it ends.
-/

namespace PhaseSplit

/-- The counts of samples at which progress is announced, up to a count: the multiples of the
interval, or none if progress is not shown. -/
def dueCounts (config : SplitConfig) (count : Nat) : List Nat :=
  if config.showProgress then
    (List.range (count / config.progressInterval.toNat)).map
      fun i => (i + 1) * config.progressInterval.toNat
  else []

variable {config : SplitConfig}

theorem dueCounts_zero : dueCounts config 0 = [] := by
  unfold dueCounts
  rw [Nat.zero_div]
  split <;> rfl

theorem progressDue_iff {count : Nat} : SplitState.progressDue config count = true
    ↔ config.showProgress = true ∧ config.progressInterval.toNat ∣ count := by
  have hinterval : (config.progressInterval.toNat : Int) = config.progressInterval :=
    Int.toNat_of_nonneg config.interval_pos.le
  unfold SplitState.progressDue
  rw [Bool.and_eq_true, beq_iff_eq, ← Int.dvd_iff_emod_eq_zero, ← hinterval,
    Int.natCast_dvd_natCast]
  simp only [hinterval]

/-- One more sample makes one more announcement due, or none. -/
theorem dueCounts_succ (count : Nat) :
    dueCounts config (count + 1)
      = dueCounts config count ++ [count + 1].filter (SplitState.progressDue config) := by
  by_cases hshow : config.showProgress = true
  · by_cases hdue : config.progressInterval.toNat ∣ count + 1
    · have hlast : (count / config.progressInterval.toNat + 1) * config.progressInterval.toNat
          = count + 1 := by
        rw [← Nat.succ_div_of_dvd hdue, Nat.div_mul_cancel hdue]
      rw [List.filter_cons_of_pos (progressDue_iff.2 ⟨hshow, hdue⟩), List.filter_nil]
      unfold dueCounts
      rw [if_pos hshow, if_pos hshow, Nat.succ_div_of_dvd hdue, List.range_succ, List.map_append,
        List.map_singleton, hlast]
    · rw [List.filter_cons_of_neg fun h => hdue (progressDue_iff.1 h).2, List.filter_nil,
        List.append_nil]
      unfold dueCounts
      rw [Nat.succ_div_of_not_dvd hdue]
  · rw [List.filter_cons_of_neg fun h => hshow (progressDue_iff.1 h).1, List.filter_nil,
      List.append_nil]
    unfold dueCounts
    rw [if_neg hshow, if_neg hshow]

namespace SplitState

variable {s : SplitState} {fault : Option LineFault}

/-- A state has announced the counts that were due, and has counted the samples on its sheets. -/
structure Announces (config : SplitConfig) (s : SplitState) : Prop where
  progress : s.progress.toList = dueCounts config s.processed
  rows : s.sheets.rows.warmup + s.sheets.rows.measurement = s.processed

/-- **One reading** makes the announcement that is due after it. -/
theorem Announces.enter (h : s.Announces config) (r : Reading) :
    (s.enter config r).Announces config := by
  cases r with
  | sample x =>
    constructor
    · rw [SplitState.enter, progress_accept, processed_accept, h.progress, dueCounts_succ]
    · rw [SplitState.enter, sheets_accept, processed_accept, Sheets.writeRow, PerPhase.sum_modify,
        h.rows]
  | tooWide n line => exact ⟨h.progress, h.rows⟩
  | invalid e => exact ⟨h.progress, h.rows⟩

/-- Any number of readings makes the announcements that are due. -/
theorem Announces.enterAll (h : s.Announces config) (rs : List Reading) :
    (s.enterAll config rs).Announces config := by
  induction rs generalizing s with
  | nil => exact h
  | cons r rs ih => exact ih (h.enter r)

theorem announces_readHeader (config : SplitConfig) (millis : Int) (lines : List Text) :
    ((fresh config millis).readHeader lines).Announces config := by
  constructor
  · rw [progress_readHeader, processed_readHeader]
    exact dueCounts_zero.symm
  · rw [rows_readHeader, processed_readHeader]
    rfl

theorem announces_atEnd (config : SplitConfig) (millis : Int) (lines : List Text) :
    (atEnd config millis lines).Announces config :=
  (announces_readHeader config millis lines).enterAll _

/-- The samples on the sheets are those that were read. -/
theorem rows_atEnd (config : SplitConfig) (millis : Int) (lines : List Text) :
    (atEnd config millis lines).sheets.rows.warmup
        + (atEnd config millis lines).sheets.rows.measurement
      = (samplesOf (config.readings firstRow lines.tail).1).length := by
  have hzero : (fresh config millis).processed = 0 := rfl
  rw [(announces_atEnd config millis lines).rows]
  unfold atEnd
  rw [processed_enterAll, processed_readHeader, hzero, Nat.zero_add]

end SplitState

/-! ## Whole splits -/

section

variable {millis : Int} {lines : List Text} {e : LineFault}

/-- The samples of a file all of whose lines are read are on the sheets at the end. -/
theorem rows_atEnd_of_readings (millis : Int)
    (h : (config.readings SplitState.firstRow lines.tail).2 = none) :
    (SplitState.atEnd config millis lines).sheets.rows.warmup
        + (SplitState.atEnd config millis lines).sheets.rows.measurement
      = (acceptedSamples config lines).length := by
  rw [SplitState.rows_atEnd, samplesOf_eq_acceptedSamples (Prod.ext rfl h)]

/-- A line that ends a split leaves the samples of the lines before it on the sheets. -/
theorem rows_atEnd_of_fault (millis : Int)
    (h : (config.readings SplitState.firstRow lines.tail).2 = some e) :
    ∃ before bad later, lines = before ++ bad :: later ∧ config.EndsAt before bad e
      ∧ (SplitState.atEnd config millis lines).sheets.rows.warmup
          + (SplitState.atEnd config millis lines).sheets.rows.measurement
        = (acceptedSamples config before).length := by
  cases lines with
  | nil => cases h
  | cons header rest =>
    obtain ⟨before, bad, later, rfl, hbefore, hbad⟩ :=
      SplitConfig.exists_of_readings_error (Prod.ext rfl h)
    obtain ⟨hstate, -⟩ := SplitState.atEnd_of_fault millis header hbefore hbad later
    refine ⟨header :: before, bad, later, rfl, endsAt_of_reading hbefore hbad, ?_⟩
    rw [← List.cons_append, hstate]
    exact rows_atEnd_of_readings millis (congrArg Prod.snd hbefore)

end

/-- **The announcements of a split** are the multiples of the interval up to the number of samples
that it has written, in order, if it shows progress, and none otherwise.  With a result these are
all samples of the file; where a line ends the split, they are those of the lines before it.  Lines
that were rejected have no part in it. -/
theorem splitLines_progress (config : SplitConfig) (lines : List Text) :
    (splitLines config lines).progress
        = dueCounts config ((splitLines config lines).sheets.rows.warmup
          + (splitLines config lines).sheets.rows.measurement)
      ∧ (∀ r, (splitLines config lines).result = .ok r →
        (splitLines config lines).sheets.rows.warmup
            + (splitLines config lines).sheets.rows.measurement
          = (acceptedSamples config lines).length)
      ∧ ∀ e, (splitLines config lines).result = .error (.line e) →
        ∃ before bad later, lines = before ++ bad :: later ∧ config.EndsAt before bad e
          ∧ (splitLines config lines).sheets.rows.warmup
              + (splitLines config lines).sheets.rows.measurement
            = (acceptedSamples config before).length := by
  rcases splitLines_cases config with ⟨e₀, log, hnoLine, hall⟩ | ⟨millis, -, hall⟩
  · -- the split does not start, so it has neither a result nor a line to blame
    rw [hall]
    refine ⟨dueCounts_zero.symm, ?_, ?_⟩
    · rintro r ⟨⟩
    · intro e h
      injection h with h
      exact absurd h (hnoLine e)
  · rw [hall, SplitState.sheets_close, SplitState.progress_close]
    have hannounces := SplitState.announces_atEnd config millis lines
    refine ⟨?_, ?_, ?_⟩
    · rw [hannounces.rows, hannounces.progress]
    · intro r h
      exact rows_atEnd_of_readings millis (SplitState.result_close_eq_ok h)
    · intro e h
      exact rows_atEnd_of_fault millis (SplitState.result_close_eq_line h)

/-- The choices of `haltingConfig`, with progress after every sample. -/
def announcingConfig : SplitConfig :=
  { haltingConfig with progressInterval := 1, interval_pos := Int.one_pos }

/-- With rejected lines passed over, five samples make one announcement at an interval of three.
Without, the fifth of these lines ends the split, after two samples and a line that is rejected. -/
theorem splitLines_progress_mixedLines :
    ((splitLines mixedConfig mixedLines).result = .ok mixedResult
        ∧ (splitLines mixedConfig mixedLines).progress = [3]
        ∧ (acceptedSamples mixedConfig mixedLines).length = 5)
      ∧ (splitLines announcingConfig mixedLines).progress = [1, 2]
      ∧ (splitLines announcingConfig mixedLines).result
        = .error (.line (.invalidField ⟨5, .elapsed, some (Text.lit "1x")⟩))
      ∧ ∃ before bad later, mixedLines = before ++ bad :: later
        ∧ announcingConfig.EndsAt before bad (.invalidField ⟨5, .elapsed, some (Text.lit "1x")⟩)
        ∧ (acceptedSamples announcingConfig before).length = 2 := by
  have hrows : (splitLines mixedConfig mixedLines).sheets.rows = ⟨3, 2⟩ := by decide +kernel
  have hrows' : (splitLines announcingConfig mixedLines).sheets.rows = ⟨1, 1⟩ := by decide +kernel
  have hends : (splitLines announcingConfig mixedLines).result
      = .error (.line (.invalidField ⟨5, .elapsed, some (Text.lit "1x")⟩)) := by decide +kernel
  obtain ⟨hprogress, hresult, -⟩ := splitLines_progress mixedConfig mixedLines
  obtain ⟨hprogress', -, hfault⟩ := splitLines_progress announcingConfig mixedLines
  obtain ⟨before, bad, later, hlines, hbad, hcount⟩ := hfault _ hends
  have hcount' := hresult _ splitLines_mixedLines
  rw [hrows] at hprogress hcount'
  rw [hrows'] at hprogress' hcount
  exact ⟨⟨splitLines_mixedLines, hprogress, hcount'.symm⟩, hprogress', hends, before, bad, later,
    hlines, hbad, hcount.symm⟩

end PhaseSplit
