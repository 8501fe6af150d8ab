import Mathlib.Tactic
import PhaseSplit.Proofs.Split.Completion
import PhaseSplit.Proofs.Split.Rereading

/-!
# Rejected lines

A line that a split rejects leaves nothing behind but its number and what is said about it, whatever
good columns stand before the bad one.  Without the rejected lines a file is split in the same way.

* `SplitResult.clean` is an input without the lines that a split of it has rejected;
* `SplitState.sameSamples_enterAll`: the books on samples are as if there had been no other lines;
* `SplitConfig.map_stripTerminator_kept`: what is left of an input are its samples;
* `SplitState.atEnd_of_samples`: a split comes to the same books by the samples alone;
* `splitLines_congr_skip`: where faulty fields do not show, it does not matter whether they would be
  passed over;
* `splitLines_clean`: the split without the rejected lines.
-/

namespace PhaseSplit

/-- The lines of an input whose numbers are not among the given ones; the first line is line 1. -/
def linesExcept (numbers : List Int) (lines : List Text) : List Text :=
  ((lines.zipIdx 1).filter fun numbered => (numbered.2 : Int) ∉ numbers).map Prod.fst

/-- An input without the lines that a split of it has rejected. -/
def SplitResult.clean (r : SplitResult) (lines : List Text) : List Text :=
  linesExcept (r.tooWide ++ r.invalid) lines

/-- The numbers of the rejected lines among readings. -/
def rejectedNumbers (rs : List Reading) : List Int := tooWideNumbers rs ++ invalidNumbers rs

/-! ## States -/

/-- Sheets are the same if they have the same lines and counts. -/
theorem Sheets.ext_toList {s t : Sheets}
    (hsheets : ∀ p, (s.sheets.get p).toList = (t.sheets.get p).toList)
    (hrows : ∀ p, s.rows.get p = t.rows.get p) : s = t := by
  obtain ⟨⟨warmup, measurement⟩, ⟨warmupRows, measurementRows⟩⟩ := s
  obtain ⟨⟨warmup', measurement'⟩, ⟨warmupRows', measurementRows'⟩⟩ := t
  obtain rfl : warmup = warmup' := Array.toList_inj.1 (hsheets .warmup)
  obtain rfl : measurement = measurement' := Array.toList_inj.1 (hsheets .measurement)
  obtain rfl : warmupRows = warmupRows' := hrows .warmup
  obtain rfl : measurementRows = measurementRows' := hrows .measurement
  rfl

namespace SplitState

variable {config : SplitConfig} {s t : SplitState}

/-- The number that a line had has no part in what its sample does to a state. -/
theorem enterAll_renumberFrom (k : Nat) (xs : List Sample) :
    s.enterAll config ((renumberFrom k xs).map .sample) = s.enterAll config (xs.map .sample) := by
  induction xs generalizing s k with
  | nil => rfl
  | cons x xs ih => exact ih (k + 1)

/-- Two states that agree in the books on samples. -/
structure SameSamples (s t : SplitState) : Prop where
  sheets : s.sheets = t.sheets
  router : s.router = t.router
  accumulator : s.accumulator = t.accumulator
  progress : s.progress.toList = t.progress.toList

/-- **The books on samples** are as if there had been no other lines. -/
theorem sameSamples_enterAll (rs : List Reading) :
    SameSamples (s.enterAll config ((samplesOf rs).map .sample)) (s.enterAll config rs) := by
  obtain ⟨hsamples, -, -⟩ := of_readings_samples (samplesOf rs)
  refine ⟨?sheets, ?_, ?_, ?_⟩
  case sheets =>
    apply Sheets.ext_toList
    · intro p
      rw [sheet_enterAll, sheet_enterAll, hsamples]
    · intro p
      rw [rows_enterAll, rows_enterAll, hsamples]
  · rw [router_enterAll, router_enterAll, hsamples]
  · rw [accumulator_enterAll, accumulator_enterAll, hsamples]
  · rw [progress_enterAll, progress_enterAll, hsamples]

/-- States with the same books on samples come to the same result, but for the rejected lines. -/
theorem SameSamples.result_finish (same : SameSamples s t) {r : SplitResult}
    (h : t.finish.result = .ok r) :
    s.finish.result
      = .ok { r with tooWide := s.tooWide.toList, invalid := s.invalid.toList } := by
  unfold finish at h ⊢
  dsimp only at h ⊢
  rw [same.sheets, same.router, same.accumulator]
  cases ha : t.accumulator.map Accumulator.summarizeAll with
  | none =>
    rw [ha] at h
    cases h
    rfl
  | some summarized =>
    rw [ha] at h
    rcases summarized with ⟨log, e | summaries⟩
    · cases h
    · cases h
      rfl

end SplitState

/-! ## Lines -/

namespace SplitConfig

variable {config : SplitConfig} {n m : Int} {line : Text} {lines : List Text} {rs : List Reading}

/-- A line is among the rejected ones under its own number, and only if it is no sample. -/
theorem mem_rejectedNumbers_cons_iff {r : Reading} (h : config.reading n line = .ok r) :
    m ∈ rejectedNumbers (r :: rs) ↔ r.sample? = none ∧ m = n ∨ m ∈ rejectedNumbers rs := by
  unfold rejectedNumbers
  cases r with
  | sample x => simp [Reading.sample?]
  | tooWide k l =>
    have hk := (readLine_eq_tooManyColumns (reading_eq_tooWide_iff.1 h)).1
    simp [Reading.sample?, hk]
  | invalid e =>
    have he := lineNumber_of_readLine_invalid (reading_eq_invalid_iff.1 h).2
    simp [Reading.sample?, he, or_left_comm]

/-- No rejected line comes before the first line. -/
theorem le_of_mem_rejectedNumbers (h : config.readings n lines = (rs, none))
    (hm : m ∈ rejectedNumbers rs) : n ≤ m := by
  induction lines generalizing n rs with
  | nil => cases h; simp [rejectedNumbers] at hm
  | cons line lines ih =>
    obtain ⟨r, rest, hr, hrest, rfl⟩ := readings_cons_eq_none h
    rcases (mem_rejectedNumbers_cons_iff hr).1 hm with ⟨-, rfl⟩ | hm
    · exact Int.le_refl _
    · have := ih hrest hm
      omega

/-- **What is left of an input are its samples**, when the lines of the rejected numbers are taken
away. -/
theorem map_stripTerminator_kept {first : Nat} {numbers : List Int}
    (h : config.readings first lines = (rs, none))
    (hnumbers : ∀ m : Int, first ≤ m → (m ∈ numbers ↔ m ∈ rejectedNumbers rs)) :
    (((lines.zipIdx first).filter fun numbered => (numbered.2 : Int) ∉ numbers).map Prod.fst).map
        Text.stripTerminator
      = (samplesOf rs).map Sample.line := by
  induction lines generalizing first rs with
  | nil => cases h; rfl
  | cons line lines ih =>
    obtain ⟨r, rest, hr, hrest, rfl⟩ := readings_cons_eq_none h
    have hnext : config.readings (first + 1 : Nat) lines = (rest, none) := hrest
    have hlater : ∀ m : Int, (first + 1 : Nat) ≤ m → (m ∈ numbers ↔ m ∈ rejectedNumbers rest) := by
      intro m hm
      rw [hnumbers m (by omega), mem_rejectedNumbers_cons_iff hr, or_iff_right]
      rintro ⟨-, rfl⟩
      omega
    have hfirst : (first : Int) ∈ numbers ↔ r.sample? = none := by
      rw [hnumbers first (Int.le_refl _), mem_rejectedNumbers_cons_iff hr, or_iff_left]
      · exact and_iff_left rfl
      · intro hmem
        have := le_of_mem_rejectedNumbers hrest hmem
        omega
    rw [List.zipIdx_cons, List.filter_cons]
    cases r with
    | sample x =>
      have hkept : (first : Int) ∉ numbers := fun hmem => by cases hfirst.1 hmem
      have hline := (line_of_readLine_sample (reading_eq_sample_iff.1 hr)).1
      rw [if_pos (decide_eq_true hkept), List.map_cons, List.map_cons, ih hnext hlater, ← hline]
      rfl
    | tooWide k l =>
      have hgone : (first : Int) ∈ numbers := hfirst.2 rfl
      rw [if_neg (by simpa using hgone), ih hnext hlater]
      rfl
    | invalid e =>
      have hgone : (first : Int) ∈ numbers := hfirst.2 rfl
      rw [if_neg (by simpa using hgone), ih hnext hlater]
      rfl

end SplitConfig

/-- The header is kept, and after it the samples. -/
theorem linesExcept_rejectedNumbers {config : SplitConfig} {lines : List Text} {rs : List Reading}
    (h : config.readings SplitState.firstRow lines.tail = (rs, none)) :
    (linesExcept (rejectedNumbers rs) lines).head? = lines.head?
      ∧ (linesExcept (rejectedNumbers rs) lines).tail.map Text.stripTerminator
        = (samplesOf rs).map Sample.line := by
  cases lines with
  | nil => cases h; exact ⟨rfl, rfl⟩
  | cons header lines =>
    have hrows : config.readings (2 : Nat) lines = (rs, none) := h
    have hheader : (1 : Int) ∉ rejectedNumbers rs := by
      intro hmem
      have := SplitConfig.le_of_mem_rejectedNumbers hrows hmem
      omega
    have hkept := SplitConfig.map_stripTerminator_kept hrows fun m _ => Iff.rfl
    have hcons : linesExcept (rejectedNumbers rs) (header :: lines)
        = header :: ((lines.zipIdx 2).filter fun numbered =>
          (numbered.2 : Int) ∉ rejectedNumbers rs).map Prod.fst := by
      unfold linesExcept
      rw [List.zipIdx_cons, List.filter_cons, if_pos (by simpa using hheader), List.map_cons]
    rw [hcons]
    exact ⟨rfl, hkept⟩

/-! ## Splits -/

/-- Whether faulty fields are passed over matters only to lines that have them. -/
theorem splitLines_congr_skip {config : SplitConfig} {lines : List Text} (skip : Bool)
    (h : { config with skipInvalidFields := skip }.readings SplitState.firstRow lines.tail
      = config.readings SplitState.firstRow lines.tail) :
    splitLines { config with skipInvalidFields := skip } lines = splitLines config lines := by
  have hstart : SplitState.start { config with skipInvalidFields := skip }
      = SplitState.start config := by
    unfold SplitState.start
    dsimp only
  unfold splitLines
  rw [hstart]
  cases SplitState.start config with
  | error e => rfl
  | ok s =>
    dsimp only
    rw [SplitState.run_eq, SplitState.run_eq, h]
    rfl

namespace SplitState

variable {config : SplitConfig} {lines cleaned : List Text} {rs : List Reading}

/-- Only the first line has a part in the header. -/
theorem readHeader_congr {s : SplitState} (h : cleaned.head? = lines.head?) :
    s.readHeader cleaned = s.readHeader lines := by
  cases cleaned with
  | nil =>
    cases lines with
    | nil => rfl
    | cons line lines => cases h
  | cons line cleaned =>
    cases lines with
    | nil => cases h
    | cons line' lines => cases h; rfl

/-- An input with the same header, and otherwise the samples alone, is split in the same way. -/
theorem atEnd_of_samples (millis : Int) (hhead : cleaned.head? = lines.head?)
    (hlines : config.readings firstRow lines.tail = (rs, none))
    (hcleaned : config.readings firstRow cleaned.tail
      = ((renumberFrom 2 (samplesOf rs)).map .sample, none)) :
    SameSamples (atEnd config millis cleaned) (atEnd config millis lines)
      ∧ (atEnd config millis cleaned).tooWide.toList = []
      ∧ (atEnd config millis cleaned).invalid.toList = [] := by
  unfold atEnd
  rw [readHeader_congr hhead, hlines, hcleaned]
  obtain ⟨-, hwide, hinvalid⟩ := of_readings_samples (renumberFrom 2 (samplesOf rs))
  refine ⟨?same, ?wide, ?invalid⟩
  case same =>
    rw [enterAll_renumberFrom]
    exact sameSamples_enterAll rs
  case wide =>
    rw [tooWide_enterAll, tooWide_readHeader, hwide, List.append_nil]
    rfl
  case invalid =>
    rw [invalid_enterAll, invalid_readHeader, hinvalid, List.append_nil]
    rfl

end SplitState

/-- **Rejected lines are invisible.**  When a split has a result, the split of the same input
without the rejected lines has that result too, but that it rejects no line; its outputs and its
announcements of progress are the same, and it would be the same split if lines with faulty fields
were treated otherwise. -/
theorem splitLines_clean {config : SplitConfig} {lines : List Text} {r : SplitResult}
    (h : (splitLines config lines).result = .ok r) :
    (splitLines config (r.clean lines)).result = .ok { r with tooWide := [], invalid := [] }
      ∧ (∀ phase, (splitLines config (r.clean lines)).sheets.text phase
        = (splitLines config lines).sheets.text phase)
      ∧ (splitLines config (r.clean lines)).progress = (splitLines config lines).progress
      ∧ ∀ skip, splitLines { config with skipInvalidFields := skip } (r.clean lines)
        = splitLines config (r.clean lines) := by
  obtain ⟨millis, readings, routed, books⟩ := exists_splitBooks h
  have hclean : linesExcept (rejectedNumbers readings) lines = r.clean lines := by
    unfold SplitResult.clean rejectedNumbers
    rw [books.tooWide_eq, books.invalid_eq]
  obtain ⟨hhead, htail⟩ := linesExcept_rejectedNumbers books.readings_eq
  rw [hclean] at hhead htail
  set cleaned := r.clean lines
  have hsamples : ∀ x ∈ samplesOf readings,
      readLine config.columnLimit x.lineNumber x.line = .ok (.sample x) := by
    intro x hx
    rw [books.samplesOf_eq] at hx
    obtain ⟨-, -, -, hread⟩ := exists_of_mem_acceptedSamples hx
    exact hread
  have hreadings : ∀ skip, { config with skipInvalidFields := skip }.readings SplitState.firstRow
      cleaned.tail = ((renumberFrom 2 (samplesOf readings)).map .sample, none) := fun skip =>
    SplitConfig.readings_of_samples (n := 2) htail hsamples
  rcases splitLines_cases config with ⟨e, log, -, hall⟩ | ⟨millis', -, hall⟩
  · rw [hall] at h
    cases h
  · rw [hall, books.readings_eq] at h
    obtain ⟨same, hwide, hinvalid⟩ :=
      SplitState.atEnd_of_samples millis' hhead books.readings_eq
        (hreadings config.skipInvalidFields)
    have hresult := same.result_finish h
    rw [hwide, hinvalid] at hresult
    have hsplit : splitLines config cleaned = (SplitState.atEnd config millis' cleaned).finish := by
      rw [hall, hreadings config.skipInvalidFields]
      rfl
    have hwhole : splitLines config lines = (SplitState.atEnd config millis' lines).finish := by
      rw [hall, books.readings_eq]
      rfl
    refine ⟨?result, ?texts, ?progress, ?skip⟩
    case result =>
      rw [hsplit]
      exact hresult
    case texts =>
      intro phase
      rw [hsplit, hwhole, SplitState.sheets_finish, SplitState.sheets_finish, same.sheets]
    case progress =>
      rw [hsplit, hwhole, SplitState.progress_finish, SplitState.progress_finish, same.progress]
    case skip =>
      intro skip
      apply splitLines_congr_skip
      rw [hreadings skip, hreadings config.skipInvalidFields]

theorem splitLines_clean_mixedLines :
    (splitLines mixedConfig mixedLines).result = .ok mixedResult
      ∧ mixedResult.clean mixedLines
        = [Text.lit "timeStamp,elapsed,label\r\n",
          Text.lit "5000,10,a,b,c,d,e,true,f,100,20\n",
          Text.lit "9000,12,a,b,c,d,e,FALSE,f,100,20\r",
          Text.lit "+3000,12,a,b,c,d,e,True,f,100,20\n",
          Text.lit "5000,7,a,b,c,d,e,true,f,-1,20\n",
          Text.lit "5001,7,a,b,c,d,e,true,f,-1,20"]
      ∧ (splitLines mixedConfig (mixedResult.clean mixedLines)).result
        = .ok { mixedResult with tooWide := [], invalid := [] }
      ∧ (splitLines { mixedConfig with skipInvalidFields := false }
          (mixedResult.clean mixedLines)).result
        = .ok { mixedResult with tooWide := [], invalid := [] } := by
  obtain ⟨hresult, -, -, hskip⟩ := splitLines_clean splitLines_mixedLines
  refine ⟨splitLines_mixedLines, by decide +kernel, hresult, ?_⟩
  rw [hskip false]
  exact hresult

end PhaseSplit
