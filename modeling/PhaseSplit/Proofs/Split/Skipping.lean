import Mathlib.Tactic
import PhaseSplit.Proofs.Sample.Fields
import PhaseSplit.Proofs.Split.Completion
import PhaseSplit.Proofs.Split.Partition
import PhaseSplit.Proofs.Text.Lines
import PhaseSplit.Proofs.Text.Numeral

/-!
# Passing over faulty lines

A split that passes over faulty fields is stopped by one thing only: a number with more digits than
are converted, in a line or in the configuration.  Every other line that is no sample is rejected
under its number.

* `splitLines_of_writable`, `splitLines_of_not_writable`: when a split starts;
* `SplitConfig.readings_eq_none_iff`: when it comes to the end of its lines;
* `exists_fate`: where a line is listed that is no sample;
* `splitLines_skipping`: all splits that pass over faulty fields.
-/

namespace PhaseSplit

variable {config : SplitConfig} {millis n : Int} {line : Text} {lines : List Text}

/-! ## The start -/

/-- A split whose numbers can be written comes to the end of its lines or to the first that ends
it. -/
theorem splitLines_of_writable
    (hmillis : durationMillis config.warmupDuration config.timeUnit = .ok millis)
    (h : config.Writable millis) :
    splitLines config lines = (SplitState.atEnd config millis lines).close
      (config.readings SplitState.firstRow lines.tail).2 := by
  have hstart : SplitState.start config = .ok (.fresh config millis) :=
    SplitState.start_eq_ok_iff.2 ⟨millis, hmillis, h, rfl⟩
  exact splitLines_of_start lines hstart

/-- A split whose warmup is too long to be written ends before the first line. -/
theorem splitLines_of_longWarmup
    (hmillis : durationMillis config.warmupDuration config.timeUnit = .ok millis)
    (h : ¬millis.natAbs < 10 ^ maxDigits) :
    (splitLines config lines).result = .error (.router .warmupTooLongToWrite) := by
  simp [splitLines, SplitState.start, Router.create, hmillis, h]

/-- So does one that summarizes with a precision that is too long to be written. -/
theorem splitLines_of_longPrecision
    (hmillis : durationMillis config.warmupDuration config.timeUnit = .ok millis)
    (hshort : millis.natAbs < 10 ^ maxDigits) (hsummarize : config.summarize = true)
    (h : ¬config.precision.natAbs < 10 ^ maxDigits) :
    (splitLines config lines).result = .error (.precision .tooLongToWrite) := by
  simp [splitLines, SplitState.start, Router.create, Accumulator.create, hmillis, hshort,
    hsummarize, h]

/-- A split whose numbers cannot all be written ends before the first line. -/
theorem splitLines_of_not_writable
    (hmillis : durationMillis config.warmupDuration config.timeUnit = .ok millis)
    (h : ¬config.Writable millis) :
    10 ^ maxDigits ≤ millis.natAbs
        ∧ (splitLines config lines).result = .error (.router .warmupTooLongToWrite)
      ∨ 10 ^ maxDigits ≤ config.precision.natAbs
        ∧ (splitLines config lines).result = .error (.precision .tooLongToWrite) := by
  by_cases hshort : millis.natAbs < 10 ^ maxDigits
  · right
    unfold SplitConfig.Writable at h
    push Not at h
    obtain ⟨hsummarize, hlong⟩ := h hshort
    exact ⟨hlong,
      splitLines_of_longPrecision hmillis hshort hsummarize (Nat.not_lt.2 hlong)⟩
  · exact .inl ⟨Nat.not_lt.1 hshort, splitLines_of_longWarmup hmillis hshort⟩

/-! ## The lines -/

namespace SplitConfig

/-- With faulty fields passed over, a line ends a split only when its reading breaks off. -/
theorem exists_reading_error_iff (hskip : config.skipInvalidFields = true) :
    (∃ e, config.reading n line = .error e)
      ↔ BreaksOff config.columnLimit line.stripTerminator := by
  rw [← exists_tooManyDigits_iff (n := n)]
  simp only [reading_eq_error_iff]
  constructor
  · rintro ⟨e | count, hread, hskips⟩
    · rw [skips, hskip] at hskips
      cases hskips
    · exact ⟨count, hread⟩
  · rintro ⟨count, hread⟩
    exact ⟨.tooManyDigits count, hread, rfl⟩

/-- **A split comes to the end of its lines** when the reading of none of them breaks off. -/
theorem readings_eq_none_iff (hskip : config.skipInvalidFields = true) :
    (config.readings n lines).2 = none
      ↔ ∀ line ∈ lines, ¬BreaksOff config.columnLimit line.stripTerminator := by
  induction lines generalizing n with
  | nil => simp [readings]
  | cons line lines ih =>
    rw [List.forall_mem_cons, ← exists_reading_error_iff (n := n) hskip]
    cases hr : config.reading n line with
    | error e => simp [readings_cons_of_error hr]
    | ok r => simp [readings_cons_of_ok hr, ih]

/-- A split that is ended by a line has come to a number with too many digits. -/
theorem eq_tooManyDigits_of_readings {e : LineFault} (hskip : config.skipInvalidFields = true)
    (h : (config.readings n lines).2 = some e) : ∃ count, e = .tooManyDigits count := by
  obtain ⟨_, bad, _, -, -, hbad⟩ := exists_of_readings_error (Prod.ext rfl h)
  obtain ⟨-, hskips⟩ := reading_eq_error_iff.1 hbad
  cases e with
  | invalidField e =>
    rw [skips, hskip] at hskips
    cases hskips
  | tooManyDigits count => exact ⟨count, rfl⟩

end SplitConfig

/-! ## Where lines are listed -/

namespace Fate.Fits

variable {fate : Fate} {content : Except LineFault LineContent}

theorem eq_tooWide_iff (h : fate.Fits content) :
    fate = .tooWide ↔ ∃ m l, content = .ok (.tooManyColumns m l) := by
  rcases content with (e | count) | (x | ⟨m, l⟩) <;> rcases fate with p | _ | _ <;>
    simp_all [Fits]

theorem eq_invalid_iff (h : fate.Fits content) :
    fate = .invalid ↔ ∃ e, content = .error (.invalidField e) := by
  rcases content with (e | count) | (x | ⟨m, l⟩) <;> rcases fate with p | _ | _ <;>
    simp_all [Fits]

end Fate.Fits

/-- A line is listed where its fate says, and its fate fits what it holds. -/
theorem exists_fate {r : SplitResult} {i : Nat} (h : (splitLines config lines).result = .ok r)
    (hline : lines.tail[i]? = some line) :
    ∃ fate : Fate, fate.Fits (readLine config.columnLimit (2 + i) line.stripTerminator)
      ∧ (((2 + i : Nat) : Int) ∈ r.tooWide ↔ fate = .tooWide)
      ∧ (((2 + i : Nat) : Int) ∈ r.invalid ↔ fate = .invalid) := by
  obtain ⟨millis, rs, routed, books⟩ := exists_splitBooks h
  have hreadings : config.readings (2 : Nat) lines.tail = (rs, none) := books.readings_eq
  set router := (SplitState.fresh config millis).router
  obtain ⟨hi, -⟩ := List.getElem?_eq_some_iff.1 hline
  have hlength : i < (fatesOf router rs).length := by
    rw [length_fatesOf, SplitConfig.length_readings hreadings]
    exact hi
  have hfate := List.getElem?_eq_getElem hlength
  refine ⟨_, fits_fatesOf hreadings router hline hfate, ?_, ?_⟩
  · rw [books.tooWide_eq, ← numbersWith_tooWide hreadings router, mem_numbersWith_iff, hfate,
      Option.some.injEq]
  · rw [books.invalid_eq, ← numbersWith_invalid hreadings router, mem_numbersWith_iff, hfate,
      Option.some.injEq]

/-! ## Splits -/

/-- A split whose numbers can be written has a result exactly when the reading of no line breaks
off. -/
theorem exists_result_iff_of_writable (hskip : config.skipInvalidFields = true)
    (hmillis : durationMillis config.warmupDuration config.timeUnit = .ok millis)
    (hwritable : config.Writable millis) (hlength : lines.length < 2 ^ 63) :
    (∃ r, (splitLines config lines).result = .ok r)
      ↔ ∀ line ∈ lines.tail, ¬BreaksOff config.columnLimit line.stripTerminator := by
  rw [← SplitConfig.readings_eq_none_iff (n := SplitState.firstRow) hskip,
    splitLines_of_writable hmillis hwritable]
  constructor
  · rintro ⟨r, hr⟩
    exact SplitState.result_close_eq_ok hr
  · intro hnone
    rw [hnone]
    exact exists_result hlength (Prod.ext rfl hnone)

/-- A split whose numbers can be written ends without a result only at a number with too many
digits. -/
theorem eq_tooManyDigits_of_writable {e : SplitFault} (hskip : config.skipInvalidFields = true)
    (hmillis : durationMillis config.warmupDuration config.timeUnit = .ok millis)
    (hwritable : config.Writable millis) (hlength : lines.length < 2 ^ 63)
    (h : (splitLines config lines).result = .error e) :
    ∃ count, e = .line (.tooManyDigits count) := by
  rw [splitLines_of_writable hmillis hwritable] at h
  cases hfault : (config.readings SplitState.firstRow lines.tail).2 with
  | none =>
    obtain ⟨r, hr⟩ := @exists_result config millis lines _ hlength (Prod.ext rfl hfault)
    rw [hfault] at h
    exact absurd (h.symm.trans hr) (by simp)
  | some fault =>
    obtain ⟨count, rfl⟩ := SplitConfig.eq_tooManyDigits_of_readings hskip hfault
    rw [hfault] at h
    cases h
    exact ⟨count, rfl⟩

/-- **A split that passes over faulty fields ends only for a number that is too long.**  It has a
result exactly when its numbers can be written and the reading of no line breaks off; then each line
with too many columns is listed as such, and each malformed line as invalid, under its number. -/
theorem splitLines_skipping {config : SplitConfig} {lines : List Text} {unit : TimeUnit}
    (hskip : config.skipInvalidFields = true)
    (hunit : TimeUnit.ofText? config.timeUnit = some unit) (hlength : lines.length < 2 ^ 63) :
    ((∃ r, (splitLines config lines).result = .ok r)
        ↔ config.Writable (unit.toMillis config.warmupDuration)
          ∧ ∀ line ∈ lines.tail, ¬BreaksOff config.columnLimit line.stripTerminator)
      ∧ (∀ e, (splitLines config lines).result = .error e →
          e = .router .warmupTooLongToWrite ∨ e = .precision .tooLongToWrite
            ∨ ∃ count, e = .line (.tooManyDigits count))
      ∧ ∀ r, (splitLines config lines).result = .ok r →
        ∀ (i : Nat) (line : Text), lines.tail[i]? = some line →
          (((2 + i : Nat) : Int) ∈ r.tooWide
              ↔ splitColumns config.columnLimit line.stripTerminator = none)
            ∧ (((2 + i : Nat) : Int) ∈ r.invalid
              ↔ Malformed config.columnLimit line.stripTerminator) := by
  have hmillis : durationMillis config.warmupDuration config.timeUnit
      = .ok (unit.toMillis config.warmupDuration) := by
    unfold durationMillis
    rw [hunit]
  by_cases hwritable : config.Writable (unit.toMillis config.warmupDuration)
  · have hresult := exists_result_iff_of_writable hskip hmillis hwritable hlength
    refine ⟨by rw [hresult, and_iff_right hwritable], ?fault, ?listed⟩
    case fault =>
      intro e he
      exact .inr (.inr (eq_tooManyDigits_of_writable hskip hmillis hwritable hlength he))
    case listed =>
      intro r hr i line hline
      have hwhole := hresult.1 ⟨r, hr⟩ line (List.mem_of_getElem? hline)
      obtain ⟨fate, hfits, hwide, hinvalid⟩ := exists_fate hr hline
      rw [hwide, hinvalid, hfits.eq_tooWide_iff, hfits.eq_invalid_iff, exists_tooManyColumns_iff,
        exists_invalidField_iff hwhole]
      exact ⟨Iff.rfl, Iff.rfl⟩
  · have hfault := @splitLines_of_not_writable config _ lines hmillis hwritable
    have hnone : ∀ r, (splitLines config lines).result ≠ .ok r := by
      intro r hr
      rcases hfault with ⟨-, h⟩ | ⟨-, h⟩ <;> exact absurd (h.symm.trans hr) (by simp)
    refine ⟨?result, ?fault, fun r hr => absurd hr (hnone r)⟩
    case result =>
      constructor
      · rintro ⟨r, hr⟩
        exact absurd hr (hnone r)
      · rintro ⟨h, -⟩
        exact absurd h hwritable
    case fault =>
      intro e he
      rcases hfault with ⟨-, h⟩ | ⟨-, h⟩
      · exact .inl (Except.error.inj (he.symm.trans h))
      · exact .inr (.inl (Except.error.inj (he.symm.trans h)))

theorem splitLines_skipping_mixedLines :
    (∀ line ∈ mixedLines.tail, ¬BreaksOff 16 line.stripTerminator)
      ∧ splitColumns 16 (Text.lit "1,2,3,4,5,6,7,8,9,10,11,12,13,14,15,16,17") = none
      ∧ Malformed 16 (Text.lit "100,1x,a,b,c,d,e,true,f,100,20") := by
  obtain ⟨hresult, -, hlisted⟩ :=
    @splitLines_skipping mixedConfig mixedLines .seconds rfl (by decide +kernel) (by decide)
  refine ⟨(hresult.1 ⟨_, splitLines_mixedLines⟩).2, ?_, ?_⟩
  · exact (hlisted _ splitLines_mixedLines 1 _ rfl).1.1 (by decide)
  · exact (hlisted _ splitLines_mixedLines 3 _ rfl).2.1 (by decide)

/-! ## A number that is too long -/

/-- What stands before a line, without a comma, belongs to its first column. -/
theorem cutColumns_append {room : Nat} {before t c : Text} {cs : List Text}
    (hbefore : ∀ g ∈ before, g ≠ comma) (h : cutColumns room t = some (c :: cs)) :
    cutColumns room (before ++ t) = some ((before ++ c) :: cs) := by
  induction before with
  | nil => exact h
  | cons g before ih =>
    obtain ⟨hg, hbefore⟩ := List.forall_mem_cons.1 hbefore
    rw [List.cons_append, cutColumns, if_neg hg, ih hbefore]
    rfl

theorem stripTerminator_replicate (k : Nat) (t : Text) :
    Text.stripTerminator (List.replicate k (.char '1') ++ t)
      = List.replicate k (.char '1') ++ Text.stripTerminator t := by
  induction k with
  | zero => rfl
  | succ k ih =>
    rw [List.replicate_succ, List.cons_append, Text.stripTerminator_cons (by decide) (by decide),
      ih, List.cons_append]

theorem ofAscii?_replicate {k : Nat} (hk : 0 < k) :
    Numeral.ofAscii? (List.replicate k (.char '1')) = some ⟨false, List.replicate k 1⟩ := by
  have htext : List.replicate k (Glyph.char '1') = Text.ofChars (List.replicate k '1') :=
    List.map_replicate.symm
  have hdigits : ∀ c ∈ List.replicate k '1', c.isDigit = true := by
    intro c hc
    rw [List.eq_of_mem_replicate hc]
    rfl
  refine ofAscii?_eq_some_iff.2 ⟨List.replicate k '1', ?_, hdigits, ?_, ?_⟩
  · rw [ne_eq, List.replicate_eq_nil_iff]
    omega
  · rw [htext, splitSign_ofChars hdigits]
  · rw [List.map_replicate]
    rfl

/-- A sample whose time is written with `k` digits. -/
def sampleOfDigits (k : Nat) : Text :=
  List.replicate k (.char '1') ++ Text.lit ",10,a,b,c,d,e,true,f,1,2"

theorem readLine_sampleOfDigits {k : Nat} (hk : maxDigits < k) :
    readLine 16 n (sampleOfDigits k).stripTerminator = .error (.tooManyDigits k) := by
  have hrest : cutColumns 15 (Text.lit ",10,a,b,c,d,e,true,f,1,2")
      = some ([] :: ["10", "a", "b", "c", "d", "e", "true", "f", "1", "2"].map Text.lit) := by
    decide +kernel
  have hstrip : (sampleOfDigits k).stripTerminator = sampleOfDigits k := by
    unfold sampleOfDigits
    rw [stripTerminator_replicate]
    exact congrArg _ (by decide +kernel)
  have hdigits : ∀ g ∈ List.replicate k (Glyph.char '1'), g ≠ comma := by
    intro g hg
    rw [List.eq_of_mem_replicate hg]
    decide
  have hcut := cutColumns_append hdigits hrest
  rw [hstrip, readLine_eq_error_iff]
  refine ⟨_, hcut, readSample_eq_error_iff.2 ⟨.timestamp, .inl ⟨k, ?_, rfl⟩, ?_⟩⟩
  · refine ⟨by decide, hk, ⟨false, List.replicate k 1⟩, ?_, List.length_replicate⟩
    rw [List.append_nil]
    exact ofAscii?_replicate (Nat.zero_lt_of_lt hk)
  · intro g hg
    cases hg

/-- One digit too many in a line ends a split that passes over faulty fields. -/
theorem splitLines_sampleOfDigits :
    mixedConfig.skipInvalidFields = true
      ∧ (splitLines mixedConfig [Text.lit "h", sampleOfDigits 4301]).result
        = .error (.line (.tooManyDigits 4301)) := by
  refine ⟨rfl, ?_⟩
  have hmillis : durationMillis mixedConfig.warmupDuration mixedConfig.timeUnit = .ok 2000 := by
    decide +kernel
  have hwritable : mixedConfig.Writable 2000 := by
    refine ⟨?_, by rintro ⟨⟩⟩
    have hshort : (2000 : Int).natAbs < 10 ^ 4 := by decide
    exact Nat.lt_of_lt_of_le hshort (Nat.pow_le_pow_right (by decide) (by decide))
  have hread : mixedConfig.reading SplitState.firstRow (sampleOfDigits 4301)
      = .error (.tooManyDigits 4301) :=
    SplitConfig.reading_eq_error_iff.2 ⟨readLine_sampleOfDigits (by decide), rfl⟩
  rw [splitLines_of_writable hmillis hwritable, List.tail_cons,
    SplitConfig.readings_cons_of_error hread]
  rfl

end PhaseSplit
