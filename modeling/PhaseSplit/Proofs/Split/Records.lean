import Mathlib.Tactic
import PhaseSplit.Proofs.Split.Skipping
import PhaseSplit.Proofs.Stats.Aggregate

/-!
# What a split says

The log of a split is the only trace of the lines that are rejected.  It has one warning for each of
them, in the order of the input, between what is said about an input without a line and what is said
about phases without samples; the last record counts what was written and what was rejected.

* `RejectionRecord`: the warning about a line, said without the functions that read it;
* `SplitState.log_enterAll`: samples say nothing, and each rejected line adds its warning;
* `SplitState.log_finish`: what is said at the end;
* `splitLines_log`: the log of a split that has a result.
-/

namespace PhaseSplit

variable {config : SplitConfig} {lines : List Text}

/-! ## Rejected lines -/

/-- What is said about a reading. -/
def Reading.record? : Reading → Option LogRecord
  | sample _ => none
  | tooWide n line => some (tooWideRecord n line)
  | invalid e => some (invalidLineRecord e)

/-- What is said about a line, if it is rejected. -/
def rejectionRecord? (config : SplitConfig) (lineNumber : Int) (line : Text) : Option LogRecord :=
  match readLine config.columnLimit lineNumber line.stripTerminator with
  | .ok (.tooManyColumns n l) => some (tooWideRecord n l)
  | .error (.invalidField e) => some (invalidLineRecord e)
  | _ => none

/-- What is said about the rejected lines of a file, in their order. -/
def rejectionRecords (config : SplitConfig) (lines : List Text) : Log :=
  (lines.tail.zipIdx 2).filterMap fun numbered => rejectionRecord? config numbered.2 numbered.1

/-- The warning about a rejected line.  It shows the number and the whole of a line with too many
columns; of any other line it shows the number, the first column that does not hold what it should,
and what stands in that column. -/
inductive RejectionRecord (limit lineNumber : Int) (line : Text) : LogRecord → Prop
  | tooWide (hcut : splitColumns limit line = none) :
      RejectionRecord limit lineNumber line ⟨.warning,
        Text.lit "Line " ++ Text.ofInt lineNumber
          ++ Text.lit " has more columns than expected: " ++ line⟩
  | malformed {columns : List Text} {f : Field} (hcut : splitColumns limit line = some columns)
      (hfirst : f.FirstMalformed columns) :
      RejectionRecord limit lineNumber line ⟨.warning,
        Text.lit "Skipping line: " ++ (Text.lit "Line " ++ Text.ofInt lineNumber
          ++ Text.lit ": column " ++ Text.ofNat f.index ++ Text.lit " (" ++ f.name
          ++ Text.lit ") is not a valid " ++ f.expected ++ Text.lit ": "
          ++ (columns[f.index]?).elim (Text.lit "<missing>") Text.quoted)⟩

theorem FieldFault.message_eq (n : Int) (f : Field) (value : Option Text) :
    (FieldFault.mk n f value).message
      = Text.lit "Line " ++ Text.ofInt n ++ Text.lit ": column " ++ Text.ofNat f.index
        ++ Text.lit " (" ++ f.name ++ Text.lit ") is not a valid " ++ f.expected ++ Text.lit ": "
        ++ value.elim (Text.lit "<missing>") Text.quoted := by
  cases value <;> rfl

/-- A line whose reading does not break off is rejected with its warning. -/
theorem rejectionRecord?_eq_some_iff {n : Int} {line : Text} {record : LogRecord}
    (h : ¬BreaksOff config.columnLimit line.stripTerminator) :
    rejectionRecord? config n line = some record
      ↔ RejectionRecord config.columnLimit n line.stripTerminator record := by
  unfold rejectionRecord?
  constructor
  · intro hrecord
    split at hrecord
    · next m l hread =>
      cases hrecord
      have hcut := exists_tooManyColumns_iff.1 ⟨m, l, hread⟩
      obtain ⟨rfl, rfl⟩ := readLine_eq_tooManyColumns hread
      exact .tooWide hcut
    · next e hread =>
      cases hrecord
      obtain ⟨columns, hcut, f, hfirst, rfl⟩ := (readLine_eq_invalidField_iff h).1 hread
      rw [invalidLineRecord, FieldFault.message_eq]
      exact .malformed hcut hfirst
    · cases hrecord
  · rintro (hcut | @⟨columns, f, hcut, hfirst⟩)
    · obtain ⟨m, l, hread⟩ := (exists_tooManyColumns_iff (n := n)).2 hcut
      obtain ⟨rfl, rfl⟩ := readLine_eq_tooManyColumns hread
      rw [hread]
      rfl
    · rw [(readLine_eq_invalidField_iff h).2 ⟨columns, hcut, f, hfirst, rfl⟩]
      dsimp only
      rw [invalidLineRecord, FieldFault.message_eq]
      rfl

/-- A line that does not end the split is reported as its reading is. -/
theorem rejectionRecord?_of_reading {n : Int} {line : Text} {r : Reading}
    (h : config.reading n line = .ok r) : rejectionRecord? config n line = r.record? := by
  unfold rejectionRecord?
  cases r with
  | sample x => rw [SplitConfig.reading_eq_sample_iff.1 h]; rfl
  | tooWide m l => rw [SplitConfig.reading_eq_tooWide_iff.1 h]; rfl
  | invalid e => rw [(SplitConfig.reading_eq_invalid_iff.1 h).2]; rfl

/-- No reading breaks off in a file all of whose lines are read. -/
theorem SplitConfig.not_breaksOff {n : Int} {rs : List Reading}
    (h : config.readings n lines = (rs, none)) {line : Text} (hline : line ∈ lines) :
    ¬BreaksOff config.columnLimit line.stripTerminator := by
  intro hbreaks
  obtain ⟨i, hi⟩ := List.getElem?_of_mem hline
  obtain ⟨count, hread⟩ := (exists_tooManyDigits_iff (n := n + i)).2 hbreaks
  have hfault : config.reading (n + i) line = .error (.tooManyDigits count) :=
    reading_eq_error_iff.2 ⟨hread, rfl⟩
  obtain ⟨r, -, hr⟩ := exists_reading_of_getElem? h hi
  rw [hfault] at hr
  cases hr

/-! ## Counting readings -/

section

variable (rs : List Reading)

/-- Every rejected line is reported once. -/
theorem length_records :
    (rs.filterMap Reading.record?).length
      = (tooWideNumbers rs).length + (invalidNumbers rs).length := by
  induction rs with
  | nil => rfl
  | cons r rs ih =>
    rw [List.filterMap_cons]
    cases r with
    | sample x => exact ih
    | tooWide n line => simp [Reading.record?, ih]; omega
    | invalid e => simp [Reading.record?, ih]; omega

/-- Every line is a sample or is reported. -/
theorem length_samplesOf_add_length_records :
    (samplesOf rs).length + (rs.filterMap Reading.record?).length = rs.length := by
  induction rs with
  | nil => rfl
  | cons r rs ih =>
    rw [List.filterMap_cons]
    cases r with
    | sample x => simp [Reading.record?, ← ih]; omega
    | tooWide n line => simp [Reading.record?, ← ih]; omega
    | invalid e => simp [Reading.record?, ← ih]; omega

end

theorem length_ofPhase_add (routed : List (Sample × Phase)) :
    (ofPhase .warmup routed).length + (ofPhase .measurement routed).length = routed.length := by
  induction routed with
  | nil => rfl
  | cons head routed ih =>
    obtain ⟨x, p⟩ := head
    rw [ofPhase_cons, ofPhase_cons, List.length_cons, ← ih]
    cases p with
    | warmup => simp; omega
    | measurement => simp; omega

/-! ## The log of a state -/

namespace SplitState

variable {s : SplitState}

/-- A sample says nothing, unless progress is logged. -/
theorem log_accept (hquiet : config.logProgress = false) (x : Sample) :
    (s.accept config x).log = s.log := by
  unfold accept report
  dsimp only
  split
  · simp [hquiet]
  · rfl

/-- **One reading** adds what is said about it. -/
theorem log_enter (hquiet : config.logProgress = false) (r : Reading) :
    (s.enter config r).log = s.log ++ r.record?.toList := by
  cases r with
  | sample x =>
    rw [enter, log_accept hquiet]
    exact (List.append_nil _).symm
  | tooWide n line => rfl
  | invalid e => rfl

/-- Any number of readings add what is said about them, in their order. -/
theorem log_enterAll (hquiet : config.logProgress = false) (rs : List Reading) :
    (s.enterAll config rs).log = s.log ++ rs.filterMap Reading.record? := by
  induction rs generalizing s with
  | nil => exact (List.append_nil _).symm
  | cons r rs ih =>
    rw [enterAll_cons, ih, log_enter hquiet, List.append_assoc, List.filterMap_cons]
    cases r <;> rfl

/-- What is said about the phases of an accumulator that have no samples. -/
def emptyPhaseRecords (a : Accumulator) : Log :=
  (Phase.all.filter fun p => (a.stats.get p).count = 0).map Accumulator.emptyPhaseRecord

theorem log_summarizeAll {a : Accumulator} {log : Log} {summaries : PerPhase Summary}
    (h : a.summarizeAll = (log, .ok summaries)) : log = emptyPhaseRecords a := by
  unfold Accumulator.summarizeAll Accumulator.summarize at h
  dsimp only at h
  split at h
  · cases h
  · next hwarmup =>
    obtain ⟨rfl, -⟩ := Prod.mk.inj hwarmup
    split at h
    · cases h
    · next hmeasurement =>
      obtain ⟨rfl, -⟩ := Prod.mk.inj hmeasurement
      obtain ⟨rfl, -⟩ := Prod.mk.inj h
      unfold emptyPhaseRecords Phase.all
      rw [List.filter_cons, List.filter_cons, List.filter_nil]
      by_cases hw : (a.stats.get .warmup).count = 0 <;>
        by_cases hm : (a.stats.get .measurement).count = 0 <;> simp [hw, hm]

/-- **What is said at the end** is about the phases without samples, and then about the counts. -/
theorem log_finish {r : SplitResult} (h : s.finish.result = .ok r) :
    s.finish.log = s.log ++ (s.accumulator.map emptyPhaseRecords).getD []
      ++ [routedRecord s.sheets.rows (s.tooWide.size + s.invalid.size)] := by
  unfold finish at h ⊢
  dsimp only at h ⊢
  cases ha : s.accumulator with
  | none => simp
  | some a =>
    rw [ha, Option.map_some] at h
    rcases hall : a.summarizeAll with ⟨log, e | summaries⟩
    · rw [hall] at h
      cases h
    · simp [hall, log_summarizeAll hall]

/-- What is said before the first line is for debugging only. -/
theorem atLeastInfo_fresh (config : SplitConfig) (millis : Int) :
    (fresh config millis).log.atLeastInfo = [] := by
  unfold fresh
  cases config.summarize <;> rfl

theorem log_readHeader (s : SplitState) (lines : List Text) :
    (s.readHeader lines).log = s.log ++ if lines = [] then [emptyInputRecord] else [] := by
  cases lines with
  | nil => rfl
  | cons line lines => exact (List.append_nil _).symm

end SplitState

/-! ## Whole splits -/

namespace SplitBooks

variable {r : SplitResult} {millis : Int} {readings : List Reading} {routed : List (Sample × Phase)}

/-- The warnings about the lines of a split are those about the lines of its input. -/
theorem records_eq (books : SplitBooks config lines r millis readings routed) :
    readings.filterMap Reading.record? = rejectionRecords config lines := by
  have hnumber : config.readings (2 : Nat) lines.tail = (readings, none) := books.readings_eq
  exact filterMap_readings rejectionRecord?_of_reading hnumber

/-- Every rejected line is listed once and reported once. -/
theorem length_rejectionRecords (books : SplitBooks config lines r millis readings routed) :
    (rejectionRecords config lines).length = r.tooWide.length + r.invalid.length := by
  rw [← books.records_eq, length_records, books.tooWide_eq, books.invalid_eq]

/-- Every line after the header is written to one of the outputs or reported. -/
theorem rows_add_length_rejectionRecords
    (books : SplitBooks config lines r millis readings routed) :
    r.rows.warmup + r.rows.measurement + (rejectionRecords config lines).length
      = lines.tail.length := by
  have hwarmup : r.rows.warmup = (ofPhase .warmup routed).length := books.rows_eq .warmup
  have hmeasurement : r.rows.measurement = (ofPhase .measurement routed).length :=
    books.rows_eq .measurement
  have hrouted : routed.length = (samplesOf readings).length := by
    rw [← List.length_map (f := Prod.fst), books.map_fst_routed, books.samplesOf_eq]
  rw [hwarmup, hmeasurement, length_ofPhase_add, hrouted, ← books.records_eq,
    length_samplesOf_add_length_records, SplitConfig.length_readings books.readings_eq]

end SplitBooks

/-- What is said at the end about phases without rows, if anything is. -/
def emptyRowsRecords (config : SplitConfig) (rows : PerPhase Nat) : Log :=
  if config.summarize then
    (Phase.all.filter fun p => rows.get p = 0).map Accumulator.emptyPhaseRecord
  else []

/-- The phases that the statistics of a split know no sample of are those without rows. -/
theorem emptyPhaseRecords_enterAll {s : SplitState} (rs : List Reading)
    (hrows : s.sheets.rows = .const 0)
    (haccumulator : s.accumulator
      = if config.summarize then some (Accumulator.fresh config.precision) else none) :
    ((s.enterAll config rs).accumulator.map SplitState.emptyPhaseRecords).getD []
      = emptyRowsRecords config (s.enterAll config rs).sheets.rows := by
  have hcount : ∀ p, (((Accumulator.fresh config.precision).addAll
      (s.router.assign (samplesOf rs))).stats.get p).count
        = (s.enterAll config rs).sheets.rows.get p := by
    intro p
    rw [Accumulator.get_addAll_fresh, SplitState.rows_enterAll, hrows, PerPhase.get_const,
      Nat.zero_add]
    rfl
  rw [SplitState.accumulator_enterAll, haccumulator]
  unfold emptyRowsRecords
  cases config.summarize with
  | false => rfl
  | true =>
    simp only [if_true, Option.map_some, Option.getD_some, SplitState.emptyPhaseRecords, hcount]

/-- **The log of a split with a result**, without progress in it. -/
theorem log_of_ok {r : SplitResult} (h : (splitLines config lines).result = .ok r)
    (hquiet : config.logProgress = false) :
    ∃ millis, (splitLines config lines).log
      = (SplitState.fresh config millis).log ++ (if lines = [] then [emptyInputRecord] else [])
        ++ rejectionRecords config lines ++ emptyRowsRecords config r.rows
        ++ [routedRecord r.rows (rejectionRecords config lines).length] := by
  obtain ⟨_, _, _, books⟩ := exists_splitBooks h
  obtain ⟨millis, rs, -, hreadings, hsplit⟩ := splitLines_of_ok h
  obtain rfl : rs = _ := congrArg Prod.fst (hreadings.symm.trans books.readings_eq)
  set start := (SplitState.fresh config millis).readHeader lines with hstart
  have hrows₀ : start.sheets.rows = .const 0 := SplitState.rows_readHeader _ lines
  have haccumulator₀ : start.accumulator
      = if config.summarize then some (Accumulator.fresh config.precision) else none :=
    SplitState.accumulator_readHeader _ lines
  have hempty := emptyPhaseRecords_enterAll rs hrows₀ haccumulator₀
  have hlog : (start.enterAll config rs).log = (SplitState.fresh config millis).log
      ++ (if lines = [] then [emptyInputRecord] else []) ++ rejectionRecords config lines := by
    rw [SplitState.log_enterAll hquiet, hstart, SplitState.log_readHeader, books.records_eq]
  rw [hsplit] at h ⊢
  obtain ⟨-, hrows, hwide, hinvalid, -⟩ := SplitState.finish_of_ok h
  have hrejected : (start.enterAll config rs).tooWide.size + (start.enterAll config rs).invalid.size
      = (rejectionRecords config lines).length := by
    rw [books.length_rejectionRecords, hwide, hinvalid, Array.length_toList, Array.length_toList]
  exact ⟨millis, by rw [SplitState.log_finish h, hlog, hempty, hrejected, ← hrows]⟩

theorem atLeastInfo_append (log log' : Log) :
    Log.atLeastInfo (log ++ log') = log.atLeastInfo ++ log'.atLeastInfo :=
  List.filter_append ..

theorem atLeastInfo_rejectionRecords (config : SplitConfig) (lines : List Text) :
    Log.atLeastInfo (rejectionRecords config lines) = rejectionRecords config lines := by
  refine List.filter_eq_self.2 fun record hrecord => ?_
  obtain ⟨numbered, -, hnumbered⟩ := List.mem_filterMap.1 hrecord
  unfold rejectionRecord? at hnumbered
  split at hnumbered <;> cases hnumbered <;> rfl

theorem atLeastInfo_emptyRowsRecords (config : SplitConfig) (rows : PerPhase Nat) :
    Log.atLeastInfo (emptyRowsRecords config rows) = emptyRowsRecords config rows := by
  refine List.filter_eq_self.2 fun record hrecord => ?_
  unfold emptyRowsRecords at hrecord
  split at hrecord
  · obtain ⟨p, -, rfl⟩ := List.mem_map.1 hrecord
    rfl
  · cases hrecord

/-- **Every rejection is reported exactly once.**  Without progress in the log, what a split with a
result shows is: a warning about an input without a line; one warning for each rejected line, in the
order of the input, which names the line and what is wrong with it; if there are summaries, one for
each phase without samples; and at the end the numbers of the lines written to either output and of
those rejected, which together are all lines after the header. -/
theorem splitLines_log {config : SplitConfig} {lines : List Text} {r : SplitResult}
    (h : (splitLines config lines).result = .ok r) (hquiet : config.logProgress = false) :
    (splitLines config lines).log.atLeastInfo
        = (if lines = [] then [emptyInputRecord] else [])
          ++ rejectionRecords config lines
          ++ emptyRowsRecords config r.rows
          ++ [routedRecord r.rows (rejectionRecords config lines).length]
      ∧ (∀ (i : Nat) (line : Text), lines.tail[i]? = some line → ∀ record,
          rejectionRecord? config (2 + i) line = some record
            ↔ RejectionRecord config.columnLimit (2 + i) line.stripTerminator record)
      ∧ (rejectionRecords config lines).length = r.tooWide.length + r.invalid.length
      ∧ (∃ routed : List (Sample × Phase), routed.map Prod.fst = acceptedSamples config lines
          ∧ ∀ p, (splitLines config lines).sheets.text p
              = closeLines (headerOf lines ++ (ofPhase p routed).map Sample.line)
            ∧ r.rows.get p = (ofPhase p routed).length)
      ∧ r.rows.warmup + r.rows.measurement + (rejectionRecords config lines).length
        = lines.tail.length := by
  obtain ⟨millis, rs, routed, books⟩ := exists_splitBooks h
  refine ⟨?log, ?lines, books.length_rejectionRecords,
    ⟨routed, books.map_fst_routed, fun p => ⟨books.text_eq p, books.rows_eq p⟩⟩,
    books.rows_add_length_rejectionRecords⟩
  case lines =>
    intro i line hline record
    exact rejectionRecord?_eq_some_iff
      (SplitConfig.not_breaksOff books.readings_eq (List.mem_of_getElem? hline))
  case log =>
    obtain ⟨millis', hlog⟩ := log_of_ok h hquiet
    have hheader : Log.atLeastInfo (if lines = [] then [emptyInputRecord] else [])
        = if lines = [] then [emptyInputRecord] else [] := by
      split <;> rfl
    rw [hlog, atLeastInfo_append, atLeastInfo_append, atLeastInfo_append, atLeastInfo_append,
      SplitState.atLeastInfo_fresh, hheader, atLeastInfo_rejectionRecords,
      atLeastInfo_emptyRowsRecords, List.nil_append]
    rfl

/-- A split that summarizes a warmup that lasts longer than the lines. -/
def summarizingConfig : SplitConfig := { mixedConfig with summarize := true }

/-- One sample, and one line rejected for either reason. -/
def rejectedLines : List Text :=
  [Text.lit "timeStamp,elapsed,label\n",
    Text.lit "5000,10,a,b,c,d,e,true,f,100,20\n",
    Text.lit "1,2,3,4,5,6,7,8,9,10,11,12,13,14,15,16,17\n",
    Text.lit "100,1x,a,b,c,d,e,true,f,100,20"]

theorem splitLines_log_rejectedLines :
    ∃ r, (splitLines summarizingConfig rejectedLines).result = .ok r
      ∧ summarizingConfig.logProgress = false
      ∧ r.rows.warmup + r.rows.measurement + 2 = 3
      ∧ RejectionRecord 16 4 (Text.lit "100,1x,a,b,c,d,e,true,f,100,20")
        ⟨.warning, Text.lit
          "Skipping line: Line 4: column 1 (elapsed) is not a valid integer: '1x'"⟩
      ∧ (splitLines summarizingConfig rejectedLines).log.atLeastInfo
        = [⟨.warning, Text.lit ("Line 3 has more columns than expected: "
            ++ "1,2,3,4,5,6,7,8,9,10,11,12,13,14,15,16,17")⟩,
          ⟨.warning, Text.lit
            "Skipping line: Line 4: column 1 (elapsed) is not a valid integer: '1x'"⟩,
          ⟨.warning, Text.lit "No samples in measurement phase, summary will be all zeros"⟩,
          ⟨.info, Text.lit "Routed 1 warmup and 0 measurement samples, skipped 2 lines"⟩] := by
  have hrows : (splitLines summarizingConfig rejectedLines).result.map SplitResult.rows
      = .ok ⟨1, 0⟩ := by
    decide +kernel
  have hrecords : rejectionRecords summarizingConfig rejectedLines
      = [⟨.warning, Text.lit ("Line 3 has more columns than expected: "
          ++ "1,2,3,4,5,6,7,8,9,10,11,12,13,14,15,16,17")⟩,
        ⟨.warning, Text.lit
          "Skipping line: Line 4: column 1 (elapsed) is not a valid integer: '1x'"⟩] := by
    decide +kernel
  cases hr : (splitLines summarizingConfig rejectedLines).result with
  | error e =>
    rw [hr] at hrows
    cases hrows
  | ok r =>
    obtain ⟨hlog, hlines, -, -, htotal⟩ := splitLines_log hr rfl
    rw [hr, Except.map, Except.ok.injEq] at hrows
    rw [hrecords] at hlog htotal
    refine ⟨r, rfl, rfl, htotal, (hlines 2 _ rfl _).1 (by decide +kernel), ?_⟩
    rw [hlog, hrows]
    decide +kernel

end PhaseSplit
