import Mathlib.Tactic
import PhaseSplit.Proofs.Split.Readings

/-!
# The bookkeeping of a split

A split keeps several books at once: the router, two output sheets with their counts, two lists of
rejected lines and, when it summarizes, the statistics of both phases.  Every book is a function of
the readings so far, and those that concern samples depend on the samples among them alone.

* `router_enterAll`, `sheet_enterAll`, `rows_enterAll`, `accumulator_enterAll`: the books on
  samples;
* `processed_enterAll`, `progress_enterAll`: the count of samples and the announcements of it;
* `tooWide_enterAll`, `invalid_enterAll`: the books on rejected lines;
* `splitLines_of_ok`: a split with a result has entered one reading for each line into a fresh
  state;
* `SplitBooks`, `exists_splitBooks`: what it reports is what the books say at the end.
-/

namespace PhaseSplit

/-- The statistics after the samples of a list. -/
def PhaseStats.addAll (s : PhaseStats) (xs : List Sample) : PhaseStats :=
  xs.foldl (fun s x => s.add x.measured) s

/-- The accumulator after samples with their phases. -/
def Accumulator.addAll (a : Accumulator) (routed : List (Sample × Phase)) : Accumulator :=
  routed.foldl (fun a xp => a.add xp.2 xp.1.measured) a

/-- The statistics of a phase know only the samples of that phase. -/
theorem Accumulator.stats_addAll (a : Accumulator) (routed : List (Sample × Phase)) (p : Phase) :
    (a.addAll routed).stats.get p = (a.stats.get p).addAll (ofPhase p routed) := by
  induction routed generalizing a with
  | nil => rfl
  | cons head routed ih =>
    obtain ⟨x, q⟩ := head
    have hstep : (a.add q x.measured).stats = a.stats.modify q (·.add x.measured) := rfl
    rw [show a.addAll ((x, q) :: routed) = (a.add q x.measured).addAll routed from rfl, ih, hstep,
      ofPhase_cons]
    by_cases hq : q = p
    · subst hq
      rw [PerPhase.get_modify_self, if_pos rfl]
      rfl
    · rw [PerPhase.get_modify_of_ne _ (Ne.symm hq), if_neg hq]

/-- The numbers that a split writes in its first records have numerals: the length of the warmup in
milliseconds, and the precision where statistics are kept. -/
def SplitConfig.Writable (config : SplitConfig) (millis : Int) : Prop :=
  millis.natAbs < 10 ^ maxDigits
    ∧ (config.summarize = true → config.precision.natAbs < 10 ^ maxDigits)

namespace SplitState

variable {config : SplitConfig} {s : SplitState}

/-! ## One sample -/

@[simp] theorem router_report : (report config s).router = s.router := by
  unfold report; split <;> rfl

@[simp] theorem sheets_report : (report config s).sheets = s.sheets := by
  unfold report; split <;> rfl

@[simp] theorem accumulator_report : (report config s).accumulator = s.accumulator := by
  unfold report; split <;> rfl

@[simp] theorem tooWide_report : (report config s).tooWide = s.tooWide := by
  unfold report; split <;> rfl

@[simp] theorem invalid_report : (report config s).invalid = s.invalid := by
  unfold report; split <;> rfl

@[simp] theorem processed_report : (report config s).processed = s.processed := by
  unfold report; split <;> rfl

@[simp] theorem router_accept (x : Sample) :
    (s.accept config x).router = (s.router.route x.timestamp).2 := by
  simp [accept]

@[simp] theorem sheets_accept (x : Sample) :
    (s.accept config x).sheets = s.sheets.writeRow x.line (s.router.route x.timestamp).1 := by
  simp [accept]

@[simp] theorem accumulator_accept (x : Sample) :
    (s.accept config x).accumulator
      = s.accumulator.map (·.add (s.router.route x.timestamp).1 x.measured) := by
  simp [accept]

@[simp] theorem tooWide_accept (x : Sample) : (s.accept config x).tooWide = s.tooWide := by
  simp [accept]

@[simp] theorem invalid_accept (x : Sample) : (s.accept config x).invalid = s.invalid := by
  simp [accept]

@[simp] theorem processed_accept (x : Sample) :
    (s.accept config x).processed = s.processed + 1 := by
  simp [accept]

/-- Progress is announced for the sample just counted, or not at all. -/
theorem progress_accept (x : Sample) :
    (s.accept config x).progress.toList
      = s.progress.toList ++ [s.processed + 1].filter (progressDue config) := by
  unfold accept report
  by_cases hdue : progressDue config (s.processed + 1) = true
  · simp [hdue]
  · simp [hdue]

/-! ## All readings -/

/-- The router has met the samples and nothing else. -/
theorem router_enterAll (rs : List Reading) :
    (s.enterAll config rs).router = s.router.after (samplesOf rs) := by
  induction rs generalizing s with
  | nil => rfl
  | cons r rs ih =>
    rw [enterAll_cons, ih]
    cases r with
    | sample x => rw [enter, router_accept, samplesOf_sample, Router.after_cons]
    | tooWide n line => rfl
    | invalid e => rfl

/-- A sheet has grown by the lines of the samples that the router gave to its phase. -/
theorem sheet_enterAll (rs : List Reading) (p : Phase) :
    ((s.enterAll config rs).sheets.sheets.get p).toList
      = (s.sheets.sheets.get p).toList
        ++ (ofPhase p (s.router.assign (samplesOf rs))).map Sample.line := by
  induction rs generalizing s with
  | nil => simp [Router.assign]
  | cons r rs ih =>
    rw [enterAll_cons, ih]
    cases r with
    | sample x =>
      rw [enter, sheets_accept, router_accept, samplesOf_sample, Router.assign, ofPhase_cons,
        Sheets.writeRow]
      by_cases hp : (s.router.route x.timestamp).1 = p
      · rw [if_pos hp, ← hp, PerPhase.get_modify_self]
        simp
      · rw [if_neg hp, PerPhase.get_modify_of_ne _ (Ne.symm hp)]
    | tooWide n line => rfl
    | invalid e => rfl

/-- The count of a sheet has grown by the number of these samples. -/
theorem rows_enterAll (rs : List Reading) (p : Phase) :
    (s.enterAll config rs).sheets.rows.get p
      = s.sheets.rows.get p + (ofPhase p (s.router.assign (samplesOf rs))).length := by
  induction rs generalizing s with
  | nil => rfl
  | cons r rs ih =>
    rw [enterAll_cons, ih]
    cases r with
    | sample x =>
      rw [enter, sheets_accept, router_accept, samplesOf_sample, Router.assign, ofPhase_cons,
        Sheets.writeRow]
      by_cases hp : (s.router.route x.timestamp).1 = p
      · rw [if_pos hp, ← hp, PerPhase.get_modify_self, List.length_cons]
        omega
      · rw [if_neg hp, PerPhase.get_modify_of_ne _ (Ne.symm hp)]
    | tooWide n line => rfl
    | invalid e => rfl

/-- The statistics, where they are kept, know the samples with the phases that the router gave. -/
theorem accumulator_enterAll (rs : List Reading) :
    (s.enterAll config rs).accumulator
      = s.accumulator.map (·.addAll (s.router.assign (samplesOf rs))) := by
  induction rs generalizing s with
  | nil => cases h : s.accumulator <;> simp [h, Router.assign, Accumulator.addAll]
  | cons r rs ih =>
    rw [enterAll_cons, ih]
    cases r with
    | sample x =>
      rw [enter, accumulator_accept, router_accept, samplesOf_sample, Router.assign,
        Option.map_map]
      rfl
    | tooWide n line => rfl
    | invalid e => rfl

theorem processed_enterAll (rs : List Reading) :
    (s.enterAll config rs).processed = s.processed + (samplesOf rs).length := by
  induction rs generalizing s with
  | nil => rfl
  | cons r rs ih =>
    rw [enterAll_cons, ih]
    cases r with
    | sample x =>
      rw [enter, processed_accept, samplesOf_sample, List.length_cons]
      omega
    | tooWide n line => rfl
    | invalid e => rfl

/-- The announcements are the counts of samples at which one was due, in order. -/
theorem progress_enterAll (rs : List Reading) :
    (s.enterAll config rs).progress.toList
      = s.progress.toList
        ++ (List.range' (s.processed + 1) (samplesOf rs).length).filter (progressDue config) := by
  induction rs generalizing s with
  | nil => simp
  | cons r rs ih =>
    rw [enterAll_cons, ih]
    cases r with
    | sample x =>
      rw [enter, progress_accept, processed_accept, samplesOf_sample, List.length_cons,
        List.range'_succ, List.append_assoc, ← List.filter_append, List.singleton_append]
    | tooWide n line => rfl
    | invalid e => rfl

theorem tooWide_enterAll (rs : List Reading) :
    (s.enterAll config rs).tooWide.toList = s.tooWide.toList ++ tooWideNumbers rs := by
  induction rs generalizing s with
  | nil => simp
  | cons r rs ih =>
    rw [enterAll_cons, ih]
    cases r with
    | sample x => rw [enter, tooWide_accept, tooWideNumbers_sample]
    | tooWide n line => simp [enter, rejectTooWide]
    | invalid e => rfl

theorem invalid_enterAll (rs : List Reading) :
    (s.enterAll config rs).invalid.toList = s.invalid.toList ++ invalidNumbers rs := by
  induction rs generalizing s with
  | nil => simp
  | cons r rs ih =>
    rw [enterAll_cons, ih]
    cases r with
    | sample x => rw [enter, invalid_accept, invalidNumbers_sample]
    | tooWide n line => rfl
    | invalid e => simp [enter, rejectInvalid]

/-! ## Start and end -/

/-- The state before the first line when the warmup lasts `millis` milliseconds. -/
def fresh (config : SplitConfig) (millis : Int) : SplitState :=
  let router : Router := ⟨config.warmupDuration, config.timeUnit.lower, millis, none, .const 0⟩
  let accumulator : Accumulator := ⟨config.precision, .const (.empty config.precision)⟩
  { router
    sheets := .empty
    accumulator := if config.summarize then some accumulator else none
    tooWide := #[]
    invalid := #[]
    processed := 0
    progress := #[]
    log := router.creationRecord
      :: if config.summarize then [accumulator.creationRecord] else [] }

theorem accumulator_fresh_of_summarize (millis : Int) (h : config.summarize = true) :
    (fresh config millis).accumulator
      = some ⟨config.precision, .const (.empty config.precision)⟩ := if_pos h

theorem accumulator_fresh_of_not_summarize (millis : Int) (h : config.summarize = false) :
    (fresh config millis).accumulator = none := by
  simp [fresh, h]

section

-- the header goes onto the sheets, and is counted in no book
variable (s) (lines : List Text)

@[simp] theorem router_readHeader : (s.readHeader lines).router = s.router := by
  cases lines <;> rfl

@[simp] theorem accumulator_readHeader :
    (s.readHeader lines).accumulator = s.accumulator := by cases lines <;> rfl

@[simp] theorem rows_readHeader : (s.readHeader lines).sheets.rows = s.sheets.rows := by
  cases lines <;> rfl

@[simp] theorem tooWide_readHeader : (s.readHeader lines).tooWide = s.tooWide := by
  cases lines <;> rfl

@[simp] theorem invalid_readHeader : (s.readHeader lines).invalid = s.invalid := by
  cases lines <;> rfl

@[simp] theorem processed_readHeader : (s.readHeader lines).processed = s.processed := by
  cases lines <;> rfl

@[simp] theorem progress_readHeader : (s.readHeader lines).progress = s.progress := by
  cases lines <;> rfl

end

/-- A split starts when the unit of the warmup exists and the numbers it writes have numerals; a
configuration carries the proof that its precision is not negative. -/
theorem start_eq_ok_iff :
    start config = .ok s
      ↔ ∃ millis, durationMillis config.warmupDuration config.timeUnit = .ok millis
      ∧ config.Writable millis ∧ s = fresh config millis := by
  unfold start Router.create SplitConfig.Writable
  cases hd : durationMillis config.warmupDuration config.timeUnit with
  | error e => simp
  | ok millis =>
    by_cases hm : millis.natAbs < 10 ^ maxDigits
    · have hneg : ¬config.precision < 0 := Int.not_lt.mpr config.precision_nonneg
      by_cases hp : config.precision.natAbs < 10 ^ maxDigits
      · cases hs : config.summarize <;>
          simp [hm, hneg, hp, hs, Accumulator.create, fresh, eq_comm]
      · cases hs : config.summarize <;>
          simp [hm, hp, hs, Accumulator.create, fresh, eq_comm]
    · simp [hm]

/-- What a split reports at the end is what its books say. -/
theorem finish_of_ok {r : SplitResult} (h : s.finish.result = .ok r) :
    s.finish.sheets = s.sheets ∧ r.rows = s.sheets.rows ∧ r.tooWide = s.tooWide.toList
      ∧ r.invalid = s.invalid.toList ∧ r.epoch = s.router.epoch
      ∧ (s.accumulator = none → r.summaries = none)
      ∧ ∀ a, s.accumulator = some a → ∃ summaries, r.summaries = some summaries
        ∧ ∀ p, (a.stats.get p).summary = .ok (summaries.get p) := by
  unfold finish at h ⊢
  cases ha : s.accumulator with
  | none =>
    simp only [ha, Option.map_none, Except.ok.injEq] at h ⊢
    subst h
    simp
  | some a =>
    simp only [ha, Option.map_some] at h ⊢
    rcases hw : a.summarize .warmup with ⟨logw, ew | sw⟩
    · simp [Accumulator.summarizeAll, hw] at h
    · rcases hm : a.summarize .measurement with ⟨logm, em | sm⟩
      · simp [Accumulator.summarizeAll, hw, hm] at h
      · simp only [Accumulator.summarizeAll, hw, hm, Except.ok.injEq] at h ⊢
        subst h
        refine ⟨trivial, rfl, rfl, rfl, rfl, by simp, ?_⟩
        rintro _ ⟨⟩
        refine ⟨⟨sw, sm⟩, rfl, ?_⟩
        intro p
        cases p
        · exact congrArg Prod.snd hw
        · exact congrArg Prod.snd hm

end SplitState

/-! ## Whole splits -/

/-- The header of a file as it is copied, if the file has a line. -/
def headerOf (lines : List Text) : List Text := (lines.head?.map Text.stripTerminator).toList

/-- A text of lines, each closed by a line feed. -/
def closeLines (lines : List Text) : Text := lines.flatMap (· ++ [Text.lineFeed])

/-- What a split has entered into its books by the time it gives a result: one reading for each line
after the header, and each sample among them with the phase that the router gave to it. -/
structure SplitBooks (config : SplitConfig) (lines : List Text) (result : SplitResult)
    (millis : Int) (readings : List Reading) (routed : List (Sample × Phase)) : Prop where
  millis_eq : durationMillis config.warmupDuration config.timeUnit = .ok millis
  readings_eq : config.readings SplitState.firstRow lines.tail = (readings, none)
  routed_eq : routed = (SplitState.fresh config millis).router.assign (samplesOf readings)
  text_eq : ∀ p, (splitLines config lines).sheets.text p
    = closeLines (headerOf lines ++ (ofPhase p routed).map Sample.line)
  rows_eq : ∀ p, result.rows.get p = (ofPhase p routed).length
  tooWide_eq : result.tooWide = tooWideNumbers readings
  invalid_eq : result.invalid = invalidNumbers readings
  epoch_eq : result.epoch = (timestamps (samplesOf readings)).min?
  summaries_eq : config.summarize = true → ∃ summaries, result.summaries = some summaries
    ∧ ∀ p, ((PhaseStats.empty config.precision).addAll (ofPhase p routed)).summary
      = .ok (summaries.get p)

/-- A split with a result has come through all lines from a fresh state. -/
theorem splitLines_of_ok {config : SplitConfig} {lines : List Text} {r : SplitResult}
    (h : (splitLines config lines).result = .ok r) :
    ∃ millis rs, durationMillis config.warmupDuration config.timeUnit = .ok millis
      ∧ config.readings SplitState.firstRow lines.tail = (rs, none)
      ∧ splitLines config lines
        = (((SplitState.fresh config millis).readHeader lines).enterAll config rs).finish := by
  unfold splitLines at h ⊢
  cases hs : SplitState.start config with
  | error e => simp [hs] at h
  | ok s =>
    obtain ⟨millis, hmillis, -, rfl⟩ := SplitState.start_eq_ok_iff.1 hs
    rw [hs] at h
    simp only [SplitState.run_eq] at h ⊢
    rcases hr : config.readings SplitState.firstRow lines.tail with ⟨rs, _ | e⟩
    · exact ⟨millis, rs, hmillis, rfl, rfl⟩
    · simp [hr, SplitState.abort] at h

/-- A split that does not summarize has no summaries. -/
theorem summaries_eq_none {config : SplitConfig} {lines : List Text} {r : SplitResult}
    (h : (splitLines config lines).result = .ok r) (hsummarize : config.summarize = false) :
    r.summaries = none := by
  obtain ⟨millis, rs, -, -, hsplit⟩ := splitLines_of_ok h
  rw [hsplit] at h
  obtain ⟨-, -, -, -, -, hnone, -⟩ := SplitState.finish_of_ok h
  apply hnone
  rw [SplitState.accumulator_enterAll, SplitState.accumulator_readHeader,
    SplitState.accumulator_fresh_of_not_summarize millis hsummarize, Option.map_none]

/-- **The books of a split balance with its result.** -/
theorem exists_splitBooks {config : SplitConfig} {lines : List Text} {r : SplitResult}
    (h : (splitLines config lines).result = .ok r) :
    ∃ millis readings routed, SplitBooks config lines r millis readings routed := by
  obtain ⟨millis, rs, hmillis, hrs, hsplit⟩ := splitLines_of_ok h
  rw [hsplit] at h
  obtain ⟨hsheets, hrows, hwide, hinvalid, hepoch, -, hsummaries⟩ := SplitState.finish_of_ok h
  set s := (SplitState.fresh config millis).readHeader lines with hs
  have hrouter : s.router = (SplitState.fresh config millis).router :=
    SplitState.router_readHeader _ lines
  have hheader : ∀ p, (s.sheets.sheets.get p).toList = headerOf lines := by
    intro p
    rw [hs]
    cases lines <;> cases p <;> rfl
  have hrows₀ : s.sheets.rows = .const 0 := SplitState.rows_readHeader _ lines
  have hwide₀ : s.tooWide = #[] := SplitState.tooWide_readHeader _ lines
  have hinvalid₀ : s.invalid = #[] := SplitState.invalid_readHeader _ lines
  refine ⟨millis, rs, _, ⟨hmillis, hrs, rfl, ?text, ?rows, ?wide, ?invalid, ?epoch, ?summaries⟩⟩
  case text =>
    intro p
    rw [hsplit, hsheets, Sheets.text, Sheet.text, SplitState.sheet_enterAll, hheader, hrouter]
    rfl
  case rows =>
    intro p
    rw [hrows, SplitState.rows_enterAll, hrouter, hrows₀, PerPhase.get_const, Nat.zero_add]
  case wide => rw [hwide, SplitState.tooWide_enterAll, hwide₀, List.nil_append]
  case invalid => rw [hinvalid, SplitState.invalid_enterAll, hinvalid₀, List.nil_append]
  case epoch =>
    rw [hepoch, SplitState.router_enterAll, hrouter, Router.epoch_after]
    rfl
  case summaries =>
    intro hsummarize
    have hacc : s.accumulator = some ⟨config.precision, .const (.empty config.precision)⟩ := by
      rw [hs, SplitState.accumulator_readHeader,
        SplitState.accumulator_fresh_of_summarize millis hsummarize]
    obtain ⟨summaries, hsome, hget⟩ := hsummaries _ (by
      rw [SplitState.accumulator_enterAll, hacc, Option.map_some])
    refine ⟨summaries, hsome, ?_⟩
    intro p
    rw [← hget p, Accumulator.stats_addAll, PerPhase.get_const, hrouter]

namespace SplitBooks

variable {config : SplitConfig} {lines : List Text} {r : SplitResult} {millis : Int}
  {readings : List Reading} {routed : List (Sample × Phase)}

theorem samplesOf_eq (books : SplitBooks config lines r millis readings routed) :
    samplesOf readings = acceptedSamples config lines :=
  samplesOf_eq_acceptedSamples books.readings_eq

/-- The samples that a split has routed are the samples of the file. -/
theorem map_fst_routed (books : SplitBooks config lines r millis readings routed) :
    routed.map Prod.fst = acceptedSamples config lines := by
  rw [books.routed_eq, Router.map_fst_assign, books.samplesOf_eq]

end SplitBooks

/-! ## A small file -/

deriving instance DecidableEq for Summary, SplitResult

/-- A warmup of two seconds, with lines of faulty fields passed over. -/
def mixedConfig : SplitConfig where
  warmupDuration := 2
  timeUnit := Text.lit "Seconds"
  summarize := false
  precision := 2
  showProgress := true
  logProgress := false
  progressInterval := 3
  columnLimit := 16
  skipInvalidFields := true
  warmup_pos := by decide
  precision_nonneg := by decide
  interval_pos := by decide

/-- Samples out of the order of time, one of them on the edge of the warmup, between lines that are
rejected for either reason. -/
def mixedLines : List Text :=
  [Text.lit "timeStamp,elapsed,label\r\n",
    Text.lit "5000,10,a,b,c,d,e,true,f,100,20\n",
    Text.lit "1,2,3,4,5,6,7,8,9,10,11,12,13,14,15,16,17\n",
    Text.lit "9000,12,a,b,c,d,e,FALSE,f,100,20\r",
    Text.lit "100,1x,a,b,c,d,e,true,f,100,20\n",
    Text.lit "+3000,12,a,b,c,d,e,True,f,100,20\n",
    Text.lit "5000,7,a,b,c,d,e,true,f,-1,20\n",
    Text.lit "5001,7,a,b,c,d,e,true,f,-1,20"]

/-- The result of the split of these lines. -/
def mixedResult : SplitResult where
  rows := ⟨3, 2⟩
  tooWide := [3]
  invalid := [5]
  epoch := some 3000
  summaries := none

theorem splitLines_mixedLines : (splitLines mixedConfig mixedLines).result = .ok mixedResult := by
  decide +kernel

end PhaseSplit
