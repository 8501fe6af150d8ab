import Mathlib.Tactic
import PhaseSplit.Proofs.Split.Completion
import PhaseSplit.Proofs.Split.FileCompletion
import PhaseSplit.Proofs.Split.Rereading

/-!
# The warmup split again

The output of the warmup is a result file like any other.  A split of it under the same
configuration leaves it as it is: the samples that lower the epoch are all in the warmup, so without
the samples of the measurement every decision is made by the same epoch as before.

* `SplitBooks.exists_result_warmup`: the warmup can be split, because its statistics have had a
  summary before;
* `WarmupKept`, `exists_warmupKept`: what the second split says;
* `splitFile_warmup_again`: the same for files;
* `splitFile_warmup_tooLong`: the name of the input grows with each split, and there is a limit to
  that.
-/

namespace PhaseSplit

/-! ## The split of the warmup -/

/-- The bytes of the output of the warmup. -/
def warmupBytes (config : SplitConfig) (content : List UInt8) : List UInt8 :=
  ((splitContent config content).sheets.text .warmup).encode

theorem headerOf_append_tail (lines : List Text) :
    headerOf lines ++ lines.tail.map Text.stripTerminator = lines.map Text.stripTerminator := by
  cases lines <;> rfl

namespace SplitBooks

variable {config : SplitConfig} {content : List UInt8} {r : SplitResult} {millis : Int}
  {readings : List Reading} {routed : List (Sample × Phase)}

/-- The output of the warmup has the header of the input. -/
theorem headerOf_warmup
    (books : SplitBooks config (linesOf content) r millis readings routed) :
    headerOf (linesOf (warmupBytes config content)) = headerOf (linesOf content) := by
  have hlines : (linesOf (warmupBytes config content)).map Text.stripTerminator
      = headerOf (linesOf content) ++ (ofPhase .warmup routed).map Sample.line := by
    rw [warmupBytes, splitContent, books.text_eq,
      map_stripTerminator_linesOf_closeLines (books.isFileLine .warmup)]
  rw [← headerOf_append_tail, warmupBytes, books.map_stripTerminator_tail .warmup] at hlines
  exact List.append_cancel_right hlines

/-- The lines of the warmup are its samples, under new numbers. -/
theorem readings_warmup
    (books : SplitBooks config (linesOf content) r millis readings routed) :
    config.readings SplitState.firstRow (linesOf (warmupBytes config content)).tail
      = ((renumberFrom 2 (ofPhase .warmup routed)).map .sample, none) := by
  refine SplitConfig.readings_of_samples (n := 2) (books.map_stripTerminator_tail .warmup) ?_
  intro x hx
  obtain ⟨-, -, -, hread⟩ := books.exists_of_mem_ofPhase hx
  exact hread

/-- The samples of the warmup are all assigned to it again, and come to the same epoch. -/
theorem assign_renumberFrom
    (books : SplitBooks config (linesOf content) r millis readings routed) :
    (∀ x ∈ (SplitState.fresh config millis).router.assign
        (renumberFrom 2 (ofPhase .warmup routed)), x.2 = .warmup)
      ∧ (timestamps (renumberFrom 2 (ofPhase .warmup routed))).min? = r.epoch := by
  have hmillis : 0 ≤ (SplitState.fresh config millis).router.warmupMillis :=
    durationMillis_nonneg (Int.le_of_lt config.warmup_pos) books.millis_eq
  have htimes : timestamps (renumberFrom 2 (ofPhase .warmup routed)) = timestamps (ofPhase .warmup
      ((SplitState.fresh config millis).router.assign (samplesOf readings))) := by
    rw [timestamps_renumberFrom, books.routed_eq]
  obtain ⟨hall, hepoch⟩ := Router.assign_warmup hmillis rfl rfl htimes
  refine ⟨hall, ?_⟩
  rw [Router.epoch_after, Router.epoch_after] at hepoch
  rw [books.epoch_eq]
  exact hepoch

/-- The samples of the warmup make up both phases of its own split: the warmup has them all. -/
theorem ofPhase_assign_renumberFrom
    (books : SplitBooks config (linesOf content) r millis readings routed) :
    ofPhase .warmup ((SplitState.fresh config millis).router.assign
        (renumberFrom 2 (ofPhase .warmup routed))) = renumberFrom 2 (ofPhase .warmup routed)
      ∧ ofPhase .measurement ((SplitState.fresh config millis).router.assign
        (renumberFrom 2 (ofPhase .warmup routed))) = [] := by
  obtain ⟨hwarmup, hmeasurement⟩ := ofPhase_of_all_warmup books.assign_renumberFrom.1
  rw [Router.map_fst_assign] at hwarmup
  exact ⟨hwarmup, hmeasurement⟩

/-- **The warmup can be split again**: its lines are samples, and their statistics have a summary
because they had one before. -/
theorem exists_result_warmup
    (books : SplitBooks config (linesOf content) r millis readings routed)
    (hresult : (splitContent config content).result = .ok r) :
    ∃ r', (splitContent config (warmupBytes config content)).result = .ok r' := by
  rcases splitLines_cases config with ⟨e, log, -, hall⟩ | ⟨millis', hmillis, hall⟩
  · unfold splitContent at hresult
    rw [hall] at hresult
    cases hresult
  · obtain rfl : millis' = millis := Except.ok.inj (hmillis.symm.trans books.millis_eq)
    obtain ⟨hwarmup, hmeasurement⟩ := books.ofPhase_assign_renumberFrom
    unfold splitContent
    rw [hall, books.readings_warmup]
    apply exists_result_of_summaries books.readings_warmup
    intro hsummarize phase
    unfold samplesIn
    rw [(of_readings_samples _).1]
    cases phase with
    | warmup =>
      obtain ⟨summaries, -, hsummary⟩ := books.summaries_eq hsummarize
      refine ⟨summaries.get .warmup, ?_⟩
      rw [hwarmup, addAll_renumberFrom]
      exact hsummary .warmup
    | measurement =>
      refine ⟨Summary.empty, ?_⟩
      rw [hmeasurement]
      rfl

end SplitBooks

/-- What the split of the warmup says, after a split with the result `r`: all is in the warmup, as
it was. -/
structure WarmupKept (config : SplitConfig) (content : List UInt8) (r r' : SplitResult) : Prop where
  result : (splitContent config (warmupBytes config content)).result = .ok r'
  warmup : warmupBytes config (warmupBytes config content) = warmupBytes config content
  measurement : (splitContent config (warmupBytes config content)).sheets.text .measurement
    = closeLines (headerOf (linesOf content))
  tooWide : r'.tooWide = []
  invalid : r'.invalid = []
  epoch : r'.epoch = r.epoch
  summaries : config.summarize = true → ∃ summaries, r.summaries = some summaries
    ∧ r'.summaries = some ⟨summaries.warmup, .empty⟩

/-- **The split of the warmup leaves it as it is.** -/
theorem exists_warmupKept {config : SplitConfig} {content : List UInt8} {r : SplitResult}
    (hresult : (splitContent config content).result = .ok r) :
    ∃ r', WarmupKept config content r r' := by
  obtain ⟨millis, readings, routed, books⟩ := exists_splitBooks hresult
  obtain ⟨r', hresult'⟩ := books.exists_result_warmup hresult
  obtain ⟨millis', readings', routed', books'⟩ := exists_splitBooks hresult'
  obtain rfl : millis' = millis := Except.ok.inj (books'.millis_eq.symm.trans books.millis_eq)
  obtain rfl : readings' = (renumberFrom 2 (ofPhase .warmup routed)).map .sample :=
    congrArg Prod.fst (books'.readings_eq.symm.trans books.readings_warmup)
  obtain ⟨hsamples, hwide, hinvalid⟩ :=
    of_readings_samples (renumberFrom 2 (ofPhase .warmup routed))
  have hrouted : routed' = (SplitState.fresh config millis').router.assign
      (renumberFrom 2 (ofPhase .warmup routed)) := by
    rw [books'.routed_eq, hsamples]
  obtain ⟨hwarmup, hmeasurement⟩ := books.ofPhase_assign_renumberFrom
  rw [← hrouted] at hwarmup hmeasurement
  refine ⟨r', hresult', ?warmup, ?measurement, ?wide, ?invalid, ?epoch, ?summaries⟩
  case warmup =>
    have hagain : (splitContent config (warmupBytes config content)).sheets.text .warmup
        = closeLines (headerOf (linesOf content) ++ (ofPhase .warmup routed).map Sample.line) := by
      rw [splitContent, books'.text_eq, books.headerOf_warmup, hwarmup, map_line_renumberFrom]
    have hbefore : (splitContent config content).sheets.text .warmup
        = closeLines (headerOf (linesOf content) ++ (ofPhase .warmup routed).map Sample.line) :=
      books.text_eq .warmup
    show ((splitContent config (warmupBytes config content)).sheets.text .warmup).encode
      = ((splitContent config content).sheets.text .warmup).encode
    rw [hagain, hbefore]
  case measurement =>
    rw [splitContent, books'.text_eq, books.headerOf_warmup, hmeasurement, List.map_nil,
      List.append_nil]
  case wide => rw [books'.tooWide_eq, hwide]
  case invalid => rw [books'.invalid_eq, hinvalid]
  case epoch => rw [books'.epoch_eq, hsamples, books.assign_renumberFrom.2]
  case summaries =>
    intro hsummarize
    obtain ⟨summaries, hsome, hsummary⟩ := books.summaries_eq hsummarize
    obtain ⟨⟨warmup, measurement⟩, hsome', hsummary'⟩ := books'.summaries_eq hsummarize
    have hfirst := hsummary' .warmup
    have hsecond := hsummary' .measurement
    rw [hwarmup, addAll_renumberFrom, hsummary .warmup] at hfirst
    rw [hmeasurement] at hsecond
    have hsame : summaries.warmup = warmup := Except.ok.inj hfirst
    have hempty : Summary.empty = measurement := Except.ok.inj hsecond
    refine ⟨summaries, hsome, ?_⟩
    rw [hsame, hempty]
    exact hsome'

/-! ## Whole splits -/

/-- The summary of no samples has a text. -/
theorem Summary.exists_fileText_empty :
    ∃ text, Summary.empty.fileText (some summaryIndent) = .ok text := by
  have hok : (Summary.empty.fileText (some summaryIndent)).isOk = true := by decide +kernel
  cases htext : Summary.empty.fileText (some summaryIndent) with
  | error e =>
    rw [htext] at hok
    cases hok
  | ok text => exact ⟨text, rfl⟩

/-- The summaries of the second split have texts if that of the warmup has had one before. -/
theorem WarmupKept.exists_summaryFiles {config : SplitConfig} {content : List UInt8}
    {r r' : SplitResult} (kept : WarmupKept config content r r') (paths : OutputPaths)
    (htext : ∀ summaries, r.summaries = some summaries →
      ∃ text, summaries.warmup.fileText (some summaryIndent) = .ok text) :
    ∃ files, summaryFiles paths r'.summaries = .ok files := by
  cases hsummarize : config.summarize with
  | false =>
    rw [summaries_eq_none kept.result hsummarize]
    exact ⟨[], rfl⟩
  | true =>
    obtain ⟨summaries, hsome, hsome'⟩ := kept.summaries hsummarize
    obtain ⟨warmup, hwarmup⟩ := htext summaries hsome
    obtain ⟨measurement, hmeasurement⟩ := Summary.exists_fileText_empty
    rw [hsome', summaryFiles, hwarmup, hmeasurement]
    exact ⟨_, rfl⟩

/-- **Splitting the warmup again changes nothing.**  After a split with a result, a split of the
output of the warmup under the same configuration has a result too, if its own outputs are neither
directories nor too long and the clock can tell the time of it.  Its warmup is that file again, its
measurement is the header, no line is rejected, and the epoch and the summary of the warmup are
those of the first split. -/
theorem splitFile_warmup_again {config : SplitConfig} {path : Text} {removeInput : Bool}
    {world world' again : World} {r : FileSplitResult} (removeAgain : Bool)
    (h : (splitFile config path removeInput).result world = (.ok r, world'))
    (hfiles : again.files = world'.files) (hclock : Session.TellsTime again)
    (hfree : ∀ output ∈ config.outputs r.paths.samples.warmup,
      again.files.isDirectory output = false)
    (hfits : ∀ output ∈ config.outputs r.paths.samples.warmup, OutputPaths.FitsLimits output) :
    ∃ input warmup r' world'', world.files.read path = .ok input
      ∧ world'.files.read r.paths.samples.warmup = .ok warmup
      ∧ (splitFile config r.paths.samples.warmup removeAgain).result again = (.ok r', world'')
      ∧ world''.files.read r'.paths.samples.warmup = .ok warmup
      ∧ world''.files.read r'.paths.samples.measurement
        = .ok (closeLines (headerOf (linesOf input))).encode
      ∧ r'.split.tooWide = [] ∧ r'.split.invalid = [] ∧ r'.split.epoch = r.split.epoch
      ∧ (config.summarize = true → ∃ summaries bytes, r.split.summaries = some summaries
        ∧ r'.split.summaries = some ⟨summaries.warmup, .empty⟩
        ∧ world'.files.read r.paths.summaries.warmup = .ok bytes
        ∧ world''.files.read r'.paths.summaries.warmup = .ok bytes) := by
  obtain ⟨input, hread, hresult, hpaths, hcomplete⟩ := outputsComplete_of_splitFile h
  obtain ⟨s, kept⟩ := exists_warmupKept hresult
  have hwarmup : world'.files.read r.paths.samples.warmup = .ok (warmupBytes config input) := by
    rw [hpaths]
    exact hcomplete.read_sheet .warmup
  have hinput : again.files.read r.paths.samples.warmup = .ok (warmupBytes config input) := by
    rw [hfiles]
    exact hwarmup
  have htext : ∀ summaries, r.split.summaries = some summaries →
      ∃ text, summaries.warmup.fileText (some summaryIndent) = .ok text
        ∧ world'.files.read r.paths.summaries.warmup = .ok text.encode := by
    intro summaries hsome
    rw [hpaths]
    exact hcomplete.read_summary hresult hsome .warmup
  obtain ⟨files, hsummaryFiles⟩ := kept.exists_summaryFiles
    (OutputPaths.ofInput r.paths.samples.warmup) fun summaries hsome =>
      (htext summaries hsome).imp fun _ => And.left
  obtain ⟨r', world'', hagain⟩ :=
    exists_splitFile removeAgain hinput kept.result hsummaryFiles hfree hfits hclock
  obtain ⟨input', hread', hresult', hpaths', hcomplete'⟩ := outputsComplete_of_splitFile hagain
  obtain rfl : input' = warmupBytes config input := Except.ok.inj (hread'.symm.trans hinput)
  obtain rfl : s = r'.split := Except.ok.inj (kept.result.symm.trans hresult')
  refine ⟨input, warmupBytes config input, r', world'', hread, hwarmup, hagain, ?warmup,
    ?measurement, kept.tooWide, kept.invalid, kept.epoch, ?summaries⟩
  case warmup =>
    have hsheet := hcomplete'.read_sheet .warmup
    rw [hpaths', ← kept.warmup]
    exact hsheet
  case measurement =>
    have hsheet := hcomplete'.read_sheet .measurement
    rw [hpaths', ← kept.measurement]
    exact hsheet
  case summaries =>
    intro hsummarize
    obtain ⟨summaries, hsome, hsome'⟩ := kept.summaries hsummarize
    obtain ⟨text, hmade, hbytes⟩ := htext summaries hsome
    obtain ⟨text', hmade', hbytes'⟩ := hcomplete'.read_summary hresult' hsome' .warmup
    obtain rfl : text' = text := Except.ok.inj (hmade'.symm.trans hmade)
    rw [← hpaths'] at hbytes'
    exact ⟨summaries, text'.encode, hsome, hsome', hbytes, hbytes'⟩

theorem splitFile_warmup_again_runWorld :
    ∃ r world', (splitFile summaryConfig (Text.lit "run.jtl") true).result runWorld
        = (.ok r, world')
      ∧ r.split.rows = ⟨1, 1⟩
      ∧ ∃ input warmup r' world'', runWorld.files.read (Text.lit "run.jtl") = .ok input
        ∧ world'.files.read r.paths.samples.warmup = .ok warmup
        ∧ (splitFile summaryConfig r.paths.samples.warmup false).result world' = (.ok r', world'')
        ∧ world''.files.read r'.paths.samples.warmup = .ok warmup
        ∧ world''.files.read r'.paths.samples.measurement
          = .ok (closeLines (headerOf (linesOf input))).encode
        ∧ r'.split.tooWide = [] ∧ r'.split.invalid = [] ∧ r'.split.epoch = r.split.epoch
        ∧ ∃ summaries bytes, r.split.summaries = some summaries
          ∧ r'.split.summaries = some ⟨summaries.warmup, .empty⟩
          ∧ world'.files.read r.paths.summaries.warmup = .ok bytes
          ∧ world''.files.read r'.paths.summaries.warmup = .ok bytes := by
  have hrun : ((splitFile summaryConfig (Text.lit "run.jtl") true).result runWorld).1.map
        (fun r => (r.split.rows, r.paths)) = .ok (⟨1, 1⟩, OutputPaths.ofInput (Text.lit "run.jtl"))
      ∧ ((splitFile summaryConfig (Text.lit "run.jtl") true).result runWorld).2.clock = []
      ∧ ∀ output ∈ summaryConfig.outputs (OutputPaths.ofInput (Text.lit "run.jtl")).samples.warmup,
        ((splitFile summaryConfig (Text.lit "run.jtl") true).result runWorld).2.files.isDirectory
          output = false := by decide +kernel
  have hfits : ∀ output ∈ summaryConfig.outputs
        (OutputPaths.ofInput (Text.lit "run.jtl")).samples.warmup,
      OutputPaths.FitsLimits output := by decide +kernel
  rcases hresult : (splitFile summaryConfig (Text.lit "run.jtl") true).result runWorld
    with ⟨e | r, world'⟩
  · rw [hresult] at hrun
    cases hrun.1
  · rw [hresult] at hrun
    obtain ⟨houtcome, hclock, hfree⟩ := hrun
    obtain ⟨hrows, hpaths⟩ := Prod.mk.inj (Except.ok.inj houtcome)
    rw [← hpaths] at hfree hfits
    obtain ⟨input, warmup, r', world'', hinput, hwarmup, hagain, hkept, hheader, hwide, hinvalid,
      hepoch, hsummaries⟩ := splitFile_warmup_again false hresult rfl
        (Session.tellsTime_of_clock_eq_nil hclock) hfree hfits
    exact ⟨r, world', rfl, hrows, input, warmup, r', world'', hinput, hwarmup, hagain, hkept,
      hheader, hwide, hinvalid, hepoch, hsummaries rfl⟩

/-! ## Names that are too long -/

/-- A name that leaves room for the outputs of one split, but not of two. -/
def longName : Text := List.replicate 235 (.char 'a') ++ Text.lit ".jtl"

/-- The content of a file of one line, the header. -/
def headerContent : List UInt8 := Text.encode (Text.lit "timeStamp,elapsed\n")

/-- A world with a file of this name and content. -/
def longWorld : World := .initial ⟨[([longName], .file headerContent)], []⟩ []

/-- The names of outputs are longer than that of the input: the output of the warmup may be there,
and a split of it may fail because the names of its own outputs are too long. -/
theorem splitFile_warmup_tooLong :
    ∃ r world' e world'', (splitFile mixedConfig longName false).result longWorld = (.ok r, world')
      ∧ (∀ phase, world'.files.isDirectory
          ((OutputPaths.ofInput r.paths.samples.warmup).samples.get phase) = false
        ∧ world'.files.isDirectory
          ((OutputPaths.ofInput r.paths.samples.warmup).summaries.get phase) = false)
      ∧ (splitFile mixedConfig r.paths.samples.warmup false).result world'
        = (.error (.file e), world'')
      ∧ e.reason = .tooLong := by
  have hrun : ((splitFile mixedConfig longName false).result longWorld).1.map (·.paths)
        = .ok (OutputPaths.ofInput longName)
      ∧ (∀ phase ∈ [Phase.warmup, Phase.measurement],
        ((splitFile mixedConfig longName false).result longWorld).2.files.isDirectory
          ((OutputPaths.ofInput (OutputPaths.ofInput longName).samples.warmup).samples.get phase)
            = false
        ∧ ((splitFile mixedConfig longName false).result longWorld).2.files.isDirectory
          ((OutputPaths.ofInput (OutputPaths.ofInput longName).samples.warmup).summaries.get phase)
            = false)
      ∧ ((splitFile mixedConfig (OutputPaths.ofInput longName).samples.warmup false).result
        ((splitFile mixedConfig longName false).result longWorld).2).1.map (fun _ => ())
          = .error (.file ⟨.tooLong, (OutputPaths.ofInput
            (OutputPaths.ofInput longName).samples.warmup).samples.measurement⟩) := by
    decide +kernel
  rcases hresult : (splitFile mixedConfig longName false).result longWorld with ⟨e | r, world'⟩
  · rw [hresult] at hrun
    cases hrun.1
  · rw [hresult] at hrun
    obtain ⟨houtcome, hfree, hagain⟩ := hrun
    rw [← Except.ok.inj houtcome] at hfree hagain
    rcases hsecond : (splitFile mixedConfig r.paths.samples.warmup false).result world'
      with ⟨e | r', world''⟩
    · rw [hsecond] at hagain
      obtain rfl := Except.error.inj hagain
      refine ⟨r, world', _, world'', rfl, ?_, hsecond, rfl⟩
      intro phase
      exact hfree phase (by cases phase <;> simp)
    · rw [hsecond] at hagain
      cases hagain

end PhaseSplit
