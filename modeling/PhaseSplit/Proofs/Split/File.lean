import Mathlib.Tactic
import PhaseSplit.Proofs.Session
import PhaseSplit.Proofs.Split.Bookkeeping
import PhaseSplit.Proofs.Split.OutputPaths
import PhaseSplit.Split.File

/-!
# What the split of a file does to the files

A split that gives a result has read its input once and then written a list of files one after
another; only the removal of the input comes after that.

* `sheetFiles`, `summaryFiles` list the files that are written, with what is written to them;
* `writeOutputs` is the part of a split that writes them; `splitFile_eq` says what else there is;
* `files_of_writeOutputs`, `files_of_splitFile`: the files after this part and after a split;
* `OutputsComplete`, `outputsComplete_of_writeAll`: each output then holds what belongs there;
* `exists_read_sheet`: so it is when a split has given a result.
-/

namespace PhaseSplit

/-- The outputs of samples: they are emptied first and written when the lines have been split. -/
def sheetFiles (config : SplitConfig) (paths : OutputPaths) (content : List UInt8) :
    List (Text × List UInt8) :=
  let sheet (phase : Phase) : List UInt8 := ((splitContent config content).sheets.text phase).encode
  [(paths.samples.get .warmup, []), (paths.samples.get .measurement, []),
    (paths.samples.get .warmup, sheet .warmup),
    (paths.samples.get .measurement, sheet .measurement)]

/-- The outputs of summaries, where there are summaries. -/
def summaryFiles (paths : OutputPaths) :
    Option (PerPhase Summary) → Except RangeFault (List (Text × List UInt8))
  | none => .ok []
  | some summaries => do
    let warmup ← summaries.warmup.fileText (some summaryIndent)
    let measurement ← summaries.measurement.fileText (some summaryIndent)
    return [(paths.summaries.get .warmup, warmup.encode),
      (paths.summaries.get .measurement, measurement.encode)]

theorem exists_of_mem_sheetFiles {config : SplitConfig} {paths : OutputPaths}
    {content : List UInt8} {file : Text × List UInt8}
    (h : file ∈ sheetFiles config paths content) : ∃ phase, file.1 = paths.samples.get phase := by
  simp only [sheetFiles, List.mem_cons, List.not_mem_nil, or_false] at h
  rcases h with rfl | rfl | rfl | rfl
  · exact ⟨.warmup, rfl⟩
  · exact ⟨.measurement, rfl⟩
  · exact ⟨.warmup, rfl⟩
  · exact ⟨.measurement, rfl⟩

theorem exists_of_mem_summaryFiles {paths : OutputPaths} {summaries : Option (PerPhase Summary)}
    {files : List (Text × List UInt8)} (h : summaryFiles paths summaries = .ok files)
    {file : Text × List UInt8} (hfile : file ∈ files) :
    ∃ phase, file.1 = paths.summaries.get phase := by
  cases summaries with
  | none =>
    cases h
    cases hfile
  | some summaries =>
    simp only [summaryFiles, bind_eq_ok_iff] at h
    obtain ⟨warmup, -, measurement, -, h⟩ := h
    cases h
    rcases List.mem_cons.1 hfile with rfl | hfile
    · exact ⟨.warmup, rfl⟩
    · exact ⟨.measurement, congrArg Prod.fst (List.mem_singleton.1 hfile)⟩

/-! ## Steps -/

section

variable {config : SplitConfig} {paths : OutputPaths} {content : List UInt8} {w w' : World}

/-- The files after the outputs of samples have been written. -/
theorem files_of_splitInto {s : SplitResult}
    (h : (splitInto config paths content).result w = (.ok s, w')) :
    (splitContent config content).result = .ok s
      ∧ w.files.writeAll (sheetFiles config paths content) = .ok w'.files := by
  unfold splitInto at h
  rw [Session.result_bind_eq_ok_iff] at h
  obtain ⟨_, v₁, h₁, h⟩ := h
  rw [Session.result_bind_eq_ok_iff] at h
  obtain ⟨_, v₂, h₂, h⟩ := h
  dsimp only at h
  rw [Session.result_bind_of_ok (Session.result_sayAll _ _),
    Session.result_bind_of_ok (Session.result_announce _ _), Session.result_bind_eq_ok_iff] at h
  obtain ⟨_, v₃, h₃, h⟩ := h
  rw [Session.result_bind_eq_ok_iff] at h
  obtain ⟨_, v₄, h₄, h⟩ := h
  obtain ⟨hresult, rfl⟩ := Session.ofExcept_eq_ok_iff.1 h
  refine ⟨hresult, ?_⟩
  simp only [sheetFiles, FileTree.writeAll_cons_eq_ok_iff]
  exact ⟨_, Session.files_of_changeFiles h₁, _, Session.files_of_changeFiles h₂,
    _, Session.files_of_changeFiles h₃, _, Session.files_of_changeFiles h₄, rfl⟩

/-- The files after a summary has been written. -/
theorem files_of_writeSummary {s : Summary} {path : Text} {u : Unit}
    (h : (writeSummary s path).result w = (.ok u, w')) :
    ∃ text, s.fileText (some summaryIndent) = .ok text
      ∧ w.files.write path text.encode = .ok w'.files := by
  unfold writeSummary at h
  rw [Session.result_bind_eq_ok_iff] at h
  obtain ⟨text, v, hmade, h⟩ := h
  obtain ⟨htext, rfl⟩ := Session.ofExcept_eq_ok_iff.1 hmade
  rw [Session.result_bind_eq_ok_iff] at h
  obtain ⟨_, v', hwrite, h⟩ := h
  rw [Session.result_say] at h
  cases h
  exact ⟨text, htext, Session.files_of_changeFiles hwrite⟩

end

/-! ## Whole splits -/

section

variable {config : SplitConfig} {path : Text} {removeInput : Bool} {w w' : World}
  {r : FileSplitResult}

theorem files_of_writeSummaries {paths : OutputPaths} {summaries : Option (PerPhase Summary)}
    {u : Unit} (h : (writeSummaries paths summaries).result w = (.ok u, w')) :
    ∃ files, summaryFiles paths summaries = .ok files
      ∧ w.files.writeAll files = .ok w'.files := by
  cases summaries with
  | none =>
    cases h
    exact ⟨[], rfl, rfl⟩
  | some summaries =>
    rw [writeSummaries, Session.result_bind_eq_ok_iff] at h
    obtain ⟨_, v, h₁, h₂⟩ := h
    obtain ⟨warmup, hwarmup, hw₁⟩ := files_of_writeSummary h₁
    obtain ⟨measurement, hmeasurement, hw₂⟩ := files_of_writeSummary h₂
    refine ⟨[(paths.summaries.warmup, warmup.encode),
      (paths.summaries.measurement, measurement.encode)], ?_, ?_⟩
    · rw [summaryFiles, hwarmup, hmeasurement]
      rfl
    · simp only [FileTree.writeAll_cons_eq_ok_iff]
      exact ⟨_, hw₁, _, hw₂, rfl⟩

/-- The files after the input has been removed or left. -/
theorem files_of_discardInput {u : Unit}
    (h : (discardInput path removeInput).result w = (.ok u, w')) :
    if removeInput then w.files.remove path = .ok w'.files else w.files = w'.files := by
  cases removeInput with
  | false =>
    cases h
    rfl
  | true =>
    rw [discardInput, Session.result_bind_eq_ok_iff] at h
    obtain ⟨_, v, hremove, h⟩ := h
    rw [Session.result_say] at h
    cases h
    exact Session.files_of_changeFiles hremove

/-- Telling the time has no part in the files. -/
theorem files_reportTime (start : Binary64) (w : World) :
    ((reportTime start).result w).2.files = w.files := by
  have hclock := Session.files_readClock FileSplitFault.interrupted w
  unfold reportTime
  rw [Session.result_bind]
  rcases hstop : (Session.readClock FileSplitFault.interrupted).result w with ⟨e | stop, v⟩
  · rwa [hstop] at hclock
  · rw [hstop] at hclock
    dsimp only
    rw [Session.result_bind, Session.result_ofExcept]
    cases wholeSeconds (stop.sub start) <;> exact hclock

/-- The part of a split that writes the outputs; it gives the start of the split, the paths of the
outputs and what was counted. -/
def writeOutputs (config : SplitConfig) (path : Text) :
    Session FileSplitFault (Binary64 × OutputPaths × SplitResult) := do
  let start ← Session.readClock .interrupted
  let paths := OutputPaths.ofInput path
  Session.sayAll (openingRecords config path)
  let content ← Session.readFile .file path
  let result ← splitInto config paths content
  writeSummaries paths result.summaries
  return (start, paths, result)

/-- **After the outputs** there is only the input to remove and the time to tell. -/
theorem splitFile_eq (config : SplitConfig) (path : Text) (removeInput : Bool) :
    splitFile config path removeInput = writeOutputs config path >>= fun written => do
      discardInput path removeInput
      let seconds ← reportTime written.1
      return ⟨written.2.2, written.2.1, seconds⟩ := by
  unfold splitFile writeOutputs
  simp only [bind_assoc, pure_bind]

/-- **The files after the outputs.**  The input has been read, and the outputs have been written one
after another. -/
theorem files_of_writeOutputs {written : Binary64 × OutputPaths × SplitResult}
    (h : (writeOutputs config path).result w = (.ok written, w')) :
    ∃ content summaries, w.files.read path = .ok content
      ∧ (splitContent config content).result = .ok written.2.2
      ∧ written.2.1 = OutputPaths.ofInput path
      ∧ summaryFiles written.2.1 written.2.2.summaries = .ok summaries
      ∧ w.files.writeAll (sheetFiles config written.2.1 content ++ summaries) = .ok w'.files := by
  unfold writeOutputs at h
  rw [Session.result_bind_eq_ok_iff] at h
  obtain ⟨start, v₁, hstart, h⟩ := h
  have hv₁ : v₁.files = w.files := by
    have hclock := Session.files_readClock FileSplitFault.interrupted w
    rwa [hstart] at hclock
  dsimp only at h
  rw [Session.result_bind_of_ok (Session.result_sayAll _ _), Session.result_bind_eq_ok_iff] at h
  obtain ⟨content, v₂, hcontent, h⟩ := h
  obtain ⟨hread, rfl⟩ := Session.readFile_eq_ok_iff.1 hcontent
  rw [Session.result_bind_eq_ok_iff] at h
  obtain ⟨result, v₃, hsheets, h⟩ := h
  obtain ⟨hresult, hsheetFiles⟩ := files_of_splitInto hsheets
  rw [Session.result_bind_eq_ok_iff] at h
  obtain ⟨_, v₄, hsummaries, h⟩ := h
  obtain ⟨summaries, hsummaryFiles, hwritten⟩ := files_of_writeSummaries hsummaries
  cases h
  refine ⟨content, summaries, ?_, hresult, rfl, hsummaryFiles, ?_⟩
  · rw [← hv₁]
    exact hread
  · rw [← hv₁, FileTree.writeAll_append, bind_eq_ok_iff]
    exact ⟨_, hsheetFiles, hwritten⟩

/-- **The files after a split with a result.**  The input has been read, the outputs have been
written, and then the input has been removed or nothing more has been done. -/
theorem files_of_splitFile (h : (splitFile config path removeInput).result w = (.ok r, w')) :
    ∃ content summaries t, w.files.read path = .ok content
      ∧ (splitContent config content).result = .ok r.split
      ∧ r.paths = OutputPaths.ofInput path
      ∧ summaryFiles r.paths r.split.summaries = .ok summaries
      ∧ w.files.writeAll (sheetFiles config r.paths content ++ summaries) = .ok t
      ∧ if removeInput then t.remove path = .ok w'.files else t = w'.files := by
  rw [splitFile_eq, Session.result_bind_eq_ok_iff] at h
  obtain ⟨written, v, hwritten, h⟩ := h
  obtain ⟨content, summaries, hread, hresult, hpaths, hsummaries, hfiles⟩ :=
    files_of_writeOutputs hwritten
  rw [Session.result_bind_eq_ok_iff] at h
  obtain ⟨_, v', hdiscard, h⟩ := h
  have hremoved := files_of_discardInput hdiscard
  rw [Session.result_bind_eq_ok_iff] at h
  obtain ⟨seconds, v'', htime, h⟩ := h
  have hv'' : v''.files = v'.files := by
    have hclock := files_reportTime written.1 v'
    rwa [htime] at hclock
  cases h
  refine ⟨content, summaries, v.files, hread, hresult, hpaths, hsummaries, hfiles, ?_⟩
  rwa [hv'']

/-! ## Complete outputs -/

/-- The outputs of the split of a file of these bytes are there in full: the split has a result,
each output of samples holds its sheet and, if summaries are asked for, each output of a summary
holds its text. -/
def OutputsComplete (config : SplitConfig) (path : Text) (content : List UInt8) (t : FileTree) :
    Prop :=
  ∃ r, (splitContent config content).result = .ok r
    ∧ (∀ phase, t.read ((OutputPaths.ofInput path).samples.get phase)
        = .ok ((splitContent config content).sheets.text phase).encode)
    ∧ (config.summarize = true → ∃ summaries, r.summaries = some summaries
        ∧ ∀ phase, ∃ text, (summaries.get phase).fileText (some summaryIndent) = .ok text
          ∧ t.read ((OutputPaths.ofInput path).summaries.get phase) = .ok text.encode)

/-- An output of samples holds its sheet when no file is written to its place afterwards. -/
theorem read_sheet {t t' : FileTree} {paths : OutputPaths} {content : List UInt8}
    {files : List (Text × List UInt8)}
    (h : t.writeAll (sheetFiles config paths content ++ files) = .ok t')
    (hsheets : ∀ q, t.resolve (paths.samples.get .warmup) = .ok q →
      t.resolve (paths.samples.get .measurement) ≠ .ok q)
    (hfiles : ∀ phase, ∀ file ∈ files, ∀ q, t.resolve (paths.samples.get phase) = .ok q →
      t.resolve file.1 ≠ .ok q) (phase : Phase) :
    t'.read (paths.samples.get phase)
      = .ok ((splitContent config content).sheets.text phase).encode := by
  cases phase with
  | warmup =>
    refine FileTree.read_writeAll ((sheetFiles config paths content).take 2) h ?_
    intro file hfile q hq
    rcases List.mem_cons.1 hfile with rfl | hfile
    · exact hsheets q hq
    · exact hfiles .warmup file hfile q hq
  | measurement =>
    refine FileTree.read_writeAll ((sheetFiles config paths content).take 3) h ?_
    intro file hfile q hq
    exact hfiles .measurement file hfile q hq

/-- The outputs of summaries hold their texts when nothing is written after them. -/
theorem read_summary {t t' : FileTree} {paths : OutputPaths} {summaries : PerPhase Summary}
    {files files' : List (Text × List UInt8)}
    (hfiles : summaryFiles paths (some summaries) = .ok files)
    (h : t.writeAll (files' ++ files) = .ok t')
    (hsummaries : ∀ q, t.resolve (paths.summaries.get .warmup) = .ok q →
      t.resolve (paths.summaries.get .measurement) ≠ .ok q) (phase : Phase) :
    ∃ text, (summaries.get phase).fileText (some summaryIndent) = .ok text
      ∧ t'.read (paths.summaries.get phase) = .ok text.encode := by
  simp only [summaryFiles, bind_eq_ok_iff] at hfiles
  obtain ⟨warmup, hwarmup, measurement, hmeasurement, hfiles⟩ := hfiles
  cases hfiles
  cases phase with
  | warmup =>
    refine ⟨warmup, hwarmup, FileTree.read_writeAll files' h ?_⟩
    intro file hfile q hq
    rw [List.mem_singleton.1 hfile]
    exact hsummaries q hq
  | measurement =>
    have hlast : t.writeAll ((files' ++ [(paths.summaries.get .warmup, warmup.encode)])
        ++ (paths.summaries.get .measurement, measurement.encode) :: []) = .ok t' := by
      rw [List.append_assoc]
      exact h
    refine ⟨measurement, hmeasurement, FileTree.read_writeAll _ hlast ?_⟩
    intro file hfile
    cases hfile

/-- **The outputs are complete** when they have been written one after another: each has a place
of its own. -/
theorem outputsComplete_of_writeAll {t t' : FileTree} {p : Place} {content : List UInt8}
    {s : SplitResult} {files : List (Text × List UInt8)} (hp : t.resolve path = .ok p)
    (hresult : (splitContent config content).result = .ok s)
    (hfiles : summaryFiles (OutputPaths.ofInput path) s.summaries = .ok files)
    (h : t.writeAll (sheetFiles config (OutputPaths.ofInput path) content ++ files) = .ok t') :
    OutputsComplete config path content t' := by
  refine ⟨s, hresult, ?sheets, ?summaries⟩
  case sheets =>
    refine read_sheet h (fun q => OutputPaths.resolve_samples_ne hp (by decide)) ?_
    intro phase file hfile q hq
    obtain ⟨phase', hphase'⟩ := exists_of_mem_summaryFiles hfiles hfile
    rw [hphase']
    exact OutputPaths.resolve_summaries_ne hp hq
  case summaries =>
    intro hsummarize
    obtain ⟨_, _, _, books⟩ := exists_splitBooks hresult
    obtain ⟨summaries, hsome, -⟩ := books.summaries_eq hsummarize
    rw [hsome] at hfiles
    exact ⟨summaries, hsome, read_summary hfiles h fun q =>
      OutputPaths.resolve_summaries_ne_summaries hp (by decide)⟩

/-- The removal of the input leaves complete outputs as they are. -/
theorem OutputsComplete.remove {t t' : FileTree} {content : List UInt8}
    (h : OutputsComplete config path content t) (hremove : t.remove path = .ok t') :
    OutputsComplete config path content t' := by
  obtain ⟨s, hresult, hsheets, hsummaries⟩ := h
  refine ⟨s, hresult, ?_, ?_⟩
  · intro phase
    exact FileTree.read_remove hremove (fun q => OutputPaths.resolve_input_ne) (hsheets phase)
  · intro hsummarize
    obtain ⟨summaries, hsome, htexts⟩ := hsummaries hsummarize
    refine ⟨summaries, hsome, ?_⟩
    intro phase
    obtain ⟨text, htext, hread⟩ := htexts phase
    exact ⟨text, htext,
      FileTree.read_remove hremove (fun q => OutputPaths.resolve_input_ne_summary) hread⟩

theorem OutputsComplete.read_sheet {t : FileTree} {content : List UInt8}
    (h : OutputsComplete config path content t) (phase : Phase) :
    t.read ((OutputPaths.ofInput path).samples.get phase)
      = .ok ((splitContent config content).sheets.text phase).encode := by
  obtain ⟨_, -, hsheets, -⟩ := h
  exact hsheets phase

/-- In complete outputs each summary that the split has made stands in its file. -/
theorem OutputsComplete.read_summary {t : FileTree} {content : List UInt8} {s : SplitResult}
    {summaries : PerPhase Summary} (h : OutputsComplete config path content t)
    (hresult : (splitContent config content).result = .ok s) (hsome : s.summaries = some summaries)
    (phase : Phase) :
    ∃ text, (summaries.get phase).fileText (some summaryIndent) = .ok text
      ∧ t.read ((OutputPaths.ofInput path).summaries.get phase) = .ok text.encode := by
  obtain ⟨s', hresult', -, hsummaries⟩ := h
  obtain rfl : s' = s := Except.ok.inj (hresult'.symm.trans hresult)
  cases hsummarize : config.summarize with
  | false =>
    rw [summaries_eq_none hresult hsummarize] at hsome
    cases hsome
  | true =>
    obtain ⟨summaries', hsome', htexts⟩ := hsummaries hsummarize
    obtain rfl : summaries' = summaries := Option.some.inj (hsome'.symm.trans hsome)
    exact htexts phase

/-- A split that gives a result has completed its outputs. -/
theorem outputsComplete_of_splitFile
    (h : (splitFile config path removeInput).result w = (.ok r, w')) :
    ∃ content, w.files.read path = .ok content
      ∧ (splitContent config content).result = .ok r.split
      ∧ r.paths = OutputPaths.ofInput path
      ∧ OutputsComplete config path content w'.files := by
  obtain ⟨content, summaries, t, hread, hresult, hpaths, hsummaries, hwritten, hremoved⟩ :=
    files_of_splitFile h
  obtain ⟨p, hp, -⟩ := FileTree.read_eq_ok_iff.1 hread
  rw [hpaths] at hsummaries hwritten
  have hcomplete := outputsComplete_of_writeAll hp hresult hsummaries hwritten
  refine ⟨content, hread, hresult, hpaths, ?_⟩
  cases removeInput with
  | false =>
    obtain rfl : t = w'.files := hremoved
    exact hcomplete
  | true => exact hcomplete.remove hremoved

/-- **Each output of samples holds its sheet** when a split has given a result: nothing that is
written or removed after it stands in its place. -/
theorem exists_read_sheet (h : (splitFile config path removeInput).result w = (.ok r, w')) :
    ∃ content, w.files.read path = .ok content
      ∧ (splitContent config content).result = .ok r.split
      ∧ r.paths = OutputPaths.ofInput path
      ∧ ∀ phase, w'.files.read (r.paths.samples.get phase)
        = .ok ((splitContent config content).sheets.text phase).encode := by
  obtain ⟨content, hread, hresult, hpaths, -, -, hsheets, -⟩ := outputsComplete_of_splitFile h
  refine ⟨content, hread, hresult, hpaths, ?_⟩
  rw [hpaths]
  exact hsheets

end

end PhaseSplit
