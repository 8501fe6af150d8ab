import Mathlib.Tactic
import PhaseSplit.Proofs.Split.File

/-!
# When the split of a file succeeds

The split of a file can fail at its input, at its lines, at its outputs and at the clock.  If none
of these fails, it has a result: the converse of what a result says about the files.

* `reaches_splitInto`, `reaches_writeSummaries`, `reaches_discardInput`: the steps of a split reach
  the files that the operations on the file tree come to;
* `SplitConfig.outputs`: the outputs that a split writes;
* `exists_writeAll_outputs`: they can all be written if none is a directory or too long;
* `exists_splitFile`: a split whose lines can be split and whose outputs can be written has a
  result.
-/

namespace PhaseSplit

/-! ## Steps -/

section

variable {config : SplitConfig} {path : Text} {paths : OutputPaths} {content : List UInt8}
  {t t' : FileTree}

theorem reaches_splitInto {s : SplitResult} (hresult : (splitContent config content).result = .ok s)
    (hfiles : t.writeAll (sheetFiles config paths content) = .ok t') :
    Session.Reaches (splitInto config paths content) t s t' := by
  simp only [sheetFiles, FileTree.writeAll_cons_eq_ok_iff] at hfiles
  obtain ⟨t₁, h₁, t₂, h₂, t₃, h₃, t₄, h₄, hlast⟩ := hfiles
  cases hlast
  unfold splitInto
  refine (Session.Reaches.changeFiles h₁).bind ?_
  refine (Session.Reaches.changeFiles h₂).bind ?_
  refine (Session.Reaches.sayAll _ _).bind ?_
  refine (Session.Reaches.announce _ _).bind ?_
  refine (Session.Reaches.changeFiles h₃).bind ?_
  refine (Session.Reaches.changeFiles h₄).bind ?_
  exact Session.Reaches.ofExcept hresult _

theorem reaches_writeSummary {s : Summary} {text : Text}
    (htext : s.fileText (some summaryIndent) = .ok text)
    (hfiles : t.write path text.encode = .ok t') :
    Session.Reaches (writeSummary s path) t () t' := by
  unfold writeSummary
  refine (Session.Reaches.ofExcept htext _).bind ?_
  refine (Session.Reaches.changeFiles hfiles).bind ?_
  exact Session.Reaches.say _ _

theorem reaches_writeSummaries {summaries : Option (PerPhase Summary)}
    {files : List (Text × List UInt8)} (hfiles : summaryFiles paths summaries = .ok files)
    (hwritten : t.writeAll files = .ok t') :
    Session.Reaches (writeSummaries paths summaries) t () t' := by
  cases summaries with
  | none =>
    cases hfiles
    cases hwritten
    exact Session.Reaches.pure _ _
  | some summaries =>
    simp only [summaryFiles, bind_eq_ok_iff] at hfiles
    obtain ⟨warmup, hwarmup, measurement, hmeasurement, hfiles⟩ := hfiles
    cases hfiles
    simp only [FileTree.writeAll_cons_eq_ok_iff] at hwritten
    obtain ⟨t₁, h₁, t₂, h₂, hlast⟩ := hwritten
    cases hlast
    exact (reaches_writeSummary hwarmup h₁).bind (reaches_writeSummary hmeasurement h₂)

theorem reaches_discardInput {removeInput : Bool}
    (h : if removeInput then t.remove path = .ok t' else t = t') :
    Session.Reaches (discardInput path removeInput) t () t' := by
  cases removeInput with
  | false =>
    have hsame : t = t' := h
    rw [hsame]
    exact Session.Reaches.pure _ _
  | true =>
    have hremove : t.remove path = .ok t' := h
    exact (Session.Reaches.changeFiles hremove).bind (Session.Reaches.say _ _)

end

/-! ## Outputs that can be written -/

/-- The outputs that a split writes: those of the samples and, if it summarizes, those of the
summaries. -/
def SplitConfig.outputs (config : SplitConfig) (path : Text) : List Text :=
  let paths := OutputPaths.ofInput path
  [paths.samples.get .warmup, paths.samples.get .measurement]
    ++ if config.summarize then [paths.summaries.get .warmup, paths.summaries.get .measurement]
      else []

section

variable {config : SplitConfig} {path : Text} {content : List UInt8} {s : SplitResult}
  {t : FileTree} {p : Place} {files : List (Text × List UInt8)}

theorem mem_outputs_iff {output : Text} :
    output ∈ config.outputs path
      ↔ (∃ phase, output = (OutputPaths.ofInput path).samples.get phase)
        ∨ config.summarize = true
          ∧ ∃ phase, output = (OutputPaths.ofInput path).summaries.get phase := by
  have hphases : ∀ pair : PerPhase Text,
      output ∈ [pair.get .warmup, pair.get .measurement] ↔ ∃ phase, output = pair.get phase := by
    intro pair
    simp only [List.mem_cons, List.not_mem_nil, or_false]
    constructor
    · rintro (h | h)
      · exact ⟨.warmup, h⟩
      · exact ⟨.measurement, h⟩
    · rintro ⟨_ | _, h⟩
      · exact .inl h
      · exact .inr h
  unfold SplitConfig.outputs
  dsimp only
  rw [List.mem_append, hphases]
  cases config.summarize with
  | false => simp
  | true => rw [if_pos rfl, hphases, eq_self, true_and]

/-- Each output leads somewhere if the input does, unless it is too long. -/
theorem exists_resolve_of_mem_outputs {output : Text} (hp : t.resolve path = .ok p)
    (houtput : output ∈ config.outputs path) (hfits : OutputPaths.FitsLimits output) :
    ∃ q, t.resolve output = .ok q := by
  rcases mem_outputs_iff.1 houtput with ⟨phase, rfl⟩ | ⟨-, phase, rfl⟩
  · exact OutputPaths.exists_resolve_sample hp hfits
  · exact OutputPaths.exists_resolve_summary hp hfits

/-- The files that a split writes are its outputs. -/
theorem mem_outputs_of_mem_files {file : Text × List UInt8}
    (hresult : (splitContent config content).result = .ok s)
    (hfiles : summaryFiles (OutputPaths.ofInput path) s.summaries = .ok files)
    (hfile : file ∈ sheetFiles config (OutputPaths.ofInput path) content ++ files) :
    file.1 ∈ config.outputs path := by
  rw [mem_outputs_iff]
  rcases List.mem_append.1 hfile with hsheet | hsummary
  · exact .inl (exists_of_mem_sheetFiles hsheet)
  · right
    cases hsummarize : config.summarize with
    | false =>
      rw [summaries_eq_none hresult hsummarize] at hfiles
      cases hfiles
      cases hsummary
    | true => exact ⟨rfl, exists_of_mem_summaryFiles hfiles hsummary⟩

/-- **All outputs can be written** next to an input that leads somewhere, if none of them is a
directory or too long. -/
theorem exists_writeAll_outputs (hp : t.resolve path = .ok p)
    (hresult : (splitContent config content).result = .ok s)
    (hfiles : summaryFiles (OutputPaths.ofInput path) s.summaries = .ok files)
    (hfree : ∀ output ∈ config.outputs path, t.isDirectory output = false)
    (hfits : ∀ output ∈ config.outputs path, OutputPaths.FitsLimits output) :
    ∃ t', t.writeAll (sheetFiles config (OutputPaths.ofInput path) content ++ files) = .ok t' := by
  refine FileTree.exists_writeAll ?_
  intro file hfile
  have houtput := mem_outputs_of_mem_files hresult hfiles hfile
  obtain ⟨q, hq⟩ := exists_resolve_of_mem_outputs hp houtput (hfits _ houtput)
  refine ⟨q, hq, ?_⟩
  exact FileTree.node?_ne_of_isDirectory hq (hfree _ houtput)

/-- The input is still there when all outputs have been written. -/
theorem exists_discarded {t' : FileTree} (removeInput : Bool) (hread : t.read path = .ok content)
    (hfiles : summaryFiles (OutputPaths.ofInput path) s.summaries = .ok files)
    (hwritten : t.writeAll (sheetFiles config (OutputPaths.ofInput path) content ++ files)
      = .ok t') :
    ∃ t'', if removeInput then t'.remove path = .ok t'' else t' = t'' := by
  cases removeInput with
  | false => exact ⟨t', rfl⟩
  | true =>
    obtain ⟨p, hp, hnode⟩ := FileTree.read_eq_ok_iff.1 hread
    obtain ⟨hsame, hother⟩ := FileTree.node?_writeAll hwritten
    have hkept : t'.node? p = some (.file content) := by
      rw [hother p, hnode]
      intro file hfile hq
      rcases List.mem_append.1 hfile with hsheet | hsummary
      · obtain ⟨phase, hphase⟩ := exists_of_mem_sheetFiles hsheet
        rw [hphase] at hq
        exact OutputPaths.resolve_input_ne hq hp
      · obtain ⟨phase, hphase⟩ := exists_of_mem_summaryFiles hfiles hsummary
        rw [hphase] at hq
        exact OutputPaths.resolve_input_ne_summary hq hp
    refine ⟨t'.erase p, ?_⟩
    show t'.remove path = .ok (t'.erase p)
    exact FileTree.remove_eq_ok_iff.2 ⟨p, content, hsame.resolve_eq_ok_iff.2 hp, hkept, rfl⟩

end

/-! ## Whole splits -/

/-- The part of a split between the two readings of the clock. -/
def splitUntimed (config : SplitConfig) (path : Text) (removeInput : Bool) :
    Session FileSplitFault SplitResult := do
  Session.sayAll (openingRecords config path)
  let content ← Session.readFile .file path
  let result ← splitInto config (OutputPaths.ofInput path) content
  writeSummaries (OutputPaths.ofInput path) result.summaries
  discardInput path removeInput
  return result

theorem splitFile_eq_timed (config : SplitConfig) (path : Text) (removeInput : Bool) :
    splitFile config path removeInput = (do
      let start ← Session.readClock .interrupted
      let result ← splitUntimed config path removeInput
      let seconds ← reportTime start
      return ⟨result, OutputPaths.ofInput path, seconds⟩) := by
  unfold splitFile splitUntimed
  simp only [bind_assoc, pure_bind]

section

variable {config : SplitConfig} {path : Text} {removeInput : Bool} {content : List UInt8}
  {s : SplitResult} {files : List (Text × List UInt8)} {t t' t'' : FileTree} {w : World}

/-- The time of a split is told, if the clock can tell it. -/
theorem exists_reportTime {start stop : Binary64} {n : Int}
    (hstop : Session.nextReading w = .seconds stop)
    (hwhole : (stop.sub start).truncate? = some n) :
    ∃ seconds w', (reportTime start).result w = (.ok seconds, w') := by
  have hclock := Session.result_readClock_of_seconds hstop FileSplitFault.interrupted
  have hseconds : (Session.ofExcept id (wholeSeconds (stop.sub start)) :
      Session FileSplitFault Int).result (Session.afterReading w)
        = (.ok n, Session.afterReading w) := by
    rw [Session.result_ofExcept, wholeSeconds, hwhole]
    rfl
  unfold reportTime
  rw [Session.result_bind_of_ok hclock]
  dsimp only
  rw [Session.result_bind_of_ok hseconds]
  exact ⟨_, _, rfl⟩

theorem reaches_splitUntimed (hread : t.read path = .ok content)
    (hresult : (splitContent config content).result = .ok s)
    (hfiles : summaryFiles (OutputPaths.ofInput path) s.summaries = .ok files)
    (hwritten : t.writeAll (sheetFiles config (OutputPaths.ofInput path) content ++ files)
      = .ok t')
    (hdiscarded : if removeInput then t'.remove path = .ok t'' else t' = t'') :
    Session.Reaches (splitUntimed config path removeInput) t s t'' := by
  rw [FileTree.writeAll_append, bind_eq_ok_iff] at hwritten
  obtain ⟨t₁, hsheets, hsummaries⟩ := hwritten
  unfold splitUntimed
  refine (Session.Reaches.sayAll _ _).bind ?_
  refine (Session.Reaches.readFile hread).bind ?_
  refine (reaches_splitInto hresult hsheets).bind ?_
  refine (reaches_writeSummaries hfiles hsummaries).bind ?_
  refine (reaches_discardInput hdiscarded).bind ?_
  exact Session.Reaches.pure _ _

/-- **When the split of a file succeeds.**  Its lines can be split, the summaries have texts, no
output is a directory or too long, and the clock can tell the time of it. -/
theorem exists_splitFile (removeInput : Bool) (hread : w.files.read path = .ok content)
    (hresult : (splitContent config content).result = .ok s)
    (hfiles : summaryFiles (OutputPaths.ofInput path) s.summaries = .ok files)
    (hfree : ∀ output ∈ config.outputs path, w.files.isDirectory output = false)
    (hfits : ∀ output ∈ config.outputs path, OutputPaths.FitsLimits output)
    (hclock : Session.TellsTime w) :
    ∃ r w', (splitFile config path removeInput).result w = (.ok r, w') := by
  obtain ⟨p, hp, -⟩ := FileTree.read_eq_ok_iff.1 hread
  obtain ⟨t, hwritten⟩ := exists_writeAll_outputs hp hresult hfiles hfree hfits
  obtain ⟨t', hdiscarded⟩ := exists_discarded removeInput hread hfiles hwritten
  obtain ⟨start, stop, n, hstart, hstop, hwhole⟩ := hclock
  have hfirst := Session.result_readClock_of_seconds hstart FileSplitFault.interrupted
  -- between its two readings the clock is not asked
  obtain ⟨v, hsplit, -, hsame⟩ := reaches_splitUntimed hread hresult hfiles hwritten hdiscarded
    (Session.afterReading w) (Session.files_afterReading w)
  obtain ⟨seconds, v', hlast⟩ :=
    exists_reportTime ((Session.nextReading_congr hsame).trans hstop) hwhole
  refine ⟨⟨s, OutputPaths.ofInput path, seconds⟩, v', ?_⟩
  rw [splitFile_eq_timed, Session.result_bind_of_ok hfirst, Session.result_bind_of_ok hsplit,
    Session.result_bind_of_ok hlast]
  rfl

end

end PhaseSplit
