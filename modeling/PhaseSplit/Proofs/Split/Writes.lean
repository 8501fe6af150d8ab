import Mathlib.Tactic
import PhaseSplit.Proofs.Files.Writes
import PhaseSplit.Proofs.Split.FileCompletion
import PhaseSplit.Proofs.Split.InputKept
import PhaseSplit.Proofs.Stats.SummaryText

/-!
# The files that a split writes

The files that a split writes are known when its input has been read: the two outputs of samples,
emptied and then filled, and the summaries if the lines come to a result.  It writes them one after
another and ends at the first that is refused.

* `Session.Writes`: work that writes the files of a list as far as it goes;
* `writesOf`, `writes_splitAndSummarize`: the files of a split, which can all be made;
* `files_splitFile_of_interrupt`, `files_splitFile_of_unread`: a split that does not come to its
  lines changes no file;
* `files_splitFile`: the files after a split, whatever its outcome;
* `result_splitFile_of_fault`: a split whose lines cannot be split;
* `carries_splitAndSummarize`: a split in two worlds that are alike.
-/

namespace PhaseSplit

/-! ## Work that writes files -/

/-- Work that writes the files of a list one after another without asking the clock; it fails at the
first that is refused, and comes to `x` if none is. -/
def Session.Writes {α : Type} (work : Session FileSplitFault α) (files : List (Text × List UInt8))
    (x : Except FileSplitFault α) : Prop :=
  ∀ w : World, ∃ w', work.result w = ((match w.files.writeAll files with
      | .ok _ => x
      | .error e => .error (.file e)), w')
    ∧ w'.files = w.files.writeSome files

namespace Session.Writes

variable {α β : Type} {work : Session FileSplitFault α} {f : α → Session FileSplitFault β}
  {files files' : List (Text × List UInt8)} {a : α} {x : Except FileSplitFault β}

/-- Work after work writes files after files. -/
theorem bind (hwork : Writes work files (.ok a)) (hf : Writes (f a) files' x) :
    Writes (work >>= f) (files ++ files') x := by
  intro w
  obtain ⟨v, hv, hfiles⟩ := hwork w
  rw [result_bind, hv, FileTree.writeAll_append]
  cases hall : w.files.writeAll files with
  | error e =>
    refine ⟨v, rfl, ?_⟩
    rw [FileTree.writeSome_append_of_error hall, hfiles]
  | ok t =>
    rw [FileTree.writeSome_of_writeAll hall] at hfiles
    obtain ⟨w', hw', hfiles'⟩ := hf v
    rw [hfiles] at hw' hfiles'
    refine ⟨w', hw', ?_⟩
    rw [FileTree.writeSome_append_of_ok hall, hfiles']

/-- Work that has failed is not followed by other work. -/
theorem bind_of_error {e : FileSplitFault} (hwork : Writes work files (.error e)) :
    Writes (work >>= f) files (.error e) := by
  intro w
  obtain ⟨v, hv, hfiles⟩ := hwork w
  refine ⟨v, ?_, hfiles⟩
  rw [result_bind, hv]
  cases w.files.writeAll files <;> rfl

theorem pure (a : α) : Writes (Pure.pure a) [] (.ok a) := fun w => ⟨w, rfl, rfl⟩

theorem sayAll (records : Log) : Writes (Session.sayAll records) [] (.ok ()) :=
  fun _ => ⟨_, rfl, rfl⟩

theorem announce (progress : List Nat) : Writes (Session.announce progress) [] (.ok ()) :=
  fun _ => ⟨_, rfl, rfl⟩

theorem ofExcept {ε : Type} (wrap : ε → FileSplitFault) (y : Except ε α) :
    Writes (Session.ofExcept wrap y) [] (y.mapError wrap) :=
  fun w => ⟨w, by rw [result_ofExcept]; rfl, rfl⟩

theorem writeFile (path : Text) (content : List UInt8) :
    Writes (Session.writeFile .file path content) [(path, content)] (.ok ()) := by
  intro w
  unfold Session.writeFile
  rw [result_changeFiles, FileTree.writeAll, FileTree.writeSome]
  cases w.files.write path content with
  | error e => exact ⟨w, rfl, rfl⟩
  | ok t => exact ⟨{ w with files := t }, rfl, rfl⟩

end Session.Writes

/-! ## The files of a split -/

/-- The lines of an input split into its outputs, and the summaries written after them. -/
def splitAndSummarize (config : SplitConfig) (paths : OutputPaths) (content : List UInt8) :
    Session FileSplitFault SplitResult := do
  let result ← splitInto config paths content
  writeSummaries paths result.summaries
  return result

/-- The files that the split of an input of these bytes writes one after another, if none is
refused. -/
def writesOf (config : SplitConfig) (path : Text) (content : List UInt8) :
    List (Text × List UInt8) :=
  let paths := OutputPaths.ofInput path
  sheetFiles config paths content ++
    match (splitContent config content).result with
    | .error _ => []
    | .ok r =>
      match summaryFiles paths r.summaries with
      | .error _ => []
      | .ok files => files

section

variable {config : SplitConfig} {path : Text} {paths : OutputPaths} {content : List UInt8}
  {r : SplitResult}

theorem writes_splitInto (config : SplitConfig) (paths : OutputPaths) (content : List UInt8) :
    Session.Writes (splitInto config paths content) (sheetFiles config paths content)
      ((splitContent config content).result.mapError .split) := by
  unfold splitInto
  refine (Session.Writes.writeFile _ _).bind ?_
  refine (Session.Writes.writeFile _ _).bind ?_
  refine (Session.Writes.sayAll _).bind ?_
  refine (Session.Writes.announce _).bind ?_
  refine (Session.Writes.writeFile _ _).bind ?_
  refine (Session.Writes.writeFile _ _).bind ?_
  exact Session.Writes.ofExcept _ _

theorem writes_writeSummary {summary : Summary} {text : Text}
    (htext : summary.fileText (some summaryIndent) = .ok text) (path : Text) :
    Session.Writes (writeSummary summary path) [(path, text.encode)] (.ok ()) := by
  unfold writeSummary
  rw [htext]
  refine (Session.Writes.ofExcept .range (.ok text)).bind ?_
  refine (Session.Writes.writeFile _ _).bind ?_
  exact Session.Writes.sayAll _

theorem writes_writeSummaries {summaries : Option (PerPhase Summary)}
    {files : List (Text × List UInt8)} (hfiles : summaryFiles paths summaries = .ok files) :
    Session.Writes (writeSummaries paths summaries) files (.ok ()) := by
  cases summaries with
  | none =>
    cases hfiles
    exact Session.Writes.pure ()
  | some summaries =>
    simp only [summaryFiles, bind_eq_ok_iff] at hfiles
    obtain ⟨warmup, hwarmup, measurement, hmeasurement, hfiles⟩ := hfiles
    cases hfiles
    exact (writes_writeSummary hwarmup _).bind (writes_writeSummary hmeasurement _)

/-- The summaries of a split can be written. -/
theorem exists_summaryFiles (paths : OutputPaths)
    (hresult : (splitContent config content).result = .ok r) :
    ∃ files, summaryFiles paths r.summaries = .ok files := by
  cases hsummarize : config.summarize with
  | false =>
    rw [summaries_eq_none hresult hsummarize]
    exact ⟨[], rfl⟩
  | true =>
    obtain ⟨_, _, _, books⟩ := exists_splitBooks hresult
    obtain ⟨summaries, hsome, hsummary⟩ := books.summaries_eq hsummarize
    obtain ⟨warmup, hwarmup⟩ :=
      (PhaseStats.named_of_summary (hsummary .warmup)).exists_fileText (some summaryIndent)
    obtain ⟨measurement, hmeasurement⟩ :=
      (PhaseStats.named_of_summary (hsummary .measurement)).exists_fileText (some summaryIndent)
    have htexts : summaries.warmup.fileText (some summaryIndent) = .ok warmup
        ∧ summaries.measurement.fileText (some summaryIndent) = .ok measurement :=
      ⟨hwarmup, hmeasurement⟩
    rw [hsome, summaryFiles, htexts.1, htexts.2]
    exact ⟨_, rfl⟩

theorem writesOf_of_ok {files : List (Text × List UInt8)}
    (hresult : (splitContent config content).result = .ok r)
    (hfiles : summaryFiles (OutputPaths.ofInput path) r.summaries = .ok files) :
    writesOf config path content
      = sheetFiles config (OutputPaths.ofInput path) content ++ files := by
  unfold writesOf
  rw [hresult]
  dsimp only
  rw [hfiles]

theorem writesOf_of_error {e : SplitFault}
    (hresult : (splitContent config content).result = .error e) :
    writesOf config path content = sheetFiles config (OutputPaths.ofInput path) content := by
  unfold writesOf
  rw [hresult]
  exact List.append_nil _

/-- **A split writes its files** as far as it goes, and fails at the first that is refused. -/
theorem writes_splitAndSummarize (config : SplitConfig) (path : Text) (content : List UInt8) :
    Session.Writes (splitAndSummarize config (OutputPaths.ofInput path) content)
      (writesOf config path content) ((splitContent config content).result.mapError .split) := by
  have hsheets := writes_splitInto config (OutputPaths.ofInput path) content
  unfold splitAndSummarize
  cases hresult : (splitContent config content).result with
  | error e =>
    rw [hresult] at hsheets
    rw [writesOf_of_error hresult]
    exact hsheets.bind_of_error
  | ok r =>
    obtain ⟨files, hfiles⟩ := exists_summaryFiles (OutputPaths.ofInput path) hresult
    rw [hresult] at hsheets
    rw [writesOf_of_ok hresult hfiles, ← List.append_nil files]
    exact hsheets.bind ((writes_writeSummaries hfiles).bind (Session.Writes.pure r))

/-! ## The files after a split -/

variable {removeInput : Bool} {w : World}

theorem splitUntimed_eq (config : SplitConfig) (path : Text) (removeInput : Bool) :
    splitUntimed config path removeInput = (do
      Session.sayAll (openingRecords config path)
      let content ← Session.readFile .file path
      let result ← splitAndSummarize config (OutputPaths.ofInput path) content
      discardInput path removeInput
      return result) := by
  unfold splitUntimed splitAndSummarize
  simp only [bind_assoc, pure_bind]

/-- The world in which the lines of an input are split. -/
def worldOfLines (config : SplitConfig) (path : Text) (w : World) : World :=
  let v := Session.afterReading w
  { v with log := v.log ++ openingRecords config path }

@[simp] theorem files_worldOfLines (config : SplitConfig) (path : Text) (w : World) :
    (worldOfLines config path w).files = w.files := Session.files_afterReading w

theorem result_sayOpening (config : SplitConfig) (path : Text) (w : World) :
    (Session.sayAll (openingRecords config path) : Session FileSplitFault Unit).result
      (Session.afterReading w) = (.ok (), worldOfLines config path w) := rfl

theorem result_splitFile_of_interrupt (h : Session.nextReading w = .interrupt) :
    (splitFile config path removeInput).result w
      = (.error .interrupted, Session.afterReading w) := by
  unfold splitFile
  rw [Session.result_bind, Session.result_readClock, h]

/-- A split that is interrupted before it starts changes nothing. -/
theorem files_splitFile_of_interrupt (h : Session.nextReading w = .interrupt) :
    ((splitFile config path removeInput).result w).2.files = w.files := by
  rw [result_splitFile_of_interrupt h]
  exact Session.files_afterReading w

/-- Once a split has started, the clock has no part in the files. -/
theorem files_splitFile_of_start {start : Binary64}
    (h : Session.nextReading w = .seconds start) :
    ((splitFile config path removeInput).result w).2.files
      = ((splitUntimed config path removeInput).result (Session.afterReading w)).2.files := by
  have hstart := Session.result_readClock_of_seconds h FileSplitFault.interrupted
  rw [splitFile_eq_timed, Session.result_bind_of_ok hstart, Session.result_bind]
  rcases (splitUntimed config path removeInput).result (Session.afterReading w) with ⟨e | s, v⟩
  · rfl
  · exact (result_reportTime_bind_pure start
      (fun seconds => (⟨s, OutputPaths.ofInput path, seconds⟩ : FileSplitResult)) rfl).1

/-- A split of an input that cannot be opened fails for the reason why it cannot. -/
theorem result_splitFile_of_unread {start : Binary64} {e : FileFault}
    (hclock : Session.nextReading w = .seconds start) (hread : w.files.read path = .error e) :
    (splitFile config path removeInput).result w
      = (.error (.file e), worldOfLines config path w) := by
  have hstart := Session.result_readClock_of_seconds hclock FileSplitFault.interrupted
  have hinput : (Session.readFile FileSplitFault.file path).result (worldOfLines config path w)
      = (.error (.file e), worldOfLines config path w) := by
    rw [Session.result_readFile, files_worldOfLines, hread]
    rfl
  unfold splitFile
  rw [Session.result_bind_of_ok hstart]
  dsimp only
  rw [Session.result_bind_of_ok (result_sayOpening _ _ _), Session.result_bind, hinput]

/-- **A split of an input that cannot be opened changes nothing.** -/
theorem files_splitFile_of_unread {e : FileFault} (hread : w.files.read path = .error e) :
    ((splitFile config path removeInput).result w).2.files = w.files := by
  cases hclock : Session.nextReading w with
  | interrupt => exact files_splitFile_of_interrupt hclock
  | seconds start =>
    rw [result_splitFile_of_unread hclock hread]
    exact files_worldOfLines config path w

/-- After work that writes files, the input is removed or not. -/
theorem files_of_writes {α : Type} {work : Session FileSplitFault α}
    {files : List (Text × List UInt8)} {x : Except FileSplitFault α}
    (hwork : Session.Writes work files x) (path : Text) (removeInput : Bool) (v : World) :
    ((work >>= fun a => discardInput path removeInput >>= fun _ => pure a).result v).2.files
        = v.files.writeSome files
      ∨ (v.files.writeSome files).remove path
        = .ok ((work >>= fun a => discardInput path removeInput >>= fun _ => pure a).result
          v).2.files := by
  obtain ⟨v', hv', hfiles⟩ := hwork v
  rw [Session.result_bind, hv', ← hfiles]
  generalize (match v.files.writeAll files with
    | .ok _ => x
    | .error e => .error (.file e)) = outcome
  cases outcome with
  | error e => exact .inl rfl
  | ok a =>
    dsimp only
    rw [Session.result_bind]
    rcases result_discardInput_cases path removeInput v' with
      ⟨y, v'', hdiscard, hsame, -⟩ | ⟨v'', -, hdiscard, hremove⟩
    · left
      rw [hdiscard]
      cases y <;> exact hsame
    · right
      rw [hdiscard]
      exact hremove

/-- **The files after a split**, whatever its outcome: those that it writes have been written as far
as it goes, and then the input has been removed or not. -/
theorem files_splitFile {start : Binary64} (hclock : Session.nextReading w = .seconds start)
    (hread : w.files.read path = .ok content) :
    ((splitFile config path removeInput).result w).2.files
        = w.files.writeSome (writesOf config path content)
      ∨ (w.files.writeSome (writesOf config path content)).remove path
        = .ok ((splitFile config path removeInput).result w).2.files := by
  have hfiles := files_worldOfLines config path w
  have hinput : (Session.readFile FileSplitFault.file path).result (worldOfLines config path w)
      = (.ok content, worldOfLines config path w) := by
    rw [Session.readFile_eq_ok_iff, hfiles]
    exact ⟨hread, rfl⟩
  rw [files_splitFile_of_start hclock, splitUntimed_eq,
    Session.result_bind_of_ok (result_sayOpening _ _ _), Session.result_bind_of_ok hinput, ← hfiles]
  exact files_of_writes (writes_splitAndSummarize config path content) path removeInput _

/-- A split makes and removes no directory. -/
theorem sameDirectories_splitFile (config : SplitConfig) (path : Text) (removeInput : Bool)
    (w : World) :
    w.files.SameDirectories ((splitFile config path removeInput).result w).2.files := by
  cases hclock : Session.nextReading w with
  | interrupt =>
    rw [files_splitFile_of_interrupt hclock]
    exact .refl _
  | seconds start =>
    cases hread : w.files.read path with
    | error e =>
      rw [files_splitFile_of_unread hread]
      exact .refl _
    | ok content =>
      obtain ⟨hsame, -⟩ := FileTree.node?_writeAll
        (FileTree.writeAll_takeWhile w.files (writesOf config path content))
      have hfiles : ((splitFile config path removeInput).result w).2.files
            = w.files.writeSome (writesOf config path content)
          ∨ (w.files.writeSome (writesOf config path content)).remove path
            = .ok ((splitFile config path removeInput).result w).2.files :=
        files_splitFile hclock hread
      rcases hfiles with hfiles | hremove
      · rw [hfiles]
        exact hsame
      · obtain ⟨p, -, -, hsame'⟩ := FileTree.node?_remove hremove
        exact hsame.trans hsame'

/-! ## Two splits -/

/-- The split of an input of which these bytes have been read. -/
def splitRead (config : SplitConfig) (path : Text) (content : List UInt8) (removeInput : Bool) :
    Session FileSplitFault FileSplitResult := do
  let start ← Session.readClock .interrupted
  Session.sayAll (openingRecords config path)
  let result ← splitAndSummarize config (OutputPaths.ofInput path) content
  discardInput path removeInput
  let seconds ← reportTime start
  return ⟨result, OutputPaths.ofInput path, seconds⟩

/-- The split of a file that can be read is the split of its bytes. -/
theorem result_splitFile_of_read (hread : w.files.read path = .ok content) :
    (splitFile config path removeInput).result w
      = (splitRead config path content removeInput).result w := by
  unfold splitFile splitRead splitAndSummarize
  rw [Session.result_bind, Session.result_bind]
  have hclock := Session.files_readClock FileSplitFault.interrupted w
  rcases hstart : (Session.readClock FileSplitFault.interrupted).result w with ⟨e | start, v⟩
  · rfl
  · have hfiles : v.files = w.files := by rwa [hstart] at hclock
    have hinput : (Session.readFile FileSplitFault.file path).result
        { v with log := v.log ++ openingRecords config path }
          = (.ok content, { v with log := v.log ++ openingRecords config path }) := by
      rw [Session.readFile_eq_ok_iff, hfiles]
      exact ⟨hread, rfl⟩
    dsimp only
    rw [Session.result_bind_of_ok (Session.result_sayAll _ _),
      Session.result_bind_of_ok (Session.result_sayAll _ _), Session.result_bind_of_ok hinput]
    simp only [bind_assoc, pure_bind]

/-- **A split whose lines cannot be split** opens its outputs all the same. -/
theorem result_splitFile_of_fault {start : Binary64} {e : SplitFault}
    (hclock : Session.nextReading w = .seconds start) (hread : w.files.read path = .ok content)
    (hresult : (splitContent config content).result = .error e) (removeInput : Bool) :
    ∃ w', (splitFile config path removeInput).result w
        = (.error (match w.files.writeAll (writesOf config path content) with
          | .ok _ => .split e
          | .error f => .file f), w')
      ∧ w'.files = w.files.writeSome (writesOf config path content) := by
  have hstart := Session.result_readClock_of_seconds hclock FileSplitFault.interrupted
  have hwrites := writes_splitAndSummarize config path content
  rw [hresult] at hwrites
  obtain ⟨w', hw', hfiles⟩ := hwrites (worldOfLines config path w)
  rw [files_worldOfLines] at hw' hfiles
  refine ⟨w', ?_, hfiles⟩
  rw [result_splitFile_of_read hread]
  unfold splitRead
  rw [Session.result_bind_of_ok hstart, Session.result_bind_of_ok (result_sayOpening _ _ _),
    Session.result_bind, hw']
  cases w.files.writeAll (writesOf config path content) <;> rfl

/-- **A split comes to the same in two worlds**, and keeps a relation of them that what is said and
what is written to its outputs keeps. -/
theorem carries_splitAndSummarize {R : World → World → Prop}
    (hsay : ∀ records, Session.Carries R (Session.sayAll records : Session FileSplitFault Unit))
    (hannounce : ∀ progress,
      Session.Carries R (Session.announce progress : Session FileSplitFault Unit))
    (hsamples : ∀ phase bytes,
      Session.Carries R (Session.writeFile FileSplitFault.file (paths.samples.get phase) bytes))
    (hsummaries : ∀ phase bytes,
      Session.Carries R (Session.writeFile FileSplitFault.file (paths.summaries.get phase) bytes)) :
    Session.Carries R (splitAndSummarize config paths content) := by
  have hsummary : ∀ (s : Summary) phase,
      Session.Carries R (writeSummary s (paths.summaries.get phase)) := by
    intro s phase
    refine (Session.Carries.ofExcept _ _).bind fun text => ?_
    exact (hsummaries phase _).bind fun _ => hsay _
  unfold splitAndSummarize splitInto
  refine Session.Carries.bind ?sheets fun r => Session.Carries.bind ?summaries fun _ =>
    Session.Carries.pure r
  case sheets =>
    refine (hsamples .warmup _).bind fun _ => (hsamples .measurement _).bind fun _ => ?_
    refine (hsay _).bind fun _ => (hannounce _).bind fun _ => ?_
    exact (hsamples .warmup _).bind fun _ => (hsamples .measurement _).bind fun _ =>
      Session.Carries.ofExcept _ _
  case summaries =>
    cases r.summaries with
    | none => exact Session.Carries.pure ()
    | some summaries =>
      exact (hsummary summaries.warmup .warmup).bind fun _ =>
        hsummary summaries.measurement .measurement

end

end PhaseSplit
