import Mathlib.Tactic
import PhaseSplit.Proofs.Split.Frame

/-!
# Splitting a file again

A split leaves its input and the directories as they were, so a second split reads the same bytes
and comes to the same outputs in the same places: it writes the same files, is refused where the
first was refused, and ends as the first ended.

* `Alongside`: two worlds with the directories of one tree, each with a clock of its own;
* `carries_alongside`: what is written to an output is written in both, or refused in both;
* `files_splitRead`: the files after a split that leaves its input;
* `SameEnding`, `splitFile_again`: the second split changes no file and ends in the same way.
-/

namespace PhaseSplit

/-- How two splits end in the same way: with one fault, or with results that differ in the time
alone. -/
inductive SameEnding :
    Except FileSplitFault FileSplitResult → Except FileSplitFault FileSplitResult → Prop
  | fault (e : FileSplitFault) : SameEnding (.error e) (.error e)
  | result (s : SplitResult) (paths : OutputPaths) (seconds seconds' : Binary64) :
    SameEnding (.ok ⟨s, paths, seconds⟩) (.ok ⟨s, paths, seconds'⟩)

/-! ## Two worlds with the same directories -/

/-- Two worlds with the directories of one tree and with the readings that their clocks will
give. -/
structure Alongside (t : FileTree) (clock clock' : List ClockReading) (v w : World) : Prop where
  directories : t.SameDirectories v.files
  directories' : t.SameDirectories w.files
  clock_eq : v.clock = clock
  clock_eq' : w.clock = clock'

section

variable {config : SplitConfig} {path name : Text} {content : List UInt8} {t : FileTree} {p : Place}
  {clock clock' : List ClockReading}

/-- What is written to a neighbour of a path is written in both worlds, or it is refused in both. -/
theorem carries_alongside (hp : t.resolve path = .ok p) (hname : FileTree.IsName name)
    (bytes : List UInt8) :
    Session.Carries (Alongside t clock clock') (Session.writeFile FileSplitFault.file
      (Path.join (Path.directory path) name) bytes) := by
  refine Session.Carries.changeFiles ?_
  intro v w hvw
  have hresolve := (hvw.directories'.resolve_neighbour_eq hp hname).trans
    (hvw.directories.resolve_neighbour_eq hp hname).symm
  have hsame := hvw.directories.symm.trans hvw.directories'
  rcases FileTree.write_cases_of_alike hresolve hsame bytes with
    ⟨q, hq, hnode, hwrite, hwrite'⟩ | hrefused
  · left
    have hnode' : w.files.node? q ≠ some .directory := fun h => hnode ((hsame.node q).1 h)
    refine ⟨_, _, hwrite, hwrite', ?_, ?_, hvw.clock_eq, hvw.clock_eq'⟩
    · exact hvw.directories.trans (FileTree.sameDirectories_put hnode bytes)
    · exact hvw.directories'.trans (FileTree.sameDirectories_put hnode' bytes)
  · exact .inr hrefused

/-- The lines are split in both worlds with the same result, or with the same fault. -/
theorem carries_splitAndSummarize_alongside (config : SplitConfig) (content : List UInt8)
    (hp : t.resolve path = .ok p) :
    Session.Carries (Alongside t clock clock')
      (splitAndSummarize config (OutputPaths.ofInput path) content) := by
  apply carries_splitAndSummarize
  · intro records
    refine Session.Carries.sayAll ?_
    intro v w hvw
    exact ⟨hvw.directories, hvw.directories', hvw.clock_eq, hvw.clock_eq'⟩
  · intro progress
    refine Session.Carries.announce ?_
    intro v w hvw
    exact ⟨hvw.directories, hvw.directories', hvw.clock_eq, hvw.clock_eq'⟩
  · intro phase bytes
    rw [OutputPaths.samples_get]
    exact carries_alongside hp (OutputPaths.isName_sampleName path phase) bytes
  · intro phase bytes
    rw [OutputPaths.summaries_get]
    exact carries_alongside hp (OutputPaths.isName_summaryName path phase) bytes

/-! ## Splits that leave their input -/

variable {w w' : World} {start : Binary64}

/-- The time told after the lines have been split. -/
def splitAndTell (config : SplitConfig) (path : Text) (content : List UInt8) (start : Binary64) :
    Session FileSplitFault FileSplitResult := do
  let result ← splitAndSummarize config (OutputPaths.ofInput path) content
  let seconds ← reportTime start
  return ⟨result, OutputPaths.ofInput path, seconds⟩

theorem result_splitRead (hclock : Session.nextReading w = .seconds start) :
    (splitRead config path content false).result w
      = (splitAndTell config path content start).result (worldOfLines config path w) := by
  have hstart := Session.result_readClock_of_seconds hclock FileSplitFault.interrupted
  unfold splitRead
  rw [Session.result_bind_of_ok hstart, Session.result_bind_of_ok (Session.result_sayAll _ _)]
  rfl

/-- **The files after a split that leaves its input**: what it writes has been written as far as it
goes. -/
theorem files_splitRead (hclock : Session.nextReading w = .seconds start) :
    ((splitRead config path content false).result w).2.files
      = w.files.writeSome (writesOf config path content) := by
  have hwritten : ((splitAndSummarize config (OutputPaths.ofInput path) content).result
      (worldOfLines config path w)).2.files = w.files.writeSome (writesOf config path content) := by
    obtain ⟨v, hv, hfiles⟩ :=
      writes_splitAndSummarize config path content (worldOfLines config path w)
    rw [hv]
    rwa [files_worldOfLines] at hfiles
  rw [result_splitRead hclock, splitAndTell, Session.result_bind, ← hwritten]
  rcases (splitAndSummarize config (OutputPaths.ofInput path) content).result
    (worldOfLines config path w) with ⟨e | s, v⟩
  · rfl
  · exact (result_reportTime_bind_pure start
      (fun seconds => (⟨s, OutputPaths.ofInput path, seconds⟩ : FileSplitResult)) rfl).1

/-- A split whose lines have a result tells it with the time, if its clock can tell the time. -/
theorem exists_result_splitAndTell {s : SplitResult} {v v' : World}
    (h : (splitAndSummarize config (OutputPaths.ofInput path) content).result v = (.ok s, v'))
    (hclock : v'.clock = (Session.afterReading w).clock)
    (hstart : Session.nextReading w = .seconds start) (htime : Session.TellsTime w) :
    ∃ seconds, ((splitAndTell config path content start).result v).1
      = .ok ⟨s, OutputPaths.ofInput path, seconds⟩ := by
  obtain ⟨start', stop, n, hstart', hstop, hwhole⟩ := htime
  obtain rfl : start = start' := by
    rw [hstart] at hstart'
    exact ClockReading.seconds.inj hstart'
  obtain ⟨seconds, v'', htold⟩ :=
    exists_reportTime ((Session.nextReading_congr hclock).trans hstop) hwhole
  refine ⟨seconds, ?_⟩
  rw [splitAndTell, Session.result_bind_of_ok h, Session.result_bind_of_ok htold]
  rfl

/-! ## The second split -/

/-- Two splits of the same bytes end in the same way where the directories are the same. -/
theorem sameEnding_splitRead (config : SplitConfig) (content : List UInt8) {again : World}
    (hp : w.files.resolve path = .ok p) (hsame : w.files.SameDirectories again.files)
    (htime : Session.TellsTime w) (htime' : Session.TellsTime again) :
    SameEnding ((splitRead config path content false).result w).1
      ((splitRead config path content false).result again).1 := by
  obtain ⟨start, hstart⟩ : ∃ start, Session.nextReading w = .seconds start :=
    htime.imp fun _ h => h.choose_spec.choose_spec.1
  obtain ⟨start', hstart'⟩ : ∃ start', Session.nextReading again = .seconds start' :=
    htime'.imp fun _ h => h.choose_spec.choose_spec.1
  have hbeside : Alongside w.files (Session.afterReading w).clock (Session.afterReading again).clock
      (worldOfLines config path w) (worldOfLines config path again) := by
    refine ⟨?_, ?_, rfl, rfl⟩
    · rw [files_worldOfLines]
      exact .refl _
    · rw [files_worldOfLines]
      exact hsame
  obtain ⟨hresult, hafter⟩ :=
    carries_splitAndSummarize_alongside config content hp _ _ hbeside
  rw [result_splitRead hstart, result_splitRead hstart']
  rcases hfirst : (splitAndSummarize config (OutputPaths.ofInput path) content).result
    (worldOfLines config path w) with ⟨e | s, v⟩
  · rcases hsecond : (splitAndSummarize config (OutputPaths.ofInput path) content).result
      (worldOfLines config path again) with ⟨e' | s', v'⟩
    · rw [hfirst, hsecond] at hresult
      obtain rfl := Except.error.inj hresult
      rw [splitAndTell, splitAndTell, Session.result_bind, Session.result_bind, hfirst, hsecond]
      exact .fault e'
    · rw [hfirst, hsecond] at hresult
      cases hresult
  · rcases hsecond : (splitAndSummarize config (OutputPaths.ofInput path) content).result
      (worldOfLines config path again) with ⟨e' | s', v'⟩
    · rw [hfirst, hsecond] at hresult
      cases hresult
    · rw [hfirst, hsecond] at hresult hafter
      obtain rfl := Except.ok.inj hresult
      obtain ⟨seconds, hseconds⟩ :=
        exists_result_splitAndTell hfirst hafter.clock_eq hstart htime
      obtain ⟨seconds', hseconds'⟩ :=
        exists_result_splitAndTell hsecond hafter.clock_eq' hstart' htime'
      rw [hseconds, hseconds']
      exact .result _ _ seconds seconds'

end

/-- A clock that does not interrupt gives a time. -/
theorem Session.exists_seconds {w : World} (h : nextReading w ≠ .interrupt) :
    ∃ start, nextReading w = .seconds start := by
  cases hnext : nextReading w with
  | seconds start => exact ⟨start, rfl⟩
  | interrupt => exact absurd hnext h

/-- **Splitting a file again changes nothing.**  When a split that leaves its input has come to an
end, whatever it was, a second split with the same arguments leaves every file as it is.  If both
clocks tell the time, the second split ends as the first did: for the same reason, or with a result
that differs in the time alone. -/
theorem splitFile_again {config : SplitConfig} {path : Text} {world world' again : World}
    {outcome : Except FileSplitFault FileSplitResult}
    (hstart : Session.nextReading world ≠ .interrupt)
    (hagain : Session.nextReading again ≠ .interrupt)
    (h : (splitFile config path false).result world = (outcome, world'))
    (hfiles : again.files = world'.files) :
    ∃ outcome' world'', (splitFile config path false).result again = (outcome', world'')
      ∧ world''.files.home = world'.files.home
      ∧ (∀ p, world''.files.node? p = world'.files.node? p)
      ∧ (Session.TellsTime world → Session.TellsTime again → SameEnding outcome outcome') := by
  obtain ⟨start, hstart⟩ := Session.exists_seconds hstart
  obtain ⟨start', hagain⟩ := Session.exists_seconds hagain
  rcases hrun : (splitFile config path false).result again with ⟨outcome', world''⟩
  refine ⟨outcome', world'', rfl, ?_⟩
  cases hread : world.files.read path with
  | error e =>
    -- both splits end before they open an output
    rw [result_splitFile_of_unread hstart hread] at h
    cases h
    have hread' : again.files.read path = .error e := by rw [hfiles, files_worldOfLines, hread]
    rw [result_splitFile_of_unread hagain hread'] at hrun
    cases hrun
    rw [files_worldOfLines, hfiles]
    exact ⟨rfl, fun _ => rfl, fun _ _ => .fault _⟩
  | ok content =>
    obtain ⟨p, hp, -⟩ := FileTree.read_eq_ok_iff.1 hread
    rw [result_splitFile_of_read hread] at h
    have hworld' : world.files.writeSome (writesOf config path content) = world'.files := by
      rw [← files_splitRead hstart, h]
    have hread' : again.files.read path = .ok content := by
      rw [hfiles, ← hworld']
      exact read_input_writeSome config hread
    rw [result_splitFile_of_read hread'] at hrun
    have hworld'' : world'.files.writeSome (writesOf config path content) = world''.files := by
      rw [← hfiles, ← files_splitRead hagain, hrun]
    obtain ⟨hhome, hnode⟩ := FileTree.writeSome_again hworld'
    rw [hworld''] at hhome hnode
    refine ⟨hhome, hnode, ?_⟩
    intro htime htime'
    have hsame : world.files.SameDirectories again.files := by
      rw [hfiles, ← hworld']
      exact (FileTree.node?_writeAll (FileTree.writeAll_takeWhile _ _)).1
    have hending := sameEnding_splitRead config content hp hsame htime htime'
    rwa [h, hrun] at hending

/-- The first split is refused at a directory in one world, and gives a result in another. -/
theorem splitFile_again_blockedWorld :
    (∃ e world' world'',
        (splitFile summaryConfig (Text.lit "run.jtl") false).result blockedWorld = (.error e, world')
        ∧ (splitFile summaryConfig (Text.lit "run.jtl") false).result (.initial world'.files [])
          = (.error e, world'')
        ∧ e = .file ⟨.isDirectory, Text.lit "run-measurement.jtl"⟩
        ∧ ∀ p, world''.files.node? p = world'.files.node? p)
      ∧ ∃ r r' world' world'',
        (splitFile summaryConfig (Text.lit "run.jtl") false).result runWorld = (.ok r, world')
        ∧ (splitFile summaryConfig (Text.lit "run.jtl") false).result (.initial world'.files [])
          = (.ok r', world'')
        ∧ r'.split = r.split ∧ r.split.rows = ⟨1, 1⟩
        ∧ ∀ p, world''.files.node? p = world'.files.node? p := by
  have hclock : ∀ files, Session.TellsTime (.initial files []) :=
    fun files => Session.tellsTime_of_clock_eq_nil rfl
  have hstart : ∀ files, Session.nextReading (.initial files []) ≠ .interrupt := by
    intro files
    simp [Session.nextReading, World.initial]
  constructor
  · have hrun : ((splitFile summaryConfig (Text.lit "run.jtl") false).result blockedWorld).1.map
        (fun _ => ()) = .error (.file ⟨.isDirectory, Text.lit "run-measurement.jtl"⟩) := by
      decide +kernel
    rcases hfirst : (splitFile summaryConfig (Text.lit "run.jtl") false).result blockedWorld
      with ⟨e | r, world'⟩
    · rw [hfirst] at hrun
      obtain ⟨outcome', world'', hsecond, -, hsame, hending⟩ :=
        splitFile_again (hstart _) (hstart world'.files) hfirst rfl
      cases hending (hclock _) (hclock _)
      exact ⟨e, world', world'', rfl, hsecond, Except.error.inj hrun, hsame⟩
    · rw [hfirst] at hrun
      cases hrun
  · have hrun : ((splitFile summaryConfig (Text.lit "run.jtl") false).result runWorld).1.map
        (·.split.rows) = .ok ⟨1, 1⟩ := by decide +kernel
    rcases hfirst : (splitFile summaryConfig (Text.lit "run.jtl") false).result runWorld
      with ⟨e | r, world'⟩
    · rw [hfirst] at hrun
      cases hrun
    · rw [hfirst] at hrun
      obtain ⟨outcome', world'', hsecond, -, hsame, hending⟩ :=
        splitFile_again (hstart _) (hstart world'.files) hfirst rfl
      cases hending (hclock _) (hclock _)
      exact ⟨_, _, world', world'', rfl, hsecond, rfl, Except.ok.inj hrun, hsame⟩

end PhaseSplit
