import Mathlib.Tactic
import PhaseSplit.Proofs.Files.Faults
import PhaseSplit.Proofs.Split.Frame
import PhaseSplit.Proofs.Split.Skipping

/-!
# Why a split fails

The split of a file fails for the clock, for a file that cannot be written, or for its lines and the
numbers of its configuration.  A file is never refused for its path, since the input has been opened
and the outputs are named after it.

* `SplitFault.Cause`, `splitLines_cause`: why lines cannot be split;
* `OutputPaths.unusable_of_mem_all`: an output is no path only if the input is none;
* `FileSplitFault.Cause`, `splitFile_cause`: why the split of a file fails.
-/

namespace PhaseSplit

/-! ## Lines -/

/-- What makes the split of some lines end with a fault. -/
inductive SplitFault.Cause (config : SplitConfig) (lines : List Text) : SplitFault → Prop
  | noUnit (e : UnsupportedUnit) (h : TimeUnit.ofText? config.timeUnit = none) :
    Cause config lines (.router (.unsupportedUnit e))
  | warmupTooLong (unit : TimeUnit) (hunit : TimeUnit.ofText? config.timeUnit = some unit)
      (h : 10 ^ maxDigits ≤ (unit.toMillis config.warmupDuration).natAbs) :
    Cause config lines (.router .warmupTooLongToWrite)
  | precisionTooLong (h : 10 ^ maxDigits ≤ config.precision.natAbs) :
    Cause config lines (.precision .tooLongToWrite)
  | malformed (e : FieldFault) (hskip : config.skipInvalidFields = false)
      (h : ∃ line ∈ lines.tail, Malformed config.columnLimit line.stripTerminator) :
    Cause config lines (.line (.invalidField e))
  | tooManyDigits (count : Nat)
      (h : ∃ line ∈ lines.tail, BreaksOff config.columnLimit line.stripTerminator) :
    Cause config lines (.line (.tooManyDigits count))
  | tooManyLines (e : SummaryFault) (h : 2 ^ 63 ≤ lines.length) : Cause config lines (.summary e)

section

variable {config : SplitConfig} {lines : List Text} {e : SplitFault}

/-- A line that ends a split has a number with too many digits, or it is malformed. -/
theorem cause_of_readings {e : LineFault}
    (h : (config.readings SplitState.firstRow lines.tail).2 = some e) :
    SplitFault.Cause config lines (.line e) := by
  obtain ⟨before, bad, later, hlines, -, hbad⟩ := SplitConfig.exists_of_readings_error
    (Prod.ext rfl h)
  have hmem : bad ∈ lines.tail := by
    rw [hlines]
    exact List.mem_append_right _ (List.mem_cons_self ..)
  obtain ⟨hread, hskips⟩ := SplitConfig.reading_eq_error_iff.1 hbad
  cases e with
  | invalidField e =>
    obtain ⟨columns, hcolumns, hsample⟩ := readLine_eq_error_iff.1 hread
    obtain ⟨f, ⟨_, -, ⟨⟩⟩ | ⟨hf, -, -⟩, -⟩ := readSample_eq_error_iff.1 hsample
    exact .malformed e hskips ⟨bad, hmem, columns, hcolumns, f, hf⟩
  | tooManyDigits count =>
    exact .tooManyDigits count ⟨bad, hmem, exists_tooManyDigits_iff.1 ⟨count, hread⟩⟩

/-- A split that has come to the end of its lines can still fail at the summaries. -/
theorem SplitState.eq_summary_of_finish {s : SplitState} (h : s.finish.result = .error e) :
    ∃ f, e = .summary f := by
  unfold finish at h
  dsimp only at h
  split at h <;> cases h
  exact ⟨_, rfl⟩

/-- Without a unit of time no line is split, and nothing is said. -/
theorem splitLines_of_noUnit (h : TimeUnit.ofText? config.timeUnit = none) :
    splitLines config lines
      = ⟨.empty, [], [], .error (.router (.unsupportedUnit ⟨config.timeUnit⟩))⟩ := by
  have hmillis : durationMillis config.warmupDuration config.timeUnit
      = .error ⟨config.timeUnit⟩ := by
    unfold durationMillis
    rw [h]
  have hstart : SplitState.start config
      = .error (.router (.unsupportedUnit ⟨config.timeUnit⟩), []) := by
    unfold SplitState.start Router.create
    rw [hmillis]
  unfold splitLines
  rw [hstart]

/-- **Why lines cannot be split.** -/
theorem splitLines_cause (h : (splitLines config lines).result = .error e) :
    e.Cause config lines := by
  cases hunit : TimeUnit.ofText? config.timeUnit with
  | none =>
    rw [splitLines_of_noUnit hunit] at h
    cases h
    exact .noUnit _ hunit
  | some unit =>
    have hmillis : durationMillis config.warmupDuration config.timeUnit
        = .ok (unit.toMillis config.warmupDuration) := by
      unfold durationMillis
      rw [hunit]
    by_cases hwritable : config.Writable (unit.toMillis config.warmupDuration)
    · rw [splitLines_of_writable hmillis hwritable] at h
      cases hfault : (config.readings SplitState.firstRow lines.tail).2 with
      | none =>
        rw [hfault] at h
        have hlength : ¬lines.length < 2 ^ 63 := by
          intro hlength
          obtain ⟨r, hr⟩ := @exists_result config (unit.toMillis config.warmupDuration) lines _
            hlength (Prod.ext rfl hfault)
          exact absurd (h.symm.trans hr) (by simp)
        obtain ⟨e, rfl⟩ := SplitState.eq_summary_of_finish h
        exact .tooManyLines e (Nat.not_lt.1 hlength)
      | some fault =>
        rw [hfault] at h
        cases h
        exact cause_of_readings hfault
    · rcases @splitLines_of_not_writable config _ lines hmillis hwritable with
        ⟨hlong, hr⟩ | ⟨hlong, hr⟩
      · rw [hr] at h
        cases h
        exact .warmupTooLong unit hunit hlong
      · rw [hr] at h
        cases h
        exact .precisionTooLong hlong

end

/-! ## Files -/

/-- **An output is a path if the input is one.** -/
theorem OutputPaths.unusable_of_mem_all {path output : Text} (h : output ∈ (ofInput path).all)
    (hbad : Path.Unusable output) : Path.Unusable path := by
  have hglyphs : ∀ {name : Text}, FileTree.IsName name →
      (∀ g ∈ name, g ∈ Path.fileName path ∨ (g.isHalf = false ∧ g ≠ .char '\x00')) →
      Path.Unusable (Path.join (Path.directory path) name) → Path.Unusable path := by
    intro name hname hadded hbad
    refine hbad.of_glyphs fun g hg => ?_
    rcases Path.mem_of_mem_join_directory hname.no_slash hg with hg | hg
    · exact .inl hg
    · exact (hadded g hg).imp_left Path.mem_of_mem_afterLast
  rcases mem_all_iff.1 h with ⟨phase, rfl⟩ | ⟨phase, rfl⟩
  · rw [samples_get] at hbad
    exact hglyphs (isName_sampleName path phase) (fun _ => mem_or_writable_of_mem_sampleName) hbad
  · rw [summaries_get] at hbad
    exact hglyphs (isName_summaryName path phase) (fun _ => mem_or_writable_of_mem_summaryName) hbad

/-- What makes the split of a file of these bytes end with a fault, in a world where the file can be
read. -/
inductive FileSplitFault.Cause (config : SplitConfig) (content : List UInt8) (world : World) :
    FileSplitFault → Prop
  | interrupted
      (h : Session.nextReading world = .interrupt
        ∨ Session.nextReading (Session.afterReading world) = .interrupt) :
    Cause config content world .interrupted
  | file (e : FileFault) (h : e.telling ≠ none) : Cause config content world (.file e)
  | split (e : SplitFault) (h : e.Cause config (linesOf content)) :
    Cause config content world (.split e)
  | time (e : FileSplitFault)
      (h : ∃ start stop, Session.nextReading world = .seconds start
        ∧ Session.nextReading (Session.afterReading world) = .seconds stop
        ∧ wholeSeconds (stop.sub start) = .error e) :
    Cause config content world e

section

variable {config : SplitConfig} {path : Text} {removeInput : Bool} {content : List UInt8}
  {w w' : World} {e : FileSplitFault}

/-- Of the world outside the file, the clock alone can make a split fail. -/
theorem FileSplitFault.Cause.of_clock {v : World} (h : e.Cause config content v)
    (hclock : v.clock = w.clock) : e.Cause config content w := by
  have hnext := Session.nextReading_congr hclock
  have hlater := Session.nextReading_congr (Session.clock_afterReading_congr hclock)
  cases h with
  | interrupted h => exact .interrupted (by rwa [← hnext, ← hlater])
  | file f h => exact .file f h
  | split f h => exact .split f h
  | time _ h => exact .time e (by rwa [← hnext, ← hlater])

/-- Between the two readings of the clock, a split comes to a result without asking it, or it fails
for its lines or for an output that cannot be written. -/
theorem result_splitUntimed_cases (config : SplitConfig) (removeInput : Bool)
    (hread : w.files.read path = .ok content) :
    (∃ s w', (splitUntimed config path removeInput).result w = (.ok s, w') ∧ w'.clock = w.clock)
      ∨ ∃ e w', (splitUntimed config path removeInput).result w = (.error e, w')
        ∧ ((∃ f, e = .file f ∧ f.telling ≠ none)
          ∨ ∃ f, e = .split f ∧ (splitContent config content).result = .error f) := by
  obtain ⟨p, hp, -⟩ := FileTree.read_eq_ok_iff.1 hread
  set v : World := { w with log := w.log ++ openingRecords config path }
  have hinput : (Session.readFile FileSplitFault.file path).result v = (.ok content, v) :=
    Session.readFile_eq_ok_iff.2 ⟨hread, rfl⟩
  obtain ⟨v', hwork, -⟩ := writes_splitAndSummarize config path content v
  -- work that has failed while writing is the end of the split
  have hfailed : ∀ e, (splitAndSummarize config (OutputPaths.ofInput path) content).result v
        = (.error e, v') →
      (splitUntimed config path removeInput).result w = (.error e, v') := by
    intro e he
    rw [splitUntimed_eq, Session.result_bind_of_ok (Session.result_sayAll _ _),
      Session.result_bind_of_ok hinput, Session.result_bind, he]
  cases hall : w.files.writeAll (writesOf config path content) with
  | error f =>
    have hall' : v.files.writeAll (writesOf config path content) = .error f := hall
    rw [hall'] at hwork
    refine .inr ⟨_, _, hfailed _ hwork, .inl ⟨f, rfl, fun hsilent => ?_⟩⟩
    obtain ⟨file, hfile, hbad⟩ := FileTree.unusable_of_writeAll hall hsilent
    exact FileTree.not_unusable_of_resolve hp
      (OutputPaths.unusable_of_mem_all (mem_all_of_mem_writesOf hfile) hbad)
  | ok t =>
    have hall' : v.files.writeAll (writesOf config path content) = .ok t := hall
    rw [hall'] at hwork
    cases hresult : (splitContent config content).result with
    | error f =>
      rw [hresult] at hwork
      exact .inr ⟨_, _, hfailed _ hwork, .inr ⟨f, rfl, rfl⟩⟩
    | ok s =>
      obtain ⟨files, hfiles⟩ := exists_summaryFiles (OutputPaths.ofInput path) hresult
      rw [writesOf_of_ok hresult hfiles] at hall
      obtain ⟨t', hdiscarded⟩ := exists_discarded removeInput hread hfiles hall
      obtain ⟨w', hsplit, -, hclock⟩ :=
        reaches_splitUntimed hread hresult hfiles hall hdiscarded w rfl
      exact .inl ⟨s, w', hsplit, hclock⟩

/-- **Why the split of a file fails.** -/
theorem splitFile_cause (hread : w.files.read path = .ok content)
    (h : (splitFile config path removeInput).result w = (.error e, w')) :
    e.Cause config content w := by
  rw [splitFile_eq_timed, Session.result_bind_eq_error_iff, Session.result_readClock] at h
  cases hstart : Session.nextReading w with
  | interrupt =>
    rw [hstart] at h
    rcases h with h | ⟨_, _, h, -⟩
    · cases h
      exact .interrupted (.inl hstart)
    · cases h
  | seconds start =>
    rw [hstart] at h
    rcases h with h | ⟨_, _, hclock, h⟩
    · cases h
    cases hclock
    rw [← Session.files_afterReading] at hread
    rcases result_splitUntimed_cases config removeInput hread with
      ⟨s, v, hsplit, hsame⟩ | ⟨e', v, hsplit, hcause⟩
    · rw [Session.result_bind_of_ok hsplit, Session.result_bind_eq_error_iff] at h
      rcases h with h | ⟨_, _, -, h⟩
      · have hnext := Session.nextReading_congr hsame
        rcases reportTime_eq_error h with ⟨rfl, hstop⟩ | ⟨stop, hstop, hwhole⟩
        · exact .interrupted (.inr (hnext.symm.trans hstop))
        · exact .time e ⟨start, stop, hstart, hnext.symm.trans hstop, hwhole⟩
      · cases h
    · rw [Session.result_bind, hsplit] at h
      cases h
      rcases hcause with ⟨f, rfl, htold⟩ | ⟨f, rfl, hresult⟩
      · exact .file f htold
      · exact .split f (splitLines_cause hresult)

end

end PhaseSplit
