import Mathlib.Tactic
import PhaseSplit.Proofs.Files.Writes
import PhaseSplit.Proofs.Report.Faults
import PhaseSplit.Proofs.Report.Rows
import PhaseSplit.Proofs.Split.Rereading

/-!
# The table of the summaries of a split

A report on the two summary files of a split has one row for each phase, named as the outputs are,
with the quantities of the summaries that the split has reported.

* `FileTree.fileName_ne_nil_of_read`: only a path with a name leads to a file;
* `OutputPaths.ofPath?_summaries`: the run and the phase that the path of a summary says;
* `readSummaryObject_fileText`: the text of a well made summary is read back;
* `summariesIn_of_reads`: what a report reads of the summaries of a split;
* `splitFile_reports`: the table.
-/

namespace PhaseSplit

/-! ## Names -/

/-- Only a path with a name leads to a file. -/
theorem FileTree.fileName_ne_nil_of_read {t : FileTree} {path : Text} {content : List UInt8}
    (h : t.read path = .ok content) : Path.fileName path ≠ [] := by
  intro hnil
  obtain ⟨p, hp, hnode⟩ := read_eq_ok_iff.1 h
  obtain ⟨names, above, -, hwalk, -⟩ := exists_walk_above hp
  rw [hnil, walk_cons_eq_ok_iff] at hwalk
  obtain ⟨hdirectory, next, hnext, hstay⟩ := hwalk
  cases hnext
  cases hstay
  rw [hnode] at hdirectory
  cases hdirectory

namespace OutputPaths

theorem stemOf_ne_nil {name : Text} (h : name ≠ []) : (stemOf name).1 ≠ [] := by
  unfold stemOf
  dsimp only
  split
  · exact h
  · next hkept =>
    rw [Bool.or_eq_true, not_or, decide_eq_true_iff] at hkept
    simpa using hkept.2

/-- The run that the outputs for a path are named for. -/
def runName (path : Text) : Text := (stemOf (Path.fileName path)).1

/-- **The path of a summary says** its run and its phase. -/
theorem ofPath?_summaries {path : Text} (h : Path.fileName path ≠ []) (phase : Phase) :
    SummaryName.ofPath? ((ofInput path).summaries.get phase) = some ⟨runName path, phase⟩ := by
  have hname := (isName_summaryName path phase).no_slash
  rw [summaries_get, SummaryName.ofPath?, Path.fileName_join hname,
    SummaryName.ofFileName?_eq_some_iff]
  exact ⟨stemOf_ne_nil h, rfl⟩

end OutputPaths

/-! ## Texts of summaries -/

-- the names of entries are never computed from the summary of no samples
attribute [local irreducible] Summary.entryNames

/-- **An object of numbers is read back** from the bytes of its file. -/
theorem readSummaryObject_write {members : Json.Members} (h : members.IsPlain) (hne : members ≠ [])
    (width room : Nat) :
    readSummaryObject room (Text.encode
        (Text.ofChars (Json.write (some width) (.object members)) ++ Text.lit "\n"))
      = .ok members := by
  have hshape : Text.ofChars (Json.write (some width) (.object members)) ++ Text.lit "\n"
      = Text.ofChars (Json.write (some width) (.object members) ++ ['\n']) := by
    unfold Text.lit Text.ofChars
    rw [List.map_append]
    rfl
  have hread := Json.read_write h hne width room
  have hbytes : ∀ c ∈ Json.write (some width) (.object members) ++ ['\n'], Json.IsOneByte c :=
    fun c hc => Json.isOneByte_of_mem_write h hne hc
  generalize Json.write (some width) (.object members) ++ ['\n'] = cs at *
  have hreturn : Text.carriageReturn ∉ Text.ofChars cs := by
    intro hmem
    obtain ⟨c, hc, heq⟩ := List.mem_map.1 hmem
    cases heq
    exact (hbytes _ hc).2 rfl
  rw [hshape, readSummaryObject, Text.decodeStrict_encode_ofChars fun c hc => (hbytes c hc).1]
  show Except.bind ((Json.read (Text.unifyBreaks (Text.ofChars cs)).shown room).mapError
    ReportFault.json) _ = _
  rw [Text.unifyBreaks_of_not_mem hreturn, Json.shown_ofChars, hread]
  rfl

/-- **The text of a well made summary is read back.** -/
theorem readSummaryObject_fileText {s : Summary} {text : Text} (h : s.WellMade)
    (htext : s.fileText (some summaryIndent) = .ok text) (room : Nat) :
    readSummaryObject room text.encode = .ok s.members := by
  unfold Summary.fileText at htext
  rw [Summary.entries_eq h] at htext
  cases htext
  have hjson : Summary.Entries.toJson (Summary.entryNames.zip s.quantities) = .object s.members :=
    rfl
  rw [hjson]
  exact readSummaryObject_write h.isPlain_members h.members_ne_nil summaryIndent room

/-! ## Reading the summaries -/

section

variable {t : FileTree} {path : Text} {summaries : PerPhase Summary} {host : Host}

/-- The summaries of a split can be read: each is well made, and its file holds its text. -/
structure SummariesReadable (t : FileTree) (path : Text) (summaries : PerPhase Summary) : Prop where
  named : Path.fileName path ≠ []
  wellMade : ∀ phase, (summaries.get phase).WellMade
  read : ∀ phase, ∃ text, (summaries.get phase).fileText (some summaryIndent) = .ok text
    ∧ t.read ((OutputPaths.ofInput path).summaries.get phase) = .ok text.encode

/-- What a report reads of the summary of a phase. -/
def recordOf (path : Text) (summaries : PerPhase Summary) (phase : Phase) : Json.Members :=
  SummaryTable.record ⟨OutputPaths.runName path, phase⟩ (summaries.get phase)

theorem SummariesReadable.summaryIn (h : SummariesReadable t path summaries) (phase : Phase) :
    summaryIn host t ((OutputPaths.ofInput path).summaries.get phase)
      = .ok (some (recordOf path summaries phase)) := by
  obtain ⟨text, htext, hread⟩ := h.read phase
  have hobject := readSummaryObject_fileText (h.wellMade phase) htext host.readingRoom
  unfold PhaseSplit.summaryIn
  rw [OutputPaths.ofPath?_summaries h.named phase]
  dsimp only
  rw [hread]
  refine bind_eq_ok_iff.2 ⟨_, rfl, bind_eq_ok_iff.2 ⟨_, hobject, ?_⟩⟩
  rw [SummaryTable.withName_members (h.wellMade phase)]
  rfl

theorem SummariesReadable.reportFiles (h : SummariesReadable t path summaries)
    (phases : List Phase) :
    reportFiles t (phases.map (OutputPaths.ofInput path).summaries.get)
      = phases.map (OutputPaths.ofInput path).summaries.get := by
  have hfile : ∀ phase, filesFor t ((OutputPaths.ofInput path).summaries.get phase)
      = [(OutputPaths.ofInput path).summaries.get phase] := by
    intro phase
    obtain ⟨text, -, hread⟩ := h.read phase
    have hdirectory : t.isDirectory ((OutputPaths.ofInput path).summaries.get phase) = false := by
      rw [FileTree.isDirectory, FileTree.at?_eq_of_read hread]
      rfl
    rw [filesFor, hdirectory, if_neg Bool.false_ne_true]
  unfold PhaseSplit.reportFiles
  induction phases with
  | nil => rfl
  | cons phase phases ih => rw [List.map_cons, List.flatMap_cons, hfile, ih, List.singleton_append]

theorem SummariesReadable.summariesIn (h : SummariesReadable t path summaries)
    (phases : List Phase) :
    summariesIn host t (phases.map (OutputPaths.ofInput path).summaries.get)
      = .ok (phases.map (recordOf path summaries)) := by
  induction phases with
  | nil => rfl
  | cons phase phases ih =>
    exact bind_eq_ok_iff.2 ⟨_, h.summaryIn phase, bind_eq_ok_iff.2 ⟨_, ih, rfl⟩⟩

/-- **The table of the summaries of a split**, in whichever order they are read. -/
theorem SummariesReadable.tableOf (h : SummariesReadable t path summaries) {phases : List Phase}
    (hphases : phases.Perm Phase.all) :
    tableOf host t (phases.map (OutputPaths.ofInput path).summaries.get)
      = .ok ⟨Phase.all.map fun phase =>
        SummaryTable.rowFor (⟨OutputPaths.runName path, phase⟩, summaries.get phase)⟩ := by
  obtain ⟨records, hrecords⟩ : ∃ records : List (SummaryName × Summary), records
    = phases.map fun phase => (⟨OutputPaths.runName path, phase⟩, summaries.get phase) := ⟨_, rfl⟩
  have hread : phases.map (recordOf path summaries)
      = records.map fun r => SummaryTable.record r.1 r.2 := by
    rw [hrecords, List.map_map]
    rfl
  have hmade : ∀ r ∈ records, r.2.WellMade := by
    intro r hr
    rw [hrecords] at hr
    obtain ⟨phase, -, rfl⟩ := List.mem_map.1 hr
    exact h.wellMade phase
  have hne : records.map (fun r => SummaryTable.record r.1 r.2) ≠ [] := by
    rw [← hread, ne_eq, List.map_eq_nil_iff]
    rintro rfl
    exact absurd hphases.length_eq (by decide)
  have hsorted := SummaryTable.mergeSort_phases (OutputPaths.runName path)
    (fun phase => SummaryTable.rowFor (⟨OutputPaths.runName path, phase⟩, summaries.get phase))
    (fun _ => rfl) hphases
  unfold PhaseSplit.tableOf
  refine bind_eq_ok_iff.2 ⟨_, (congrArg _ (h.reportFiles phases)).trans (h.summariesIn phases), ?_⟩
  rw [hread, tableFrom, if_neg hne, SummaryTable.ofSummaries_records hmade, hrecords, List.map_map]
  refine congrArg Except.ok ?_
  refine congrArg SummaryTable.mk ?_
  refine (congrArg (List.map Prod.snd) hsorted).trans ?_
  rw [List.map_map]
  rfl

end

/-! ## Reports on a split -/

/-- The summaries of a split with a result can be read. -/
theorem summariesReadable_of_splitFile {config : SplitConfig} {path : Text} {removeInput : Bool}
    {world world' : World} {r : FileSplitResult} (hsummarize : config.summarize = true)
    (h : (splitFile config path removeInput).result world = (.ok r, world')) :
    r.paths = OutputPaths.ofInput path ∧ ∃ summaries, r.split.summaries = some summaries
      ∧ SummariesReadable world'.files path summaries
      ∧ ∀ phase, (summaries.get phase).count = .whole (r.split.rows.get phase) := by
  obtain ⟨content, hread, hresult, hpaths, s, hs, -, hfiles⟩ := outputsComplete_of_splitFile h
  rw [hresult] at hs
  cases hs
  obtain ⟨summaries, hsome, hfiles⟩ := hfiles hsummarize
  obtain ⟨millis, readings, routed, books⟩ := exists_splitBooks hresult
  obtain ⟨summaries', hsome', hsummary⟩ := books.summaries_eq hsummarize
  rw [hsome] at hsome'
  cases hsome'
  refine ⟨hpaths, summaries, hsome, ⟨FileTree.fileName_ne_nil_of_read hread, ?_, hfiles⟩, ?_⟩
  · intro phase
    refine PhaseStats.wellMade_addAll config.precision_nonneg ?_ (hsummary phase)
    intro x hx
    obtain ⟨-, -, -, hline⟩ := books.exists_of_mem_ofPhase hx
    exact inRange_of_readLine hline
  · intro phase
    rw [PhaseStats.count_of_summary_addAll (hsummary phase), books.rows_eq]

/-- **A report on a split agrees with it.**  After a split with a result and summaries, the table of
the two summary files, in whichever order they are read, has one row for each phase.  Both rows have
the name that the outputs have, the warmup comes first, and each row holds the entries of the
summary of its phase, the first of which is the number of samples of this phase. -/
theorem splitFile_reports {config : SplitConfig} {path : Text} {removeInput : Bool}
    {world world' : World} {r : FileSplitResult} (hsummarize : config.summarize = true)
    (h : (splitFile config path removeInput).result world = (.ok r, world')) :
    r.paths = OutputPaths.ofInput path
      ∧ ∃ summaries, r.split.summaries = some summaries
        ∧ ∃ entries : PerPhase Summary.Entries,
          (∀ phase, (summaries.get phase).entries = .ok (entries.get phase)
            ∧ (entries.get phase).map (·.1) = Summary.entryNames
            ∧ (entries.get phase).head?
              = some (Text.lit "count", .whole (r.split.rows.get phase)))
          ∧ ∀ phases : List Phase, phases.Perm Phase.all → ∃ table log,
            (loadTable (phases.map r.paths.summaries.get)).result world'
              = (.ok table, { world' with log := world'.log ++ log })
            ∧ table.rows = Phase.all.map fun phase =>
              { name := .value (.str (OutputPaths.stemOf (Path.fileName path)).1)
                phase := some phase
                values := (entries.get phase).map fun entry => .value entry.2.toJson } := by
  obtain ⟨hpaths, summaries, hsome, hreadable, hcount⟩ :=
    summariesReadable_of_splitFile hsummarize h
  have hlength : ∀ phase, (summaries.get phase).quantities.length = Summary.entryNames.length :=
    fun phase => Summary.length_quantities (hreadable.wellMade phase)
  refine ⟨hpaths, summaries, hsome,
    summaries.map fun s => Summary.entryNames.zip s.quantities, ?entries, ?table⟩
  case entries =>
    intro phase
    have hentries := Summary.entries_eq (hreadable.wellMade phase)
    have hparts := Summary.entries_eq_append (hreadable.wellMade phase).keys
    rw [PerPhase.get_map]
    refine ⟨hentries, List.map_fst_zip (hlength phase).ge, ?_⟩
    rw [hentries] at hparts
    rw [Except.ok.inj hparts, ← hcount phase]
    rfl
  case table =>
    intro phases hphases
    obtain ⟨log, hload⟩ := computes_loadTable (phases.map r.paths.summaries.get) world'
    dsimp only at hload
    rw [hpaths, hreadable.tableOf hphases] at hload
    rw [hpaths]
    refine ⟨_, log, hload, ?_⟩
    refine List.map_congr_left ?_
    intro phase _
    have hvalues : (summaries.get phase).quantities
        = (Summary.entryNames.zip (summaries.get phase).quantities).map (·.2) :=
      (List.map_snd_zip (hlength phase).le).symm
    rw [PerPhase.get_map]
    unfold SummaryTable.rowFor
    dsimp only
    conv_lhs => rw [hvalues, List.map_map]
    rfl

theorem splitFile_reports_runWorld :
    ∃ r world', (splitFile summaryConfig (Text.lit "run.jtl") true).result runWorld
        = (.ok r, world')
      ∧ r.split.rows = ⟨1, 1⟩
      ∧ ∃ summaries, r.split.summaries = some summaries
        ∧ ∃ entries : PerPhase Summary.Entries,
          (∀ phase, (summaries.get phase).entries = .ok (entries.get phase)
            ∧ (entries.get phase).map (·.1) = Summary.entryNames
            ∧ (entries.get phase).head?
              = some (Text.lit "count", .whole (r.split.rows.get phase)))
          ∧ ∀ phases : List Phase, phases.Perm Phase.all → ∃ table log,
            (loadTable (phases.map r.paths.summaries.get)).result world'
              = (.ok table, { world' with log := world'.log ++ log })
            ∧ table.rows = Phase.all.map fun phase =>
              { name := .value (.str (Text.lit "run"))
                phase := some phase
                values := (entries.get phase).map fun entry => .value entry.2.toJson } := by
  have hrun : ((splitFile summaryConfig (Text.lit "run.jtl") true).result runWorld).1.map
      (·.split.rows) = .ok ⟨1, 1⟩ := by decide +kernel
  have hname : (OutputPaths.stemOf (Path.fileName (Text.lit "run.jtl"))).1 = Text.lit "run" := by
    decide +kernel
  rcases hresult : (splitFile summaryConfig (Text.lit "run.jtl") true).result runWorld
    with ⟨e | r, world'⟩
  · rw [hresult] at hrun
    cases hrun
  · rw [hresult] at hrun
    obtain ⟨-, hreport⟩ := splitFile_reports rfl hresult
    rw [hname] at hreport
    exact ⟨r, world', rfl, Except.ok.inj hrun, hreport⟩

end PhaseSplit
