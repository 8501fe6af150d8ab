import Mathlib.Tactic
import PhaseSplit.Proofs.Files.Faults
import PhaseSplit.Proofs.Session

/-!
# Why a report fails

Loading the summaries of a report changes nothing but the log, so what it comes to is a function of
the machine and the files.  A report fails for a summary that cannot be read, for summaries that
make no table, or for a table that cannot be written.

* `tableOf`, `computes_loadTable`: the table of the summaries in some files;
* `SummaryTable.exists_of_ofSummaries_eq_error`: why summaries make no table;
* `ReportFault.Cause`, `report_cause`: why a report fails.
-/

namespace PhaseSplit

/-! ## Loading -/

/-- The entries of the summary at a path in some files, if the path is named as a summary. -/
def summaryIn (host : Host) (t : FileTree) (path : Text) :
    Except ReportFault (Option Json.Members) :=
  match SummaryName.ofPath? path with
  | none => .ok none
  | some n => do
    let content ← (t.read path).mapError .file
    let members ← readSummaryObject host.readingRoom content
    return some (withName n members)

/-- The entries of the summaries at some paths in some files. -/
def summariesIn (host : Host) (t : FileTree) : List Text → Except ReportFault (List Json.Members)
  | [] => .ok []
  | path :: paths => do
    let summary ← summaryIn host t path
    let summaries ← summariesIn host t paths
    return summary.toList ++ summaries

/-- The table of the summaries that a report has read. -/
def tableFrom (summaries : List Json.Members) : Except ReportFault SummaryTable :=
  if summaries = [] then .error .noSummaries
  else (SummaryTable.ofSummaries summaries).mapError .table

/-- The table of the summaries that some paths stand for in some files. -/
def tableOf (host : Host) (t : FileTree) (paths : List Text) : Except ReportFault SummaryTable :=
  summariesIn host t (reportFiles t paths) >>= tableFrom

section

variable {host : Host} {t : FileTree} {path : Text} {paths : List Text} {w w' : World}
  {e : ReportFault}

theorem computes_loadSummary (path : Text) :
    Session.Computes (loadSummary path) fun host t => summaryIn host t path := by
  unfold loadSummary summaryIn
  cases SummaryName.ofPath? path with
  | none => exact (Session.Computes.say _).bind fun _ => Session.Computes.pure none
  | some n =>
    refine (Session.Computes.readFile _ _).bind fun content => ?_
    refine Session.Computes.get
      (y := fun w _ _ => readSummaryObject w.host.readingRoom content
        >>= fun members => return some (withName n members))
      (fun w => ?_) fun w => rfl
    refine (Session.Computes.ofExcept_id _).bind fun members => ?_
    exact (Session.Computes.say _).bind fun _ => Session.Computes.pure _

theorem computes_loadSummaries (paths : List Text) :
    Session.Computes (loadSummaries paths) fun host t => summariesIn host t paths := by
  induction paths with
  | nil => exact Session.Computes.pure []
  | cons path paths ih =>
    refine (computes_loadSummary path).bind fun summary => ?_
    exact ih.bind fun summaries => Session.Computes.pure _

/-- **Loading a table only looks at the files.** -/
theorem computes_loadTable (paths : List Text) :
    Session.Computes (loadTable paths) fun host t => tableOf host t paths := by
  refine Session.Computes.get
    (y := fun w host t => summariesIn host t (reportFiles w.files paths) >>= tableFrom)
    (fun w => ?_) fun w => rfl
  refine (computes_loadSummaries (reportFiles w.files paths)).bind fun summaries => ?_
  cases summaries with
  | nil => exact Session.Computes.throw _
  | cons summary summaries =>
    -- the record of the table comes after it, so its result is passed on once more
    have htable : tableFrom (summary :: summaries)
        = (SummaryTable.ofSummaries (summary :: summaries)).mapError .table >>= pure := by
      rw [bind_pure]
      rfl
    rw [htable]
    refine (Session.Computes.ofExcept ReportFault.table _).bind fun table => ?_
    exact (Session.Computes.say _).bind fun _ => Session.Computes.pure _

/-- A summary that cannot be read cannot be opened, or its bytes are no object. -/
theorem summaryIn_eq_error (h : summaryIn host t path = .error e) :
    SummaryName.ofPath? path ≠ none
      ∧ ((∃ f, t.read path = .error f ∧ e = .file f)
        ∨ ∃ content, t.read path = .ok content
          ∧ readSummaryObject host.readingRoom content = .error e) := by
  unfold summaryIn at h
  split at h
  · cases h
  · next n hn =>
    refine ⟨by rw [hn]; simp, ?_⟩
    rcases bind_eq_error_iff.1 h with h | ⟨content, hcontent, h⟩
    · obtain ⟨f, hf, rfl⟩ := mapError_eq_error_iff.1 h
      exact .inl ⟨f, hf, rfl⟩
    · rcases bind_eq_error_iff.1 h with h | ⟨members, -, h⟩
      · exact .inr ⟨content, mapError_eq_ok_iff.1 hcontent, h⟩
      · cases h

theorem exists_of_summariesIn_eq_error (h : summariesIn host t paths = .error e) :
    ∃ path ∈ paths, summaryIn host t path = .error e := by
  induction paths with
  | nil => cases h
  | cons path paths ih =>
    rcases bind_eq_error_iff.1 h with h | ⟨summary, -, h⟩
    · exact ⟨path, List.mem_cons_self .., h⟩
    · rcases bind_eq_error_iff.1 h with h | ⟨summaries, -, h⟩
      · obtain ⟨path', hpath', he⟩ := ih h
        exact ⟨path', List.mem_cons_of_mem _ hpath', he⟩
      · cases h

end

/-! ## Tables -/

/-- A value that is made of others: no table is sorted by it. -/
inductive Json.IsCollection : Json → Prop
  | array (items : List Json) : IsCollection (.array items)
  | object (members : Json.Members) : IsCollection (.object members)

theorem ColumnForm.not_isCollection_binaryValue (n : Int) : ¬(binaryValue n).IsCollection := by
  -- the rounding is kept folded, since it cannot be computed without the number
  generalize hvalue : binaryValue = value
  delta binaryValue at hvalue
  generalize Binary64.ofInt = nearest at hvalue
  subst hvalue
  dsimp only
  cases nearest n <;> rintro ⟨⟩

/-- A collection stands in a column as it is. -/
theorem ColumnForm.eq_some_of_cell {form : ColumnForm} {entry : Entry} {v : Json}
    (hv : v.IsCollection) (h : form.cell entry = .value v) : entry = some v := by
  unfold cell at h
  split at h
  · cases h
  · cases h
  · split at h <;> cases h
    cases hv
  · next n =>
    injection h with h
    rw [← h] at hv
    split at hv
    · exact absurd hv (not_isCollection_binaryValue n)
    · cases hv
  · cases h
    rfl

/-- A summary whose name or phase is a collection. -/
def HasUnusableKey (summary : Json.Members) (kind : String) : Prop :=
  ∃ column ∈ [SummaryTable.nameColumn, SummaryTable.phaseColumn], ∃ v,
    Json.Members.get? column summary = some v ∧ v.IsCollection ∧ v.kindName = kind

namespace SummaryTable

variable {summaries : List Json.Members} {e : TableFault}

theorem isCollection_of_phaseOf {entry : Entry} (h : phaseOf entry = .error e) :
    ∃ v, entry = some v ∧ v.IsCollection ∧ e = .unusableKey v.kindName := by
  unfold phaseOf at h
  split at h <;> cases h
  · exact ⟨_, rfl, .array _, rfl⟩
  · exact ⟨_, rfl, .object _, rfl⟩

theorem isCollection_of_nameKey {cell : Cell} (h : NameKey.ofCell cell = .error e) :
    ∃ v, cell = .value v ∧ v.IsCollection ∧ e = .unusableKey v.kindName := by
  unfold NameKey.ofCell at h
  split at h <;> cases h
  · exact ⟨_, rfl, .array _, rfl⟩
  · exact ⟨_, rfl, .object _, rfl⟩

/-- A collection in a cell is what the summary has there. -/
theorem get?_of_cellOf {forms : List (Text × ColumnForm)} {summary : Json.Members} {name : Text}
    {v : Json} (hv : v.IsCollection) (h : cellOf forms summary name = .value v) :
    Json.Members.get? name summary = some v := by
  unfold cellOf at h
  split at h
  · exact ColumnForm.eq_some_of_cell hv h
  · cases h

/-- **Why summaries make no table**: one of them has a collection for its name or its phase. -/
theorem exists_of_ofSummaries_eq_error (h : ofSummaries summaries = .error e) :
    ∃ kind, e = .unusableKey kind ∧ ∃ summary ∈ summaries, HasUnusableKey summary kind := by
  unfold ofSummaries at h
  rcases bind_eq_error_iff.1 h with h | ⟨phases, -, h⟩
  · obtain ⟨entry, hentry, hphase⟩ := exists_of_mapM_eq_error h
    obtain ⟨summary, hsummary, hget⟩ := List.mem_map.1 hentry
    obtain ⟨v, hv, hcollection, rfl⟩ := isCollection_of_phaseOf hphase
    exact ⟨_, rfl, summary, hsummary, phaseColumn, by simp, v, hget.trans hv, hcollection, rfl⟩
  · rcases bind_eq_error_iff.1 h with h | ⟨keys, -, h⟩
    · obtain ⟨cell, hcell, hkey⟩ := exists_of_mapM_eq_error h
      obtain ⟨row, hrow, rfl⟩ := List.mem_map.1 hcell
      obtain ⟨⟨summary, phase⟩, hsummary, rfl⟩ := List.mem_map.1 hrow
      obtain ⟨v, hv, hcollection, rfl⟩ := isCollection_of_nameKey hkey
      exact ⟨_, rfl, summary, (List.of_mem_zip hsummary).1, nameColumn, by simp, v,
        get?_of_cellOf hcollection hv, hcollection, rfl⟩
    · cases h

end SummaryTable

/-! ## Reports -/

/-- What makes a report end with a fault on a machine, in these files. -/
inductive ReportFault.Cause (host : Host) (t : FileTree) (r : ReportRequest) : ReportFault → Prop
  | file (e : FileFault)
      (h : e.telling = none →
        Path.Unusable r.output ∨ ∃ path ∈ reportFiles t r.paths, Path.Unusable path) :
    Cause host t r (.file e)
  | summary (e : ReportFault)
      (h : ∃ path ∈ reportFiles t r.paths, SummaryName.ofPath? path ≠ none
        ∧ ∃ content, t.read path = .ok content
          ∧ readSummaryObject host.readingRoom content = .error e) :
    Cause host t r e
  | noSummaries (h : summariesIn host t (reportFiles t r.paths) = .ok []) :
    Cause host t r .noSummaries
  | key (summaries : List Json.Members) (kind : String)
      (hread : summariesIn host t (reportFiles t r.paths) = .ok summaries)
      (h : ∃ summary ∈ summaries, HasUnusableKey summary kind) :
    Cause host t r (.table (.unusableKey kind))
  | directories (h : host.makingRoom < t.missingAbove (Path.directory r.output)) :
    Cause host t r (.unwritable .directories)
  | access (e : AccessFault) (hpath : Path.isOrdinary r.output = false)
      (h : ∃ t' content, (host.store t' r.output content).2 = some e) :
    Cause host t r (.ofAccess e)
  | tooDeep (table : SummaryTable) (hread : tableOf host t r.paths = .ok table)
      (h : ∃ row ∈ table.rows, ∃ cell ∈ row.name :: row.values, host.writingRoom < cell.height) :
    Cause host t r (.unwritable .tooDeep)
  | characters (table : SummaryTable) (u : Text.Unwritable)
      (hread : tableOf host t r.paths = .ok table)
      (h : ∃ row ∈ table.rows, ∃ g ∈ SummaryTable.rowLine row, g.isChar = false) :
    Cause host t r (.unwritable (.characters u))

section

variable {host : Host} {t : FileTree} {r : ReportRequest} {table : SummaryTable} {w w' : World}
  {e : ReportFault}

theorem cause_of_tableOf (h : tableOf host t r.paths = .error e) : e.Cause host t r := by
  rcases bind_eq_error_iff.1 h with h | ⟨summaries, hread, h⟩
  · obtain ⟨path, hpath, h⟩ := exists_of_summariesIn_eq_error h
    obtain ⟨hnamed, ⟨f, hf, rfl⟩ | ⟨content, hcontent, hobject⟩⟩ := summaryIn_eq_error h
    · exact .file f fun hsilent => .inr ⟨path, hpath, FileTree.unusable_of_read hf hsilent⟩
    · exact .summary e ⟨path, hpath, hnamed, content, hcontent, hobject⟩
  · unfold tableFrom at h
    split at h
    · next hnil =>
      cases h
      rw [hnil] at hread
      exact .noSummaries hread
    · obtain ⟨f, hf, rfl⟩ := mapError_eq_error_iff.1 h
      obtain ⟨kind, rfl, hkey⟩ := SummaryTable.exists_of_ofSummaries_eq_error hf
      exact .key summaries kind hread hkey

/-- Writing stops at a row that cannot be written. -/
theorem exists_of_writableRows {room : Nat} {rows : List TableRow} {f : WriteFault}
    (h : (writableRows room rows).2 = some f) : ∃ row ∈ rows, rowFault? room row = some f := by
  induction rows with
  | nil => cases h
  | cons row rows ih =>
    rw [writableRows] at h
    split at h
    · next f' hf' =>
      cases h
      exact ⟨row, List.mem_cons_self .., hf'⟩
    · obtain ⟨row', hrow', hbad⟩ := ih h
      exact ⟨row', List.mem_cons_of_mem _ hrow', hbad⟩

/-- A row cannot be written for a value that is too deep, or for what is no character. -/
theorem cause_of_rowFault? (hread : tableOf host t r.paths = .ok table) {row : TableRow}
    (hrow : row ∈ table.rows) {f : WriteFault} (h : rowFault? host.writingRoom row = some f) :
    (ReportFault.unwritable f).Cause host t r := by
  unfold rowFault? at h
  split at h
  · next hdeep =>
    cases h
    obtain ⟨cell, hcell, hheight⟩ := List.any_eq_true.1 hdeep
    exact .tooDeep table hread ⟨row, hrow, cell, hcell, of_decide_eq_true hheight⟩
  · obtain ⟨u, hu, rfl⟩ := Option.map_eq_some_iff.1 h
    obtain ⟨g, hg, hchar⟩ := Text.exists_of_unwritable?_eq_some hu
    exact .characters table u hread ⟨row, hrow, g, hg, by simpa using hchar⟩

/-- What is written to an ordinary path is written to the file, and refused as the file tree has
it. -/
theorem cause_of_write {f : AccessFault} {content : List UInt8}
    (h : (host.write t r.output content).2 = some f) (t' : FileTree) :
    (ReportFault.ofAccess f).Cause host t' r := by
  unfold Host.write at h
  split at h
  · split at h
    · cases h
    · next g hg =>
      cases h
      exact .file g fun hsilent => .inl (FileTree.unusable_of_write hg hsilent)
  · next hpath => exact .access f (by simpa using hpath) ⟨t, content, h⟩

theorem failsFor_writeRows (hread : tableOf host t r.paths = .ok table) :
    Session.FailsFor host (ReportFault.Cause host t r) (writeRows table r.output) := by
  refine Session.FailsFor.get fun w hw => ?_
  rw [hw]
  rcases hrows : writableRows host.writingRoom table.rows with ⟨written, stop⟩
  dsimp only
  refine (Session.FailsFor.store fun t' e h => cause_of_write h t).bind fun _ => ?_
  cases stop with
  | none => exact Session.FailsFor.say _
  | some f =>
    obtain ⟨row, hrow, hfault⟩ := exists_of_writableRows (congrArg Prod.snd hrows)
    exact Session.FailsFor.throw (cause_of_rowFault? hread hrow hfault)

theorem writeTable_cause (hread : tableOf w.host w.files r.paths = .ok table) {log : Log}
    (h : (writeTable table r.output).result { w with log } = (.error e, w')) :
    e.Cause w.host w.files r := by
  unfold writeTable at h
  dsimp only at h
  split at h
  · exact Session.FailsFor.cause (failsFor_writeRows hread) h rfl
  · rcases Session.result_bind_eq_error_iff.1 h with h | ⟨_, v, hmade, h⟩
    · rcases Session.cause_of_makeDirectories h with ⟨rfl, hroom⟩ | ⟨t, f, hf, rfl⟩
      · exact .directories hroom
      · refine .file f fun hsilent => .inl ?_
        exact (FileTree.unusable_of_makeDirectories hf hsilent).of_glyphs
          fun g hg => .inl (Path.mem_of_mem_directory hg)
    · obtain ⟨-, hhost⟩ := Session.eq_of_makeDirectories hmade
      exact Session.FailsFor.cause (failsFor_writeRows hread) h hhost

/-- **Why a report fails.** -/
theorem report_cause
    (h : (loadTable r.paths >>= fun table => writeTable table r.output).result w
      = (.error e, w')) :
    e.Cause w.host w.files r := by
  obtain ⟨log, hload⟩ := computes_loadTable r.paths w
  rw [Session.result_bind, hload] at h
  dsimp only at h
  cases htable : tableOf w.host w.files r.paths with
  | error f =>
    rw [htable] at h
    cases h
    exact cause_of_tableOf htable
  | ok table =>
    rw [htable] at h
    exact writeTable_cause htable h

end

end PhaseSplit
