import Mathlib.Tactic
import PhaseSplit.Proofs.Json.Members
import PhaseSplit.Proofs.Report.SplitTable

/-!
# Tables are sorted

A report has a row for every path that is named as a summary, in the order of the runs and within a
run of the phases; rows alike in both keep the order of their paths.  Of each other path it says
that it is passed over.

* `filter_mergeSort_of_tied`: what is tied keeps its order when a list is sorted;
* `SummaryName.notAfter_iff`: the order of runs and phases;
* `HoldsSummary`: a file that has the entries of a summary, and neither a name nor a phase;
* `result_loadSummaries`: what is read of the files of a report, and what is said about them;
* `SummaryTable.ofSummaries_loaded`: the rows of their table;
* `loadTable_sorts`: the report.
-/

namespace PhaseSplit

/-! ## Sorting -/

/-- Members of a list that are tied with each other keep their order when it is sorted. -/
theorem filter_mergeSort_of_tied {α : Type} {le : α → α → Bool} {p : α → Bool}
    (trans : ∀ a b c, le a b = true → le b c = true → le a c = true)
    (total : ∀ a b, (le a b || le b a) = true)
    (htied : ∀ a b, p a = true → p b = true → le a b = true) (l : List α) :
    (l.mergeSort le).filter p = l.filter p := by
  have hsorted : (l.filter p).Pairwise fun a b => le a b = true :=
    List.pairwise_of_forall_mem_list fun a ha b hb =>
      htied a b (List.mem_filter.1 ha).2 (List.mem_filter.1 hb).2
  have hsub : (l.filter p).Sublist (l.mergeSort le) :=
    List.sublist_mergeSort trans total hsorted List.filter_sublist
  have hkept : (l.filter p).Sublist ((l.mergeSort le).filter p) := by
    simpa only [List.filter_filter, Bool.and_self] using hsub.filter p
  exact (hkept.eq_of_length ((List.mergeSort_perm l le).symm.filter p).length_eq).symm

namespace SummaryName

variable {m n : SummaryName}

/-- What a summary is sorted by: its run, and within a run the place of its phase. -/
def key (n : SummaryName) : List Nat ×ₗ Nat := toLex (n.run.codes, phaseRank (some n.phase))

/-- Whether a summary may stand before another. -/
def notAfter (m n : SummaryName) : Bool :=
  m.run.before n.run
    || (!n.run.before m.run && phaseRank (some m.phase) ≤ phaseRank (some n.phase))

theorem notAfter_iff_key : notAfter m n = true ↔ m.key ≤ n.key := by
  unfold notAfter key
  rw [Prod.Lex.toLex_le_toLex, Bool.or_eq_true, Bool.and_eq_true, Bool.not_eq_true',
    ← Bool.not_eq_true, Text.before_iff, Text.before_iff, decide_eq_true_iff, not_lt]
  constructor
  · rintro (hlt | ⟨hle, hrank⟩)
    · exact .inl hlt
    · exact hle.lt_or_eq.imp_right fun heq => ⟨heq, hrank⟩
  · rintro (hlt | ⟨heq, hrank⟩)
    · exact .inl hlt
    · exact .inr ⟨heq.le, hrank⟩

theorem phaseRank_le_iff {p q : Phase} : phaseRank (some p) ≤ phaseRank (some q)
    ↔ (p = .measurement → q = .measurement) := by
  cases p <;> cases q <;> decide

/-- **The order of summaries**: by run, and within a run the warmup before the measurement. -/
theorem notAfter_iff : notAfter m n = true ↔ m.run.codes < n.run.codes
    ∨ m.run.codes = n.run.codes ∧ (m.phase = .measurement → n.phase = .measurement) := by
  rw [notAfter_iff_key, key, key, Prod.Lex.toLex_le_toLex, phaseRank_le_iff]

theorem notAfter_trans (l m n : SummaryName) (hlm : notAfter l m = true)
    (hmn : notAfter m n = true) : notAfter l n = true := by
  rw [notAfter_iff_key] at hlm hmn ⊢
  exact hlm.trans hmn

theorem notAfter_total (m n : SummaryName) : (notAfter m n || notAfter n m) = true := by
  rw [Bool.or_eq_true, notAfter_iff_key, notAfter_iff_key]
  exact le_total _ _

end SummaryName

/-- Summaries in the order of their runs and phases. -/
def inOrder (loaded : List (SummaryName × Json.Members)) : List (SummaryName × Json.Members) :=
  loaded.mergeSort fun r s => r.1.notAfter s.1

theorem perm_inOrder (loaded : List (SummaryName × Json.Members)) : (inOrder loaded).Perm loaded :=
  List.mergeSort_perm _ _

theorem pairwise_inOrder (loaded : List (SummaryName × Json.Members)) :
    (inOrder loaded).Pairwise fun r s => r.1.run.codes < s.1.run.codes
      ∨ r.1.run.codes = s.1.run.codes ∧ (r.1.phase = .measurement → s.1.phase = .measurement) := by
  refine List.Pairwise.imp (fun h => SummaryName.notAfter_iff.1 h) (List.pairwise_mergeSort ?_ ?_ _)
  · exact fun r s q => SummaryName.notAfter_trans r.1 s.1 q.1
  · exact fun r s => SummaryName.notAfter_total r.1 s.1

/-- Summaries of one run and one phase keep their order. -/
theorem filter_inOrder (loaded : List (SummaryName × Json.Members)) (n : SummaryName) :
    (inOrder loaded).filter (·.1 = n) = loaded.filter (·.1 = n) := by
  refine filter_mergeSort_of_tied ?_ ?_ ?_ loaded
  · exact fun r s q => SummaryName.notAfter_trans r.1 s.1 q.1
  · exact fun r s => SummaryName.notAfter_total r.1 s.1
  · intro r s hr hs
    rw [of_decide_eq_true hr, of_decide_eq_true hs, SummaryName.notAfter_iff]
    exact .inr ⟨rfl, id⟩

/-! ## Files -/

-- the names of entries are never computed from the summary of no samples
attribute [local irreducible] Summary.entryNames

/-- A file that has the entries of a summary: an object without a name and a phase, for which the
machine has room.  It may lack some of the entries that summaries are written with. -/
structure HoldsSummary (host : Host) (t : FileTree) (path : Text) (members : Json.Members) :
    Prop where
  object : ∃ content, t.read path = .ok content
    ∧ readSummaryObject host.readingRoom content = .ok members
  no_name : SummaryTable.nameColumn ∉ members.map (·.1)
  no_phase : SummaryTable.phaseColumn ∉ members.map (·.1)

variable {host : Host} {t : FileTree} {path : Text} {members : Json.Members} {room : Nat}
  {content : List UInt8}

theorem nodup_of_readSummaryObject (h : readSummaryObject room content = .ok members) :
    (members.map (·.1)).Nodup := by
  unfold readSummaryObject at h
  obtain ⟨cs, -, h⟩ := bind_eq_ok_iff.1 h
  obtain ⟨value, hvalue, h⟩ := bind_eq_ok_iff.1 h
  split at h
  · cases h
    exact Json.nodup_of_read (mapError_eq_ok_iff.1 hvalue)
  · cases h

/-- Entries after a run and a phase. -/
def headed (n : SummaryName) (members : Json.Members) : Json.Members :=
  (SummaryTable.nameColumn, .str n.run) :: (SummaryTable.phaseColumn, .str n.phase.name) :: members

theorem nameColumn_ne_phaseColumn : SummaryTable.nameColumn ≠ SummaryTable.phaseColumn := by decide

/-- The run and the phase that the path says come before the entries of the file. -/
theorem HoldsSummary.withName_eq (h : HoldsSummary host t path members) (n : SummaryName) :
    withName n members = headed n members := by
  obtain ⟨content, -, hobject⟩ := h.object
  refine foldl_put (fun _ _ value => Json.Members.put_of_not_mem value) ?_
  rw [List.map_append, List.map_cons, List.map_singleton, List.cons_append, List.singleton_append,
    List.nodup_cons, List.nodup_cons, List.mem_cons, not_or]
  exact ⟨⟨nameColumn_ne_phaseColumn, h.no_name⟩, h.no_phase, nodup_of_readSummaryObject hobject⟩

/-! ## Loading -/

variable {summaryOf : Text → Json.Members} {paths : List Text} {w : World}

/-- The summaries at the paths that are named as summaries, each with what its path says. -/
def namedSummaries (summaryOf : Text → Json.Members) (paths : List Text) :
    List (SummaryName × Json.Members) :=
  paths.filterMap fun path => (SummaryName.ofPath? path).map fun n => (n, summaryOf path)

/-- What is said about a file of a report. -/
def fileRecord (path : Text) : LogRecord :=
  match SummaryName.ofPath? path with
  | none => passedOverRecord path
  | some n => loadedRecord n

theorem result_loadSummary
    (h : SummaryName.ofPath? path ≠ none → HoldsSummary w.host w.files path (summaryOf path)) :
    (loadSummary path).result w
      = (.ok ((SummaryName.ofPath? path).map fun n => withName n (summaryOf path)),
        { w with log := w.log ++ [fileRecord path] }) := by
  unfold loadSummary fileRecord
  cases hn : SummaryName.ofPath? path with
  | none => rfl
  | some n =>
    obtain ⟨content, hread, hobject⟩ := (h (by rw [hn]; exact Option.some_ne_none n)).object
    have hfile : (Session.readFile ReportFault.file path).result w = (.ok content, w) :=
      Session.readFile_eq_ok_iff.2 ⟨hread, rfl⟩
    have hsummary : (Session.ofExcept id
        (readSummaryObject w.host.readingRoom content)).result w
        = (.ok (summaryOf path), w) :=
      Session.ofExcept_eq_ok_iff.2 ⟨hobject, rfl⟩
    dsimp only
    rw [Session.result_bind_of_ok hfile, Session.result_bind_of_ok (Session.result_get w),
      Session.result_bind_of_ok hsummary, Session.result_bind_of_ok (Session.result_say _ _)]
    rfl

/-- **The files of a report are read in order**, and each is spoken of. -/
theorem result_loadSummaries
    (h : ∀ path ∈ paths, SummaryName.ofPath? path ≠ none →
      HoldsSummary w.host w.files path (summaryOf path)) :
    (loadSummaries paths).result w
      = (.ok ((namedSummaries summaryOf paths).map fun r => withName r.1 r.2),
        { w with log := w.log ++ paths.map fileRecord }) := by
  induction paths generalizing w with
  | nil =>
    rw [List.map_nil, List.append_nil]
    rfl
  | cons path paths ih =>
    obtain ⟨hpath, hpaths⟩ := List.forall_mem_cons.1 h
    -- what has been said does not change the files
    have hrest := @ih { w with log := w.log ++ [fileRecord path] } hpaths
    unfold loadSummaries
    rw [Session.result_bind_of_ok (result_loadSummary hpath), Session.result_bind_of_ok hrest,
      Session.result_pure, List.map_cons, List.append_assoc, List.singleton_append]
    cases hn : SummaryName.ofPath? path with
    | none => simp [namedSummaries, hn]
    | some n => simp [namedSummaries, hn]

theorem namedSummaries_eq_nil_iff :
    namedSummaries summaryOf paths = [] ↔ ∀ path ∈ paths, SummaryName.ofPath? path = none := by
  rw [namedSummaries, List.filterMap_eq_nil_iff]
  simp only [Option.map_eq_none_iff]

/-- There is a warning for each path that is not named as a summary, and no other. -/
theorem filter_fileRecord (paths : List Text) :
    (paths.map fileRecord).filter (·.severity = .warning)
      = (paths.filter fun path => SummaryName.ofPath? path = none).map passedOverRecord := by
  induction paths with
  | nil => rfl
  | cons path paths ih =>
    rw [List.map_cons, List.filter_cons, List.filter_cons, ih]
    unfold fileRecord
    cases SummaryName.ofPath? path with
    | none => rfl
    | some n => rfl

/-! ## Rows -/

namespace SummaryTable

variable {loaded : List (SummaryName × Json.Members)} {r : SummaryName × Json.Members} {name : Text}

/-- The row of a summary among those of a report: the run, the phase, and what the summary has under
each name of entries, in the form of its column. -/
def rowAmong (loaded : List (SummaryName × Json.Members)) (r : SummaryName × Json.Members) :
    TableRow where
  name := .value (.str r.1.run)
  phase := some r.1.phase
  values := Summary.entryNames.map fun name =>
    (ColumnForm.ofEntries (loaded.map fun s => s.2.get? name)).cell (r.2.get? name)

theorem get?_headed_name (n : SummaryName) (members : Json.Members) :
    (headed n members).get? nameColumn = some (.str n.run) :=
  Json.Members.get?_cons_self _ _ _

theorem get?_headed_phase (n : SummaryName) (members : Json.Members) :
    (headed n members).get? phaseColumn = some (.str n.phase.name) := by
  rw [headed, Json.Members.get?_cons_of_ne nameColumn_ne_phaseColumn]
  exact Json.Members.get?_cons_self _ _ _

theorem get?_headed_entry (hname : name ∈ Summary.entryNames) (n : SummaryName)
    (members : Json.Members) : (headed n members).get? name = members.get? name := by
  have hcolumns := nodup_columns
  rw [columns, List.nodup_cons, List.nodup_cons] at hcolumns
  obtain ⟨hfirst, hsecond, -⟩ := hcolumns
  have hrun : nameColumn ≠ name := fun h => hfirst (List.mem_cons_of_mem _ (h ▸ hname))
  have hphase : phaseColumn ≠ name := fun h => hsecond (h ▸ hname)
  rw [headed, Json.Members.get?_cons_of_ne hrun, Json.Members.get?_cons_of_ne hphase]

theorem rowOf_eq_rowAmong (hr : r ∈ loaded) :
    rowOf (formsOf (loaded.map fun r => headed r.1 r.2)) (headed r.1 r.2) (some r.1.phase)
      = rowAmong loaded r := by
  have hmem : headed r.1 r.2 ∈ loaded.map fun r => headed r.1 r.2 := List.mem_map.2 ⟨r, hr, rfl⟩
  unfold rowOf rowAmong
  rw [cellOf_nameColumn hmem (get?_headed_name r.1 r.2)]
  congr 1
  refine List.map_congr_left ?_
  intro name hname
  have hentries : entriesOf (loaded.map fun r => headed r.1 r.2) name
      = loaded.map fun s => s.2.get? name := by
    rw [entriesOf, List.map_map]
    exact List.map_congr_left fun s _ => get?_headed_entry hname s.1 s.2
  rw [cellOf_eq_cell hmem, hentries, get?_headed_entry hname]

/-- **The rows of the table** are those of the summaries in order. -/
theorem ofSummaries_loaded (h : ∀ r ∈ loaded, withName r.1 r.2 = headed r.1 r.2) :
    ofSummaries (loaded.map fun r => withName r.1 r.2)
      = .ok ⟨(inOrder loaded).map (rowAmong loaded)⟩ := by
  obtain ⟨row, hrow⟩ : ∃ row : SummaryName × Json.Members → NameKey × TableRow, row = fun r =>
    (NameKey.text r.1.run, rowOf (formsOf (loaded.map fun r => headed r.1 r.2)) (headed r.1 r.2)
      (some r.1.phase)) := ⟨_, rfl⟩
  have hsort : (loaded.map row).mergeSort rowNotAfter = (inOrder loaded).map row := by
    refine Eq.symm (List.map_mergeSort ?_)
    intro r _ s _
    rw [hrow]
    rfl
  rw [List.map_congr_left h, ofSummaries_map (fun r => headed r.1 r.2)
    (fun r _ => get?_headed_name r.1 r.2) fun r _ => get?_headed_phase r.1 r.2, ← hrow, hsort,
    List.map_map]
  refine congrArg Except.ok (congrArg SummaryTable.mk (List.map_congr_left ?_))
  intro r hr
  rw [hrow]
  exact rowOf_eq_rowAmong (List.mem_mergeSort.1 hr)

end SummaryTable

/-! ## Reports -/

/-- A summary at one of some paths holds what its file holds. -/
theorem withName_eq_of_mem
    (h : ∀ path ∈ paths, SummaryName.ofPath? path ≠ none → HoldsSummary host t path (summaryOf path)) :
    ∀ r ∈ namedSummaries summaryOf paths, withName r.1 r.2 = headed r.1 r.2 := by
  intro r hr
  obtain ⟨path, hpath, hr⟩ := List.mem_filterMap.1 hr
  obtain ⟨n, hn, rfl⟩ := Option.map_eq_some_iff.1 hr
  exact (h path hpath (by rw [hn]; exact Option.some_ne_none n)).withName_eq n

theorem result_loadTable_of_nil
    (h : ∀ path ∈ reportFiles w.files paths, SummaryName.ofPath? path = none) :
    (loadTable paths).result w = (.error .noSummaries,
      { w with log := w.log ++ (reportFiles w.files paths).map fileRecord }) := by
  have hload : (loadSummaries (reportFiles w.files paths)).result w = _ :=
    @result_loadSummaries (fun _ => []) _ w fun path hpath hnamed => absurd (h path hpath) hnamed
  rw [namedSummaries_eq_nil_iff.2 h] at hload
  unfold loadTable
  rw [Session.result_bind_of_ok (Session.result_get w), Session.result_bind_of_ok hload]
  rfl

/-- **The table of a report** that has summaries, and all that the report says. -/
theorem result_loadTable_of_ne_nil
    (h : ∀ path ∈ reportFiles w.files paths, SummaryName.ofPath? path ≠ none →
      HoldsSummary w.host w.files path (summaryOf path))
    (hne : namedSummaries summaryOf (reportFiles w.files paths) ≠ []) :
    ∃ table : SummaryTable,
      table.rows = (inOrder (namedSummaries summaryOf (reportFiles w.files paths))).map
          (SummaryTable.rowAmong (namedSummaries summaryOf (reportFiles w.files paths)))
        ∧ (loadTable paths).result w
          = (.ok table, { w with log := w.log
            ++ ((reportFiles w.files paths).map fileRecord ++ [tableRecord table]) }) := by
  have hload := result_loadSummaries h
  have hrows := SummaryTable.ofSummaries_loaded (withName_eq_of_mem h)
  generalize namedSummaries summaryOf (reportFiles w.files paths) = loaded at *
  have hsome : (loaded.map fun r => withName r.1 r.2).isEmpty = false := by simpa using hne
  have htable : ∀ w : World, (Session.ofExcept ReportFault.table
      (SummaryTable.ofSummaries (loaded.map fun r => withName r.1 r.2))).result w = (.ok _, w) :=
    fun w => Session.ofExcept_eq_ok_iff.2 ⟨hrows, rfl⟩
  refine ⟨_, rfl, ?_⟩
  unfold loadTable
  rw [Session.result_bind_of_ok (Session.result_get w), Session.result_bind_of_ok hload, hsome,
    ← List.append_assoc]
  show (Session.ofExcept ReportFault.table _ >>= _ : Session _ _).result _ = _
  rw [Session.result_bind_of_ok (htable _), Session.result_bind_of_ok (Session.result_say _ _)]
  rfl

/-- **A report is a table of what was loaded, in order.**  If the files that are named as summaries
hold summaries, the report fails exactly when there is no such file.  Otherwise its table has the
columns of the name, of the phase and of all entries, and a row for each such file, with
multiplicity.  The rows are sorted by name and within a name by phase, the warmup first; rows alike
in both keep the order of the files.  All other files add no row, and there is one warning for each
of them, in order. -/
theorem loadTable_sorts
    (h : ∀ path ∈ reportFiles w.files paths, SummaryName.ofPath? path ≠ none →
      HoldsSummary w.host w.files path (summaryOf path)) :
    ∃ outcome log, (loadTable paths).result w = (outcome, { w with log := w.log ++ log })
      ∧ log.filter (·.severity = .warning)
        = ((reportFiles w.files paths).filter fun path => SummaryName.ofPath? path = none).map
          passedOverRecord
      ∧ (outcome = .error .noSummaries
        ↔ ∀ path ∈ reportFiles w.files paths, SummaryName.ofPath? path = none)
      ∧ ((∃ path ∈ reportFiles w.files paths, SummaryName.ofPath? path ≠ none) →
        ∃ (table : SummaryTable) (sorted : List (SummaryName × Json.Members)), outcome = .ok table
          ∧ table.lines.head? = some (Csv.row
            (SummaryTable.nameColumn :: SummaryTable.phaseColumn :: Summary.entryNames))
          ∧ table.rows = sorted.map (SummaryTable.rowAmong
            (namedSummaries summaryOf (reportFiles w.files paths)))
          ∧ sorted.Perm (namedSummaries summaryOf (reportFiles w.files paths))
          ∧ sorted.Pairwise (fun r s => r.1.run.codes < s.1.run.codes
            ∨ r.1.run.codes = s.1.run.codes
              ∧ (r.1.phase = .measurement → s.1.phase = .measurement))
          ∧ ∀ n, sorted.filter (·.1 = n)
            = (namedSummaries summaryOf (reportFiles w.files paths)).filter (·.1 = n)) := by
  by_cases hnone : ∀ path ∈ reportFiles w.files paths, SummaryName.ofPath? path = none
  · refine ⟨_, _, result_loadTable_of_nil hnone, filter_fileRecord _, iff_of_true rfl hnone, ?_⟩
    rintro ⟨path, hpath, hnamed⟩
    exact absurd (hnone path hpath) hnamed
  · obtain ⟨table, hrows, hresult⟩ :=
      result_loadTable_of_ne_nil h fun hnil => hnone (namedSummaries_eq_nil_iff.1 hnil)
    refine ⟨_, _, hresult, ?_, iff_of_false (by simp) hnone, fun _ => ⟨table, _, rfl, rfl, hrows,
      perm_inOrder _, pairwise_inOrder _, filter_inOrder _⟩⟩
    -- the record of the table is no warning
    rw [List.filter_append, filter_fileRecord]
    exact List.append_nil _

/-- The bytes of a file with the summary of no samples. -/
def emptySummaryContent : List UInt8 :=
  Text.encode (Text.ofChars (Json.write (some summaryIndent) (.object Summary.empty.members))
    ++ Text.lit "\n")

/-- A world with the summaries of one run and another file. -/
def summariesWorld : World :=
  .initial ⟨[([Text.lit "a-measurement-summary.json"], .file emptySummaryContent),
    ([Text.lit "a-warmup-summary.json"], .file emptySummaryContent),
    ([Text.lit "notes.json"], .file [])], []⟩ []

theorem holdsSummary_of_read (h : t.read path = .ok emptySummaryContent) :
    HoldsSummary host t path Summary.empty.members := by
  have hmade := Summary.wellMade_empty
  have hcolumns := SummaryTable.nodup_columns
  rw [SummaryTable.columns, List.nodup_cons, List.nodup_cons] at hcolumns
  obtain ⟨hname, hphase, -⟩ := hcolumns
  refine ⟨⟨_, h, readSummaryObject_write hmade.isPlain_members hmade.members_ne_nil _ _⟩, ?_, ?_⟩
  · rw [hmade.map_fst_members]
    exact fun hmem => hname (List.mem_cons_of_mem _ hmem)
  · rw [hmade.map_fst_members]
    exact hphase

/-- The warmup comes first, though its file is the last, and there is a warning for the file that is
no summary. -/
theorem loadTable_sorts_summariesWorld :
    ∃ table log, (loadTable [Text.lit "a-measurement-summary.json", Text.lit "notes.json",
          Text.lit "a-warmup-summary.json"]).result summariesWorld
        = (.ok table, { summariesWorld with log := summariesWorld.log ++ log })
      ∧ log.filter (·.severity = .warning) = [passedOverRecord (Text.lit "notes.json")]
      ∧ table.rows.map (·.phase) = [some .warmup, some .measurement] := by
  have hfiles : reportFiles summariesWorld.files [Text.lit "a-measurement-summary.json",
      Text.lit "notes.json", Text.lit "a-warmup-summary.json"]
      = [Text.lit "a-measurement-summary.json", Text.lit "notes.json",
        Text.lit "a-warmup-summary.json"] := by decide +kernel
  have hmeasurement : SummaryName.ofPath? (Text.lit "a-measurement-summary.json")
      = some ⟨Text.lit "a", .measurement⟩ := by decide +kernel
  have hnotes : SummaryName.ofPath? (Text.lit "notes.json") = none := by decide +kernel
  have hwarmup : SummaryName.ofPath? (Text.lit "a-warmup-summary.json")
      = some ⟨Text.lit "a", .warmup⟩ := by decide +kernel
  obtain ⟨outcome, log, hresult, hwarnings, -, htable⟩ :=
    @loadTable_sorts (fun _ => Summary.empty.members) [Text.lit "a-measurement-summary.json",
      Text.lit "notes.json", Text.lit "a-warmup-summary.json"] summariesWorld (by
        rw [hfiles]
        simp only [List.forall_mem_cons, hnotes, ne_eq, not_true, false_implies, true_and]
        exact ⟨fun _ => holdsSummary_of_read rfl, fun _ => holdsSummary_of_read rfl, by simp⟩)
  rw [hfiles] at hwarnings htable
  obtain ⟨table, sorted, rfl, -, hrows, hperm, hsorted, -⟩ :=
    htable ⟨_, List.mem_cons_self, by rw [hmeasurement]; exact Option.some_ne_none _⟩
  have hloaded : namedSummaries (fun _ => Summary.empty.members)
      [Text.lit "a-measurement-summary.json", Text.lit "notes.json",
        Text.lit "a-warmup-summary.json"]
      = [(⟨Text.lit "a", .measurement⟩, Summary.empty.members),
        (⟨Text.lit "a", .warmup⟩, Summary.empty.members)] := by
    simp [namedSummaries, hmeasurement, hnotes, hwarmup]
  rw [hloaded, List.perm_pair] at hperm
  refine ⟨table, log, hresult, ?_, ?_⟩
  · rw [hwarnings]
    simp [hmeasurement, hnotes, hwarmup]
  · rw [hrows, List.map_map]
    rcases hperm with rfl | rfl
    · rcases List.pairwise_pair.1 hsorted with hlt | ⟨-, hphase⟩
      · exact absurd hlt (lt_irrefl _)
      · cases hphase rfl
    · rfl

end PhaseSplit
