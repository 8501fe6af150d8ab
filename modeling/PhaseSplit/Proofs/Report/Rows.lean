import Mathlib.Tactic
import PhaseSplit.Proofs.Stats.Entries
import PhaseSplit.Proofs.Text.Order
import PhaseSplit.Report.Session

/-!
# Rows of well made summaries

The table of summaries that statistics have made shows each of them in a row of its own, and in this
row its quantities as they are: no column holds numbers of two kinds.

* `SummaryTable.withName_members`: what is read of a summary;
* `SummaryTable.cellOf_entryNames`: the cells of its row;
* `SummaryTable.ofSummaries_map`: the rows of a table, before and after they are sorted;
* `SummaryTable.ofSummaries_records`: those of well made summaries.
-/

namespace PhaseSplit

/-! ## Cells -/

namespace ColumnForm

/-- Integers among integers stay integers. -/
theorem cell_int {entries : List Entry} (h : ∀ entry ∈ entries, ∃ n, entry = some (.int n))
    (n : Int) : (ofEntries entries).cell (some (.int n)) = .value (.int n) := by
  have hbinary : entries.any isBinary = false := by
    rw [List.any_eq_false]
    intro entry hentry
    obtain ⟨m, rfl⟩ := h entry hentry
    exact Bool.false_ne_true
  have hform : ofEntries entries = .asGiven := by
    unfold ofEntries
    rw [hbinary]
    rfl
  rw [hform]
  rfl

theorem cell_float (form : ColumnForm) {x : Binary64} (hx : x ≠ .nan) :
    form.cell (some (.float x)) = .value (.float x) := if_neg hx

end ColumnForm

-- the names of entries are never computed from the summary of no samples
attribute [local irreducible] Summary.entryNames

namespace SummaryTable

/-- What is read of a summary: the run and the phase of its file, and its entries. -/
def record (n : SummaryName) (s : Summary) : Json.Members :=
  [(nameColumn, .str n.run), (phaseColumn, .str n.phase.name)] ++ s.members

variable {n : SummaryName} {s : Summary}

theorem nodup_columns : columns.Nodup := by
  rw [columns, Summary.entryNames_eq]
  decide +kernel

theorem nodup_record (h : s.WellMade) : ((record n s).map (·.1)).Nodup := by
  have hcolumns : (record n s).map (·.1) = columns := by
    rw [record, List.map_append, h.map_fst_members]
    rfl
  rw [hcolumns]
  exact nodup_columns

theorem withName_members (h : s.WellMade) : withName n s.members = record n s :=
  foldl_put (fun _ _ value => Json.Members.put_of_not_mem value) (nodup_record h)

theorem get?_nameColumn (h : s.WellMade) :
    (record n s).get? nameColumn = some (.str n.run) :=
  Json.Members.get?_of_mem (nodup_record h) (by simp [record])

theorem get?_phaseColumn (h : s.WellMade) :
    (record n s).get? phaseColumn = some (.str n.phase.name) :=
  Json.Members.get?_of_mem (nodup_record h) (by simp [record])

theorem get?_entryNames (h : s.WellMade) {i : Nat} (hi : i < Summary.entryNames.length)
    (hi' : i < s.quantities.length) :
    (record n s).get? Summary.entryNames[i] = some s.quantities[i].toJson :=
  Json.Members.get?_of_mem (nodup_record h)
    (List.mem_append_right _ (Summary.getElem_mem_members hi hi'))

/-! ## Columns -/

section

variable {summaries : List Json.Members} {summary : Json.Members} {name : Text}

theorem lookup_map {α : Type} {names : List Text} (f : Text → α) (h : name ∈ names) :
    (names.map fun name => (name, f name)).lookup name = some (f name) := by
  induction names with
  | nil => cases h
  | cons other names ih =>
    rw [List.map_cons, List.lookup_cons]
    by_cases heq : name = other
    · rw [heq, beq_self_eq_true]
    · rw [beq_false_of_ne heq]
      exact ih ((List.mem_cons.1 h).resolve_left heq)

/-- A cell has the form of its column. -/
theorem cellOf_eq_cell (hsummary : summary ∈ summaries) (name : Text) :
    cellOf (formsOf summaries) summary name
      = (ColumnForm.ofEntries (entriesOf summaries name)).cell (summary.get? name) := by
  unfold cellOf formsOf
  cases h : summary.get? name with
  | none =>
    -- the cell is empty, whether or not another summary has the name
    split
    · rfl
    · rfl
  | some v =>
    have hname : name ∈ namesOf summaries := by
      unfold Json.Members.get? at h
      obtain ⟨m, hm, -⟩ := Option.map_eq_some_iff.1 h
      have heq : m.1 = name := by simpa using List.find?_some hm
      rw [namesOf, List.mem_eraseDups, List.mem_flatMap]
      exact ⟨summary, hsummary, List.mem_map.2 ⟨m, List.mem_of_find?_eq_some hm, heq⟩⟩
    rw [lookup_map _ hname]

/-- The name of a row is the run, as it is. -/
theorem cellOf_nameColumn {run : Text} (hsummary : summary ∈ summaries)
    (h : summary.get? nameColumn = some (.str run)) :
    cellOf (formsOf summaries) summary nameColumn = .value (.str run) := by
  rw [cellOf_eq_cell hsummary, h]
  rfl

end

/-! ## Rows -/

variable {records : List (SummaryName × Summary)} {r : SummaryName × Summary}

/-- The row of a summary. -/
def rowFor (r : SummaryName × Summary) : TableRow where
  name := .value (.str r.1.run)
  phase := some r.1.phase
  values := r.2.quantities.map fun q => .value q.toJson

/-- **The cells of a row** are the quantities of its summary. -/
theorem cellOf_entryNames (hmade : ∀ r ∈ records, r.2.WellMade) (hr : r ∈ records) {i : Nat}
    (hi : i < Summary.entryNames.length) (hi' : i < r.2.quantities.length) :
    cellOf (formsOf (records.map fun r => record r.1 r.2)) (record r.1 r.2) Summary.entryNames[i]
      = .value r.2.quantities[i].toJson := by
  have hget := get?_entryNames (n := r.1) (hmade r hr) hi hi'
  rw [cellOf_eq_cell (List.mem_map.2 ⟨r, hr, rfl⟩), hget]
  -- the entries of a column are all of the kind of this one
  have halike : ∀ r' ∈ records, ∃ q, r.2.quantities[i].Alike q
      ∧ (record r'.1 r'.2).get? Summary.entryNames[i] = some q.toJson := by
    intro r' hr'
    have hforall := Summary.forall₂_quantities (hmade r hr) (hmade r' hr')
    have hi'' : i < r'.2.quantities.length := hforall.length_eq ▸ hi'
    exact ⟨r'.2.quantities[i], hforall.get hi' hi'', get?_entryNames (hmade r' hr') hi hi''⟩
  obtain ⟨_, ⟨⟨n, hn, -⟩, -⟩ | ⟨⟨x, hx, hnumber⟩, -⟩, -⟩ := halike r hr
  · rw [hn]
    refine ColumnForm.cell_int ?_ n
    intro entry hentry
    obtain ⟨summary, hsummary, rfl⟩ := List.mem_map.1 hentry
    obtain ⟨r', hr', rfl⟩ := List.mem_map.1 hsummary
    obtain ⟨q, ⟨-, m, rfl, -⟩ | ⟨⟨x, hx, -⟩, -⟩, hq⟩ := halike r' hr'
    · exact ⟨m, hq⟩
    · rw [hn] at hx
      cases hx
  · rw [hx]
    refine ColumnForm.cell_float _ ?_
    rintro rfl
    cases hnumber

/-- The row of a summary in a table shows the summary. -/
theorem rowOf_eq_rowFor (hmade : ∀ r ∈ records, r.2.WellMade) (hr : r ∈ records) :
    rowOf (formsOf (records.map fun r => record r.1 r.2)) (record r.1 r.2) (some r.1.phase)
      = rowFor r := by
  have hmem : record r.1 r.2 ∈ records.map fun r => record r.1 r.2 := List.mem_map.2 ⟨r, hr, rfl⟩
  have hname := cellOf_nameColumn hmem (get?_nameColumn (hmade r hr))
  have hlength := Summary.length_quantities (hmade r hr)
  unfold rowOf rowFor
  rw [hname]
  congr 1
  refine List.ext_getElem (by rw [List.length_map, List.length_map, hlength]) ?_
  intro i hi hi'
  rw [List.length_map] at hi hi'
  rw [List.getElem_map, List.getElem_map]
  exact cellOf_entryNames hmade hr hi hi'

theorem phaseOf_name (phase : Phase) : phaseOf (some (.str phase.name)) = .ok (some phase) := by
  cases phase <;> decide

theorem map_zip_rowOf {β : Type} (forms : List (Text × ColumnForm))
    (entries : SummaryName × β → Json.Members) (read : List (SummaryName × β)) :
    ((read.map entries).zip (read.map fun r => some r.1.phase)).map
        (fun (summary, phase) => rowOf forms summary phase)
      = read.map fun r => rowOf forms (entries r) (some r.1.phase) := by
  rw [List.zip_map', List.map_map]
  rfl

/-- **The table of some summaries**, each with a run and a phase, has a row for each. -/
theorem ofSummaries_map {β : Type} {read : List (SummaryName × β)}
    (entries : SummaryName × β → Json.Members)
    (hname : ∀ r ∈ read, (entries r).get? nameColumn = some (.str r.1.run))
    (hphase : ∀ r ∈ read, (entries r).get? phaseColumn = some (.str r.1.phase.name)) :
    ofSummaries (read.map entries)
      = .ok ⟨((read.map fun r => (NameKey.text r.1.run,
          rowOf (formsOf (read.map entries)) (entries r) (some r.1.phase))).mergeSort
        rowNotAfter).map (·.2)⟩ := by
  obtain ⟨row, hrow⟩ : ∃ row : SummaryName × β → TableRow, row = fun r =>
    rowOf (formsOf (read.map entries)) (entries r) (some r.1.phase) := ⟨_, rfl⟩
  have hphases : (entriesOf (read.map entries) phaseColumn).mapM phaseOf
      = .ok (read.map fun r => some r.1.phase) := by
    rw [entriesOf, List.map_map, List.mapM_map]
    refine mapM_of_forall ?_
    intro r hr
    show phaseOf ((entries r).get? phaseColumn) = _
    rw [hphase r hr, phaseOf_name]
  have hrows := map_zip_rowOf (formsOf (read.map entries)) entries read
  rw [← hrow] at hrows
  have hkeys : ((read.map row).map (·.name)).mapM NameKey.ofCell
      = .ok (read.map fun r => NameKey.text r.1.run) := by
    rw [List.map_map, List.mapM_map]
    refine mapM_of_forall ?_
    intro r hr
    rw [hrow]
    show NameKey.ofCell (cellOf (formsOf (read.map entries)) (entries r) nameColumn) = _
    rw [cellOf_nameColumn (List.mem_map.2 ⟨r, hr, rfl⟩) (hname r hr)]
    rfl
  have hzip : (read.map fun r => NameKey.text r.1.run).zip (read.map row)
      = read.map fun r => (NameKey.text r.1.run, row r) := List.zip_map' ..
  unfold ofSummaries
  refine bind_eq_ok_iff.2 ⟨read.map fun r => some r.1.phase, hphases, bind_eq_ok_iff.2
    ⟨read.map fun r => NameKey.text r.1.run, (congrArg _ (congrArg _ hrows)).trans hkeys, ?_⟩⟩
  rw [hrows, hzip, hrow]
  rfl

/-- **The table of well made summaries** shows each of them in its row. -/
theorem ofSummaries_records (hmade : ∀ r ∈ records, r.2.WellMade) :
    ofSummaries (records.map fun r => record r.1 r.2)
      = .ok ⟨((records.map fun r => (NameKey.text r.1.run, rowFor r)).mergeSort rowNotAfter).map
        (·.2)⟩ := by
  have htable := ofSummaries_map (fun r => record r.1 r.2)
    (fun r hr => get?_nameColumn (hmade r hr)) fun r hr => get?_phaseColumn (hmade r hr)
  have hrows : (records.map fun r => (NameKey.text r.1.run,
        rowOf (formsOf (records.map fun r => record r.1 r.2)) (record r.1 r.2) (some r.1.phase)))
      = records.map fun r => (NameKey.text r.1.run, rowFor r) :=
    List.map_congr_left fun r hr => congrArg _ (rowOf_eq_rowFor hmade hr)
  rw [htable, hrows]

/-! ## Two rows -/

theorem mergeSort_pair_of_not {α : Type} {le : α → α → Bool} {a b : α} (h : le a b = false) :
    [a, b].mergeSort le = [b, a] := by
  simp [List.mergeSort, List.MergeSort.Internal.splitInTwo, h]

/-- The rows of one run are sorted by phase. -/
theorem rowNotAfter_same (run : Text) (a b : TableRow) :
    rowNotAfter (.text run, a) (.text run, b) = decide (phaseRank a.phase ≤ phaseRank b.phase) := by
  have hself : (NameKey.text run).before (.text run) = false := Text.before_self run
  unfold rowNotAfter
  rw [hself]
  rfl

/-- **The summaries of one run** stand in the order of the phases, in whichever order they are
read. -/
theorem mergeSort_phases (run : Text) (row : Phase → TableRow)
    (hrow : ∀ phase, (row phase).phase = some phase) {phases : List Phase}
    (h : phases.Perm Phase.all) :
    (phases.map fun phase => (NameKey.text run, row phase)).mergeSort rowNotAfter
      = Phase.all.map fun phase => (NameKey.text run, row phase) := by
  rcases List.perm_pair.1 h with rfl | rfl
  · refine List.mergeSort_of_pairwise ?_
    rw [List.map_cons, List.map_singleton, List.pairwise_pair, rowNotAfter_same, hrow, hrow]
    decide
  · refine mergeSort_pair_of_not ?_
    rw [rowNotAfter_same, hrow, hrow]
    decide

end SummaryTable

end PhaseSplit
