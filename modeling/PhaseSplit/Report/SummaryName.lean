import PhaseSplit.Split.OutputPaths

/-!
# Names of summary files

A summary file is named for a run and a phase.

* `SummaryName.ofPath?` — the run and the phase that a path names;
* `SummaryName.ofFileName?_eq_some_iff` — exactly the names written for a run and a phase are read.
-/

namespace PhaseSplit

/-- What the name of a summary file says: a run, whose name is not empty, and a phase. -/
structure SummaryName where
  run : Text
  phase : Phase
  deriving DecidableEq

namespace SummaryName

/-- The file name for a run and a phase. -/
def fileName (n : SummaryName) : Text :=
  OutputPaths.outputName n.run n.phase OutputPaths.summaryEnding

/-- The run in a stem that ends in the name of a phase. -/
def runOf? (stem : Text) (phase : Phase) : Option SummaryName := do
  let run ← Text.dropTail? (Text.lit "-" ++ phase.name) stem
  if run = [] then none else some ⟨run, phase⟩

/-- The run and the phase that a file name says. -/
def ofFileName? (name : Text) : Option SummaryName := do
  let stem ← Text.dropTail? OutputPaths.summaryEnding name
  Phase.all.findSome? (runOf? stem)

/-- The run and the phase that the file name of a path says. -/
def ofPath? (path : Text) : Option SummaryName := ofFileName? (Path.fileName path)

theorem runOf?_eq_some_iff {stem : Text} {phase : Phase} {n : SummaryName} :
    runOf? stem phase = some n ↔
      n.run ≠ [] ∧ n.phase = phase ∧ stem = n.run ++ (Text.lit "-" ++ phase.name) := by
  obtain ⟨run, p⟩ := n
  simp only [runOf?, Option.bind_eq_bind, Option.bind_eq_some_iff, Text.dropTail?_eq_some_iff]
  constructor
  · rintro ⟨r, rfl, h⟩
    split at h
    · cases h
    · next hr => cases h; exact ⟨hr, rfl, rfl⟩
  · rintro ⟨hr, rfl, rfl⟩
    exact ⟨run, rfl, if_neg hr⟩

/-- The endings of the two phases differ in their last letter. -/
theorem phase_eq_of_append_eq {r s : Text} {p q : Phase}
    (h : r ++ (Text.lit "-" ++ p.name) = s ++ (Text.lit "-" ++ q.name)) : p = q := by
  have h := congrArg List.getLast? h
  cases p <;> cases q <;> first | rfl | simp [Phase.name, Text.lit, Text.ofChars] at h

/-- Reading gives the run and the phase exactly of the names written for them. -/
theorem ofFileName?_eq_some_iff {name : Text} {n : SummaryName} :
    ofFileName? name = some n ↔ n.run ≠ [] ∧ name = n.fileName := by
  simp only [ofFileName?, Option.bind_eq_bind, Option.bind_eq_some_iff,
    Text.dropTail?_eq_some_iff, fileName, OutputPaths.outputName, Phase.all, List.findSome?_cons,
    List.findSome?_nil]
  constructor
  · rintro ⟨stem, rfl, h⟩
    split at h
    · next m hm =>
      cases h
      obtain ⟨hr, hp, rfl⟩ := runOf?_eq_some_iff.1 hm
      simp [hr, hp]
    · split at h
      · next m hm =>
        cases h
        obtain ⟨hr, hp, rfl⟩ := runOf?_eq_some_iff.1 hm
        simp [hr, hp]
      · cases h
  · rintro ⟨hr, rfl⟩
    refine ⟨n.run ++ (Text.lit "-" ++ n.phase.name), by simp, ?_⟩
    have own : runOf? (n.run ++ (Text.lit "-" ++ n.phase.name)) n.phase = some n :=
      runOf?_eq_some_iff.2 ⟨hr, rfl, rfl⟩
    cases hp : n.phase with
    | warmup => rw [hp] at own; rw [own]
    | measurement =>
      rw [hp] at own
      have other : runOf? (n.run ++ (Text.lit "-" ++ Phase.measurement.name)) .warmup = none := by
        rw [Option.eq_none_iff_forall_ne_some]
        intro m hm
        have := phase_eq_of_append_eq (runOf?_eq_some_iff.1 hm).2.2
        cases this
      rw [other, own]

end SummaryName

end PhaseSplit
