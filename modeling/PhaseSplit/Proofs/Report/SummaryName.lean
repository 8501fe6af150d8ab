import Mathlib.Tactic
import PhaseSplit.Proofs.Report.SplitTable
import PhaseSplit.Proofs.Split.Collisions

/-!
# Names of summaries are read as they are written

The name of a summary file is written for a run and a phase.  It says both, whatever the name of the
run is: the last letters before the ending of all summaries belong to the phase, so a run may itself
be named like an output.

* `SummaryName.fileName_injective`: no two runs or phases have a file name in common;
* `SummaryName.ofPath?_eq_some_iff`, `SummaryName.ofPath?_eq_none_iff`: what a path is read as;
* `SummaryName.ofPath?_inverts_fileName`: the same in words, and for the outputs of a split.
-/

namespace PhaseSplit.SummaryName

variable {path run word : Text} {n : SummaryName}

/-- No two runs or phases have a file name in common. -/
theorem fileName_injective : Function.Injective fileName := by
  rintro ⟨run, phase⟩ ⟨run', phase'⟩ h
  obtain ⟨rfl, rfl, -⟩ := (OutputPaths.outputName_inj rfl).1 h
  rfl

theorem ofPath?_eq_some_iff :
    ofPath? path = some n ↔ n.run ≠ [] ∧ Path.fileName path = n.fileName :=
  ofFileName?_eq_some_iff

theorem ofPath?_eq_none_iff :
    ofPath? path = none ↔ ∀ n : SummaryName, n.run ≠ [] → Path.fileName path ≠ n.fileName := by
  rw [Option.eq_none_iff_forall_ne_some]
  constructor
  · intro h n hrun hname
    exact h n (ofPath?_eq_some_iff.2 ⟨hrun, hname⟩)
  · intro h n hn
    obtain ⟨hrun, hname⟩ := ofPath?_eq_some_iff.1 hn
    exact h n hrun hname

/-- The run and the word for the phase that a name says. -/
def words (n : SummaryName) : Text × Text := (n.run, n.phase.name)

/-- What a path is read as, in words. -/
theorem map_words_ofPath?_eq_some_iff :
    (ofPath? path).map words = some (run, word)
      ↔ run ≠ [] ∧ (word = Text.lit "warmup" ∨ word = Text.lit "measurement")
        ∧ Path.fileName path = run ++ Text.lit "-" ++ word ++ Text.lit "-summary.json" := by
  rw [Option.map_eq_some_iff]
  constructor
  · rintro ⟨n, hn, hwords⟩
    obtain ⟨hrun, hname⟩ := ofPath?_eq_some_iff.1 hn
    cases hwords
    refine ⟨hrun, ?_, hname⟩
    cases n.phase with
    | warmup => exact .inl rfl
    | measurement => exact .inr rfl
  · rintro ⟨hrun, rfl | rfl, hname⟩
    · exact ⟨⟨run, .warmup⟩, ofPath?_eq_some_iff.2 ⟨hrun, hname⟩, rfl⟩
    · exact ⟨⟨run, .measurement⟩, ofPath?_eq_some_iff.2 ⟨hrun, hname⟩, rfl⟩

/-- **A path is read as the run and the phase that its name is written for.**  It is read so exactly
when its file name is made of a name that is not empty, the word for a phase and the ending of
summaries; no other run and phase have this file name, and a path whose file name is not made so is
read as nothing.  So the summaries of a split are read as the stem of its outputs and their
phase. -/
theorem ofPath?_inverts_fileName :
    (∀ path run word, (ofPath? path).map words = some (run, word)
        ↔ run ≠ [] ∧ (word = Text.lit "warmup" ∨ word = Text.lit "measurement")
          ∧ Path.fileName path = run ++ Text.lit "-" ++ word ++ Text.lit "-summary.json")
      ∧ Function.Injective fileName
      ∧ (∀ path, ofPath? path = none
        ↔ ∀ n : SummaryName, n.run ≠ [] → Path.fileName path ≠ n.fileName)
      ∧ ∀ path, Path.fileName path ≠ [] → ∀ phase,
        ofPath? ((OutputPaths.ofInput path).summaries.get phase)
          = some ⟨(OutputPaths.stemOf (Path.fileName path)).1, phase⟩ :=
  ⟨fun _ _ _ => map_words_ofPath?_eq_some_iff, fileName_injective, fun _ => ofPath?_eq_none_iff,
    fun _ hname phase => OutputPaths.ofPath?_summaries hname phase⟩

/-- The summaries of an input that is named like a summary of the warmup. -/
theorem ofPath?_inverts_fileName_summary :
    Path.fileName (Text.lit "runs/a-measurement-warmup-summary.json") ≠ []
      ∧ ofPath? (Text.lit
          "runs/a-measurement-warmup-summary.json-measurement-summary.json")
        = some ⟨Text.lit "a-measurement-warmup-summary.json", .measurement⟩ := by
  have hname : Path.fileName (Text.lit "runs/a-measurement-warmup-summary.json") ≠ [] := by
    decide +kernel
  have hstem : (OutputPaths.stemOf
      (Path.fileName (Text.lit "runs/a-measurement-warmup-summary.json"))).1
      = Text.lit "a-measurement-warmup-summary.json" := by
    decide +kernel
  have hpath : (OutputPaths.ofInput
      (Text.lit "runs/a-measurement-warmup-summary.json")).summaries.get .measurement
      = Text.lit "runs/a-measurement-warmup-summary.json-measurement-summary.json" := by
    decide +kernel
  have hread := ofPath?_inverts_fileName.2.2.2 _ hname .measurement
  rw [hstem, hpath] at hread
  exact ⟨hname, hread⟩

end PhaseSplit.SummaryName
