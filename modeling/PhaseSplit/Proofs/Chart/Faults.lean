import Mathlib.Tactic
import PhaseSplit.Proofs.Files.Faults
import PhaseSplit.Proofs.Session

/-!
# Why charts fail

The samples of a chart are a function of the machine and the files, once the directory of the charts
has been made.  Charts fail for that directory, also where too many above it are missing, for an
output that the machine does not open or that cannot be read as a table of samples, or for samples
that cannot be drawn.

* `chartSamplesIn`, `computes_loadSamples`: the samples of a split in some files;
* `ChartFault.Cause`, `plotSplit_cause`: why charts fail.
-/

namespace PhaseSplit

/-! ## Loading -/

/-- The samples of a phase in what a path stands for on a machine with some files. -/
def readOutput (host : Host) (t : FileTree) (phase : Phase) (path : Text) :
    Except ChartFault (Option ChartSamples) := do
  let content ← (host.read t path).mapError .ofAccess
  let samples ← ChartSamples.ofBytes phase content
  return some samples

/-- The samples of a phase in the output at a path, if it is there. -/
def outputIn (host : Host) (t : FileTree) (phase : Phase) (path : Text) :
    Except ChartFault (Option ChartSamples) :=
  if t.pathExists path then readOutput host t phase path else .ok none

/-- The samples of the split of a file, if there are any. -/
def chartSamplesIn (host : Host) (t : FileTree) (path : Text) :
    Except ChartFault (Option ChartSamples) := do
  let outputs := (OutputPaths.ofInput path).samples
  let warmup ← outputIn host t .warmup outputs.warmup
  let measurement ← outputIn host t .measurement outputs.measurement
  return (ChartSamples.joined? warmup measurement).filter (·.count ≠ 0)

section

variable {host : Host} {t : FileTree} {path : Text} {phase : Phase} {e : ChartFault}

theorem computes_loadOutput (phase : Phase) (path : Text) :
    Session.Computes (loadOutput phase path) fun host t => outputIn host t phase path := by
  unfold loadOutput
  refine Session.Computes.get
    (y := fun w host t =>
      if w.files.pathExists path then readOutput host t phase path else .ok none)
    (fun w => ?_) fun w => rfl
  split
  · refine (Session.Computes.fetch _ _).bind fun content => ?_
    refine (Session.Computes.ofExcept_id _).bind fun samples => ?_
    exact (Session.Computes.say _).bind fun _ => Session.Computes.pure _
  · exact (Session.Computes.say _).bind fun _ => Session.Computes.pure _

/-- **Loading samples only looks at the files.** -/
theorem computes_loadSamples (path : Text) :
    Session.Computes (loadSamples path) fun host t => chartSamplesIn host t path := by
  refine (computes_loadOutput _ _).bind fun warmup => ?_
  exact (computes_loadOutput _ _).bind fun measurement => Session.Computes.pure _

/-- Where samples of an output that is there cannot be read, it is a directory, or the machine does
not open it and its path is not ordinary, or its bytes are no table of samples. -/
theorem outputIn_eq_error (h : outputIn host t phase path = .error e) :
    (∃ f, e = .file f ∧ f.telling ≠ none)
      ∨ (∃ f, e = .ofAccess f ∧ Path.isOrdinary path = false ∧ host.fetch t path = .error f)
      ∨ ∃ content, host.read t path = .ok content
        ∧ ChartSamples.ofBytes phase content = .error e := by
  unfold outputIn at h
  split at h
  · next hthere =>
    rcases bind_eq_error_iff.1 h with h | ⟨content, hread, h⟩
    · obtain ⟨f, hf, rfl⟩ := mapError_eq_error_iff.1 h
      unfold Host.read at hf
      split at hf
      · obtain ⟨g, hg, rfl⟩ := mapError_eq_error_iff.1 hf
        refine .inl ⟨g, rfl, fun hsilent => ?_⟩
        exact FileTree.not_unusable_of_pathExists hthere (FileTree.unusable_of_read hg hsilent)
      · next hordinary => exact .inr (.inl ⟨f, rfl, by simpa using hordinary, hf⟩)
    rcases bind_eq_error_iff.1 h with h | ⟨samples, -, h⟩
    · exact .inr (.inr ⟨content, mapError_eq_ok_iff.1 hread, h⟩)
    · cases h
  · cases h

end

/-! ## Charts -/

/-- The files in which charts are made: with the directory of the charts. -/
def chartFiles (t : FileTree) (r : PlotRequest) : FileTree := (t.makeDirectories r.directory).1

/-- What makes the charts of a split end with a fault on a machine, in these files. -/
inductive ChartFault.Cause (host : Host) (t : FileTree) (r : PlotRequest) : ChartFault → Prop
  | file (e : FileFault) (h : e.telling = none → Path.Unusable r.directory) :
    Cause host t r (.file e)
  | directories (h : host.makingRoom < t.missingAbove r.directory) : Cause host t r .directories
  | access (e : AccessFault)
      (h : ∃ phase, Path.isOrdinary ((OutputPaths.ofInput r.path).samples.get phase) = false
        ∧ host.fetch (chartFiles t r) ((OutputPaths.ofInput r.path).samples.get phase)
          = .error e) :
    Cause host t r (.ofAccess e)
  | output (e : ChartFault)
      (h : ∃ phase content,
        host.read (chartFiles t r) ((OutputPaths.ofInput r.path).samples.get phase) = .ok content
          ∧ ChartSamples.ofBytes phase content = .error e) :
    Cause host t r e
  | timeline (e : ChartFault) (samples : ChartSamples)
      (hread : chartSamplesIn host (chartFiles t r) r.path = .ok (some samples))
      (h : Timeline.ofSamples samples = .error e) :
    Cause host t r e
  | histogram (e : ChartFault) (samples : ChartSamples)
      (hread : chartSamplesIn host (chartFiles t r) r.path = .ok (some samples))
      (h : Histogram.check samples.latencies = .error e) :
    Cause host t r e
  | figure (e : LibraryFault) (samples : ChartSamples)
      (hread : chartSamplesIn host (chartFiles t r) r.path = .ok (some samples))
      (h : ∃ figure, host.draw figure = some e) :
    Cause host t r (.library e)

section

variable {host : Host} {t : FileTree} {r : PlotRequest} {samples : Option ChartSamples}
  {w w' : World} {e : ChartFault}

theorem cause_of_outputIn (phase : Phase)
    (h : outputIn host (chartFiles t r) phase ((OutputPaths.ofInput r.path).samples.get phase)
      = .error e) :
    e.Cause host t r := by
  rcases outputIn_eq_error h with
    ⟨f, rfl, htold⟩ | ⟨f, rfl, hordinary, hfetch⟩ | ⟨content, hread, hbytes⟩
  · exact .file f fun hsilent => absurd hsilent htold
  · exact .access f ⟨phase, hordinary, hfetch⟩
  · exact .output e ⟨phase, content, hread, hbytes⟩

theorem cause_of_chartSamplesIn (h : chartSamplesIn host (chartFiles t r) r.path = .error e) :
    e.Cause host t r := by
  unfold chartSamplesIn at h
  rcases bind_eq_error_iff.1 h with h | ⟨warmup, -, h⟩
  · exact cause_of_outputIn .warmup h
  · rcases bind_eq_error_iff.1 h with h | ⟨measurement, -, h⟩
    · exact cause_of_outputIn .measurement h
    · cases h

/-- A figure is refused silently only in an unusable directory. -/
theorem cause_of_write_figure {t' : FileTree} {name : Text} {f : FileFault}
    (hname : ∀ g ∈ name, g.isHalf = false ∧ g ≠ .char '\x00')
    (h : t'.write (Path.join r.directory name) [] = .error f) :
    (ChartFault.file f).Cause host t r := by
  refine .file f fun hsilent => ?_
  refine (FileTree.unusable_of_write h hsilent).of_glyphs fun g hg => ?_
  rcases Path.mem_of_mem_join hg with hg | hg | rfl
  · exact .inl hg
  · exact .inr (hname g hg)
  · exact .inr (by decide)

theorem failsFor_plotSamples
    (hread : chartSamplesIn host (chartFiles t r) r.path = .ok samples) :
    Session.FailsFor host (ChartFault.Cause host t r) (plotSamples samples r.directory) := by
  cases samples with
  | none =>
    exact (Session.FailsFor.say _).bind fun _ =>
      (Session.FailsFor.say _).bind fun _ => Session.FailsFor.pure _
  | some samples =>
    have hdraw : ∀ (figure : Figure) f, host.draw figure = some f →
        (ChartFault.library f).Cause host t r :=
      fun figure f h => .figure f samples hread ⟨figure, h⟩
    refine Session.FailsFor.bind ?timeline fun _ => Session.FailsFor.bind ?histogram fun _ =>
      Session.FailsFor.pure _
    case timeline =>
      refine (Session.FailsFor.ofExcept fun e h => .timeline e samples hread h).bind fun _ => ?_
      refine (Session.FailsFor.saveFigure (hdraw _) fun t' f h => ?_).bind fun _ =>
        (Session.FailsFor.say _).bind fun _ => Session.FailsFor.pure _
      exact cause_of_write_figure (by decide) h
    case histogram =>
      refine (Session.FailsFor.ofExcept fun e h => .histogram e samples hread h).bind fun _ => ?_
      refine (Session.FailsFor.saveFigure (hdraw _) fun t' f h => ?_).bind fun _ =>
        (Session.FailsFor.say _).bind fun _ => Session.FailsFor.pure _
      exact cause_of_write_figure (by decide) h

/-- **Why charts fail.** -/
theorem plotSplit_cause (h : (plotSplit r.path r.directory).result w = (.error e, w')) :
    e.Cause w.host w.files r := by
  unfold plotSplit at h
  rcases Session.result_bind_eq_error_iff.1 h with h | ⟨_, v, hmade, h⟩
  · rcases Session.cause_of_makeDirectories h with ⟨rfl, hroom⟩ | ⟨t, f, hf, rfl⟩
    · exact .directories hroom
    · exact .file f fun hsilent => FileTree.unusable_of_makeDirectories hf hsilent
  · obtain ⟨hfiles, hhost⟩ := Session.eq_of_makeDirectories hmade
    have hchart : chartFiles w.files r = v.files := hfiles
    rw [← hhost]
    obtain ⟨log, hload⟩ := computes_loadSamples r.path v
    rw [Session.result_bind, hload] at h
    dsimp only at h
    cases hsamples : chartSamplesIn v.host v.files r.path with
    | error f =>
      rw [hsamples] at h
      cases h
      exact cause_of_chartSamplesIn (hchart ▸ hsamples)
    | ok samples =>
      rw [hsamples] at h
      exact Session.FailsFor.cause (failsFor_plotSamples (hchart ▸ hsamples)) h rfl

end

end PhaseSplit
