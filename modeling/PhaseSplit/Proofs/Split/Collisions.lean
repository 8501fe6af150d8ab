import Mathlib.Tactic
import PhaseSplit.Proofs.Split.Frame
import PhaseSplit.Report.SummaryName

/-!
# When outputs collide

The outputs of a split stand next to its input under longer names, and no two of them have the same
name.  Two inputs in one directory can have outputs in common.  A name without an extension to keep
is given the default one, so its outputs are those of the name that is written with it; and a
summary is named after an input without its extension.

* `Path.splitExtension_eq_iff`: which stem and which extension a file name has;
* `OutputPaths.ofInput_apart`: the outputs, their input and each other;
* `OutputPaths.outputName_inj`: the name of an output says the stem, the phase and the ending;
* `OutputPaths.stemOf_eq_iff`: which names have the same stem and the same extension;
* `OutputPaths.ofInput_collide_iff`: the outputs of two inputs in one directory.
-/

namespace PhaseSplit

/-! ## Extensions -/

namespace Path

variable {name stem extension : Text}

/-- **Stem and extension of a file name.**  The extension starts at the last dot, and the stem does
not consist of dots. -/
theorem splitExtension_eq_iff :
    splitExtension name = (stem, dot :: extension)
      ↔ name = stem ++ dot :: extension ∧ dot ∉ extension ∧ ∃ g ∈ stem, g ≠ dot := by
  constructor
  · intro h
    have happend := splitExtension_append name
    rw [h] at happend
    refine ⟨happend.symm, ?_⟩
    unfold splitExtension at h
    dsimp only at h
    split at h
    · cases h
    · next hdots =>
      cases h
      refine ⟨not_mem_afterLast dot name, ?_⟩
      simpa using hdots
  · rintro ⟨rfl, hextension, hstem⟩
    have hdots : ¬stem.all (· = dot) = true := by simpa using hstem
    unfold splitExtension
    rw [uptoLast_append hextension, afterLast_append hextension, List.dropLast_concat]
    dsimp only
    rw [if_neg hdots]

/-- An extension begins with its dot. -/
theorem exists_extension (h : (splitExtension name).2 ≠ []) :
    ∃ extension, splitExtension name = ((splitExtension name).1, dot :: extension) := by
  unfold splitExtension at h ⊢
  dsimp only at h ⊢
  split at h
  · exact absurd rfl h
  · next hdots => exact ⟨_, by rw [if_neg hdots]⟩

end Path

namespace OutputPaths

variable {path name name' stem stem' ending ending' : Text} {phase phase' : Phase}

/-! ## One input -/

theorem directory_of_mem_all {output : Text} (h : output ∈ (ofInput path).all) :
    Path.directory output = Path.directory path := by
  rcases mem_all_iff.1 h with ⟨phase, rfl⟩ | ⟨phase, rfl⟩
  · rw [samples_get, Path.directory_join (isName_sampleName path phase).no_slash]
  · rw [summaries_get, Path.directory_join (isName_summaryName path phase).no_slash]

theorem length_fileName_lt_of_mem_all {output : Text} (h : output ∈ (ofInput path).all) :
    (Path.fileName path).length < (Path.fileName output).length := by
  have hle := length_fileName_le path
  rcases mem_all_iff.1 h with ⟨phase, rfl⟩ | ⟨phase, rfl⟩
  · rw [samples_get, Path.fileName_join (isName_sampleName path phase).no_slash,
      length_sampleName]
    omega
  · rw [summaries_get, Path.fileName_join (isName_summaryName path phase).no_slash,
      length_summaryName]
    omega

theorem nodup_all (path : Text) : (ofInput path).all.Nodup := by
  have hsamples : (ofInput path).samples.get .warmup ≠ (ofInput path).samples.get .measurement := by
    rw [samples_get, samples_get, ne_eq, Path.join_directory_inj
      (isName_sampleName path _).no_slash (isName_sampleName path _).no_slash]
    exact sampleName_ne_sampleName path (by decide)
  have hsummaries : (ofInput path).summaries.get .warmup
      ≠ (ofInput path).summaries.get .measurement := by
    rw [summaries_get, summaries_get, ne_eq, Path.join_directory_inj
      (isName_summaryName path _).no_slash (isName_summaryName path _).no_slash]
    exact summaryName_ne_summaryName path (by decide)
  have hkinds := samples_ne_summaries path
  unfold all
  simp [hsamples, hsummaries, hkinds]

/-- **The outputs of an input stand apart.**  They are next to the input under longer names, and no
two of them are one path. -/
theorem ofInput_apart (path : Text) :
    (ofInput path).all.Nodup
      ∧ ∀ output ∈ (ofInput path).all, output ≠ path
        ∧ Path.directory output = Path.directory path
        ∧ (Path.fileName path).length < (Path.fileName output).length := by
  refine ⟨nodup_all path, ?_⟩
  intro output h
  have hlength := length_fileName_lt_of_mem_all h
  refine ⟨?_, directory_of_mem_all h, hlength⟩
  rintro rfl
  exact lt_irrefl _ hlength

/-- The outputs of a path that ends in a slash, whose file name is empty. -/
theorem ofInput_apart_emptyName :
    Text.lit "runs/-warmup.jtl" ∈ (ofInput (Text.lit "runs//")).all
      ∧ Text.lit "runs/-warmup.jtl" ≠ Text.lit "runs//"
      ∧ Path.directory (Text.lit "runs/-warmup.jtl") = Path.directory (Text.lit "runs//")
      ∧ (Path.fileName (Text.lit "runs//")).length
        < (Path.fileName (Text.lit "runs/-warmup.jtl")).length := by
  have hmem : Text.lit "runs/-warmup.jtl" ∈ (ofInput (Text.lit "runs//")).all := by decide
  exact ⟨hmem, (ofInput_apart (Text.lit "runs//")).2 _ hmem⟩

/-! ## The names of outputs -/

/-- **The name of an output** says its stem, its phase and its ending, if the length of the ending
is known. -/
theorem outputName_inj (hlength : ending.length = ending'.length) :
    outputName stem phase ending = outputName stem' phase' ending'
      ↔ stem = stem' ∧ phase = phase' ∧ ending = ending' := by
  constructor
  · intro h
    obtain ⟨hfront, hending⟩ := List.append_inj' h hlength
    rw [List.append_assoc, List.append_assoc] at hfront
    obtain rfl := SummaryName.phase_eq_of_append_eq hfront
    exact ⟨List.append_cancel_right hfront, rfl, hending⟩
  · rintro ⟨rfl, rfl, rfl⟩
    rfl

/-! ## Two inputs -/

/-- A name without the extension that its outputs of samples keep, if it has one. -/
def bareName (name : Text) : Text :=
  if (Path.splitExtension name).2.length = extensionLength then (Path.splitExtension name).1
  else name

/-- One name is another with the default extension, and that other one has no extension to keep. -/
structure Shadows (name longer : Text) : Prop where
  longer_eq : longer = name ++ defaultExtension
  not_dots : ∃ g ∈ name, g ≠ Path.dot
  not_kept : (Path.splitExtension name).2.length ≠ extensionLength

theorem stemOf_of_not_kept (h : (Path.splitExtension name).2.length ≠ extensionLength) :
    stemOf name = (name, defaultExtension) := by
  unfold stemOf
  dsimp only
  rw [if_pos (by simp [h])]

/-- An extension that is kept begins with its dot. -/
theorem exists_of_kept (h : (Path.splitExtension name).2.length = extensionLength) :
    ∃ extension, Path.splitExtension name
      = ((Path.splitExtension name).1, Path.dot :: extension) := by
  apply Path.exists_extension
  intro hnil
  rw [hnil] at h
  cases h

theorem stemOf_of_kept (h : (Path.splitExtension name).2.length = extensionLength) :
    stemOf name = Path.splitExtension name := by
  obtain ⟨extension, hsplit⟩ := exists_of_kept h
  obtain ⟨-, -, g, hg, -⟩ := Path.splitExtension_eq_iff.1 hsplit
  have hstem : (Path.splitExtension name).1 ≠ [] := List.ne_nil_of_mem hg
  unfold stemOf
  dsimp only
  rw [if_neg (by simp [h, hstem])]

theorem stemOf_fst (name : Text) : (stemOf name).1 = bareName name := by
  unfold bareName
  split
  · next h => rw [stemOf_of_kept h]
  · next h => rw [stemOf_of_not_kept h]

theorem head?_extension (name : Text) : (stemOf name).2.head? = some Path.dot := by
  by_cases h : (Path.splitExtension name).2.length = extensionLength
  · obtain ⟨extension, hsplit⟩ := exists_of_kept h
    rw [stemOf_of_kept h, hsplit]
    rfl
  · rw [stemOf_of_not_kept h]
    rfl

/-- No output of samples has the name of a summary, whatever their inputs. -/
theorem outputName_ne_summary (name : Text) :
    outputName stem phase (stemOf name).2 ≠ outputName stem' phase' summaryEnding := by
  intro h
  -- the last four glyphs of a summary do not start with a dot
  have hsummary : outputName stem' phase' summaryEnding
      = outputName stem' phase' (Text.lit "-summary.") ++ Text.lit "json" := by
    unfold outputName
    rw [List.append_assoc _ (Text.lit "-summary.")]
    rfl
  rw [hsummary] at h
  have hlength : (stemOf name).2.length = (Text.lit "json").length := length_extension name
  have hextension := (List.append_inj' h hlength).2
  have hhead := head?_extension name
  rw [hextension] at hhead
  exact absurd hhead (by decide)

theorem splitExtension_eq_default_iff :
    Path.splitExtension name' = (name, defaultExtension)
      ↔ name' = name ++ defaultExtension ∧ ∃ g ∈ name, g ≠ Path.dot := by
  have hdefault : defaultExtension = Path.dot :: Text.lit "jtl" := by decide
  have hdot : Path.dot ∉ Text.lit "jtl" := by decide
  rw [hdefault, Path.splitExtension_eq_iff, and_iff_right hdot]

theorem Shadows.kept (h : Shadows name name') :
    (Path.splitExtension name').2.length = extensionLength := by
  rw [splitExtension_eq_default_iff.2 ⟨h.longer_eq, h.not_dots⟩]
  rfl

/-- Of two names of which only the second has an extension that is kept, the stems and the
extensions are the same when the second is the first with the default extension. -/
theorem stemOf_eq_iff_shadows (h : (Path.splitExtension name).2.length ≠ extensionLength)
    (h' : (Path.splitExtension name').2.length = extensionLength) :
    stemOf name = stemOf name' ↔ Shadows name name' := by
  rw [stemOf_of_not_kept h, stemOf_of_kept h', eq_comm, splitExtension_eq_default_iff]
  exact ⟨fun ⟨hname, hdots⟩ => ⟨hname, hdots, h⟩,
    fun hshadows => ⟨hshadows.longer_eq, hshadows.not_dots⟩⟩

/-- **Names with the same stem and the same extension**, if they are different. -/
theorem stemOf_eq_iff (hne : name ≠ name') :
    stemOf name = stemOf name' ↔ Shadows name name' ∨ Shadows name' name := by
  by_cases h : (Path.splitExtension name).2.length = extensionLength
  · by_cases h' : (Path.splitExtension name').2.length = extensionLength
    · have hapart : stemOf name ≠ stemOf name' := by
        rw [stemOf_of_kept h, stemOf_of_kept h']
        intro hsplit
        apply hne
        rw [← Path.splitExtension_append name, ← Path.splitExtension_append name', hsplit]
      refine iff_of_false hapart ?_
      rintro (hshadows | hshadows)
      · exact hshadows.not_kept h
      · exact hshadows.not_kept h'
    · rw [eq_comm, stemOf_eq_iff_shadows h' h, or_iff_right]
      exact fun hshadows => hshadows.not_kept h
  · by_cases h' : (Path.splitExtension name').2.length = extensionLength
    · rw [stemOf_eq_iff_shadows h h', or_iff_left]
      exact fun hshadows => hshadows.not_kept h'
    · have hapart : stemOf name ≠ stemOf name' := by
        rw [stemOf_of_not_kept h, stemOf_of_not_kept h']
        exact fun hstem => hne (congrArg Prod.fst hstem)
      refine iff_of_false hapart ?_
      rintro (hshadows | hshadows)
      · exact h' hshadows.kept
      · exact h hshadows.kept

/-- Outputs of two inputs in one directory are one path when their names are the same. -/
theorem join_eq_join_iff {p q : Text} (hdirectory : Path.directory p = Path.directory q)
    (h : FileTree.IsName name) (h' : FileTree.IsName name') :
    Path.join (Path.directory p) name = Path.join (Path.directory q) name' ↔ name = name' := by
  rw [← hdirectory]
  exact Path.join_directory_inj h.no_slash h'.no_slash

/-- **When the outputs of two inputs collide.**  Of two inputs in one directory, the outputs of
samples of a phase are one path when one name is the other with the default extension and that
other one is not all dots and has no extension that is kept; the summaries of a phase are one path
when the names are the same without the extensions that are kept.  Outputs of different phases and
of different kinds are never one path. -/
theorem ofInput_collide_iff {p q : Text} (hdirectory : Path.directory p = Path.directory q)
    (hne : Path.fileName p ≠ Path.fileName q) :
    (∀ phase, (ofInput p).samples.get phase = (ofInput q).samples.get phase
        ↔ Shadows (Path.fileName p) (Path.fileName q)
          ∨ Shadows (Path.fileName q) (Path.fileName p))
      ∧ (∀ phase, (ofInput p).summaries.get phase = (ofInput q).summaries.get phase
        ↔ bareName (Path.fileName p) = bareName (Path.fileName q))
      ∧ (∀ phase phase', phase ≠ phase' →
        (ofInput p).samples.get phase ≠ (ofInput q).samples.get phase'
          ∧ (ofInput p).summaries.get phase ≠ (ofInput q).summaries.get phase')
      ∧ ∀ phase phase', (ofInput p).samples.get phase ≠ (ofInput q).summaries.get phase'
        ∧ (ofInput q).samples.get phase ≠ (ofInput p).summaries.get phase' := by
  have hsamples : ∀ phase phase',
      (ofInput p).samples.get phase = (ofInput q).samples.get phase'
        ↔ phase = phase' ∧ stemOf (Path.fileName p) = stemOf (Path.fileName q) := by
    intro phase phase'
    rw [samples_get, samples_get,
      join_eq_join_iff hdirectory (isName_sampleName p phase) (isName_sampleName q phase'),
      sampleName, sampleName, outputName_inj (by rw [length_extension, length_extension]),
      and_left_comm, Prod.ext_iff]
  have hsummaries : ∀ phase phase',
      (ofInput p).summaries.get phase = (ofInput q).summaries.get phase'
        ↔ phase = phase' ∧ bareName (Path.fileName p) = bareName (Path.fileName q) := by
    intro phase phase'
    rw [summaries_get, summaries_get,
      join_eq_join_iff hdirectory (isName_summaryName p phase) (isName_summaryName q phase'),
      summaryName, summaryName, outputName_inj rfl, stemOf_fst, stemOf_fst, and_left_comm,
      and_iff_left rfl]
  refine ⟨?samples, ?summaries, ?phases, ?kinds⟩
  case samples =>
    intro phase
    rw [hsamples, and_iff_right rfl, stemOf_eq_iff hne]
  case summaries =>
    intro phase
    rw [hsummaries, and_iff_right rfl]
  case phases =>
    intro phase phase' hphase
    exact ⟨fun h => hphase ((hsamples _ _).1 h).1, fun h => hphase ((hsummaries _ _).1 h).1⟩
  case kinds =>
    intro phase phase'
    rw [samples_get, samples_get, summaries_get, summaries_get, ne_eq, ne_eq,
      join_eq_join_iff hdirectory (isName_sampleName p phase) (isName_summaryName q phase'),
      join_eq_join_iff hdirectory.symm (isName_sampleName q phase) (isName_summaryName p phase')]
    exact ⟨outputName_ne_summary _, outputName_ne_summary _⟩

/-- A hidden file without an extension, and the same name with the default one. -/
theorem ofInput_collide_iff_hidden :
    Path.directory (Text.lit "runs//.load") = Path.directory (Text.lit "runs/.load.jtl")
      ∧ Path.fileName (Text.lit "runs//.load") ≠ Path.fileName (Text.lit "runs/.load.jtl")
      ∧ (ofInput (Text.lit "runs//.load")).samples.get .warmup
        = (ofInput (Text.lit "runs/.load.jtl")).samples.get .warmup
      ∧ (ofInput (Text.lit "runs//.load")).summaries.get .measurement
        = (ofInput (Text.lit "runs/.load.jtl")).summaries.get .measurement
      ∧ (ofInput (Text.lit "runs//.load")).samples.get .warmup
        ≠ (ofInput (Text.lit "runs/.load.jtl")).samples.get .measurement := by
  have hdirectory : Path.directory (Text.lit "runs//.load")
      = Path.directory (Text.lit "runs/.load.jtl") := by decide
  have hne : Path.fileName (Text.lit "runs//.load")
      ≠ Path.fileName (Text.lit "runs/.load.jtl") := by decide
  have hshadows : Shadows (Path.fileName (Text.lit "runs//.load"))
      (Path.fileName (Text.lit "runs/.load.jtl")) := ⟨by decide, by decide, by decide⟩
  obtain ⟨hsamples, hsummaries, hphases, -⟩ := ofInput_collide_iff hdirectory hne
  exact ⟨hdirectory, hne, (hsamples _).2 (.inl hshadows), (hsummaries _).2 (by decide),
    (hphases _ _ (by decide)).1⟩

end OutputPaths

end PhaseSplit
