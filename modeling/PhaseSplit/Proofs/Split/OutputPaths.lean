import Mathlib.Tactic
import PhaseSplit.Proofs.Files.Tree
import PhaseSplit.Split.OutputPaths

/-!
# The names of outputs

The four outputs of a split and its input have names of five different lengths, so each stands in a
place of its own.

* `OutputPaths.eq_of_stemOf`: the name of an input is its stem, perhaps with its extension;
* `OutputPaths.isName_outputName`: every output has a name that leads to a place of its own;
* `OutputPaths.resolve_samples_ne`, `OutputPaths.resolve_summaries_ne`,
  `OutputPaths.resolve_summaries_ne_summaries`: no two outputs are in one place;
* `OutputPaths.resolve_input_ne`, `OutputPaths.resolve_input_ne_summary`: none is in the place of
  the input;
* `OutputPaths.exists_resolve_sample`, `OutputPaths.exists_resolve_summary`: each leads somewhere if
  the input does and its name and path are not too long.
-/

namespace PhaseSplit

theorem Path.splitExtension_append (name : Text) :
    (splitExtension name).1 ++ (splitExtension name).2 = name := by
  unfold splitExtension
  dsimp only
  split
  · simp
  · next hstem =>
    by_cases hdot : dot ∈ name
    · obtain ⟨s, hs⟩ := exists_uptoLast hdot
      have hsplit := uptoLast_append_afterLast dot name
      rw [hs] at hsplit ⊢
      simpa using hsplit
    · rw [uptoLast_of_not_mem hdot] at hstem
      exact absurd rfl hstem

namespace OutputPaths

variable {name stem ending path : Text} {phase phase' : Phase}

/-! ## Stems -/

theorem length_extension (name : Text) : (stemOf name).2.length = extensionLength := by
  unfold stemOf
  dsimp only
  split
  · rfl
  · next h =>
    rw [Bool.or_eq_true, not_or] at h
    simpa using h.1

/-- The name of an input is its stem, perhaps with its extension. -/
theorem eq_of_stemOf (name : Text) :
    name = (stemOf name).1 ∨ name = (stemOf name).1 ++ (stemOf name).2 := by
  unfold stemOf
  dsimp only
  split
  · exact .inl rfl
  · exact .inr (Path.splitExtension_append name).symm

theorem not_mem_stemOf (h : Path.slash ∉ name) :
    Path.slash ∉ (stemOf name).1 ∧ Path.slash ∉ (stemOf name).2 := by
  unfold stemOf
  dsimp only
  split
  · have hdefault : Path.slash ∉ defaultExtension := by decide
    exact ⟨h, hdefault⟩
  · rw [← Path.splitExtension_append name, List.mem_append, not_or] at h
    exact h

/-! ## Names -/

/-- The name of the output of samples of a phase. -/
def sampleName (path : Text) (phase : Phase) : Text :=
  outputName (stemOf (Path.fileName path)).1 phase (stemOf (Path.fileName path)).2

/-- The name of the output of the summary of a phase. -/
def summaryName (path : Text) (phase : Phase) : Text :=
  outputName (stemOf (Path.fileName path)).1 phase summaryEnding

theorem samples_get (path : Text) (phase : Phase) :
    (ofInput path).samples.get phase = Path.join (Path.directory path) (sampleName path phase) := by
  cases phase <;> simp only [ofInput, sampleName, PerPhase.get]

theorem summaries_get (path : Text) (phase : Phase) :
    (ofInput path).summaries.get phase
      = Path.join (Path.directory path) (summaryName path phase) := by
  cases phase <;> simp only [ofInput, summaryName, PerPhase.get]

theorem length_outputName (stem : Text) (phase : Phase) (ending : Text) :
    (outputName stem phase ending).length
      = stem.length + 1 + phase.name.length + ending.length := by
  simp [outputName, Text.lit, Text.ofChars]
  omega

theorem isName_outputName (hstem : Path.slash ∉ stem) (hending : Path.slash ∉ ending) :
    FileTree.IsName (outputName stem phase ending) := by
  -- it is too long to be one of the names that stay where they are or go back
  have hlong : ∀ t : Text, t.length ≤ 2 → outputName stem phase ending ≠ t := by
    intro t ht h
    have hphase : 2 ≤ phase.name.length := by cases phase <;> decide
    have hlength := length_outputName stem phase ending
    rw [h] at hlength
    omega
  refine ⟨?slash, hlong _ (by decide), hlong _ (by decide), hlong _ (by decide)⟩
  case slash =>
    have hphase : Path.slash ∉ phase.name := by cases phase <;> decide
    have hhyphen : Path.slash ∉ Text.lit "-" := by decide
    simp only [outputName, List.mem_append, not_or]
    exact ⟨⟨⟨hstem, hhyphen⟩, hphase⟩, hending⟩

theorem isName_sampleName (path : Text) (phase : Phase) :
    FileTree.IsName (sampleName path phase) := by
  have hslash := not_mem_stemOf (Path.not_mem_afterLast Path.slash path)
  exact isName_outputName hslash.1 hslash.2

theorem isName_summaryName (path : Text) (phase : Phase) :
    FileTree.IsName (summaryName path phase) := by
  have hslash := not_mem_stemOf (Path.not_mem_afterLast Path.slash path)
  exact isName_outputName hslash.1 (by decide)

/-! ## Lengths -/

theorem length_sampleName (path : Text) (phase : Phase) :
    (sampleName path phase).length
      = (stemOf (Path.fileName path)).1.length + phase.name.length + 5 := by
  rw [sampleName, length_outputName, length_extension, extensionLength]
  omega

theorem length_summaryName (path : Text) (phase : Phase) :
    (summaryName path phase).length
      = (stemOf (Path.fileName path)).1.length + phase.name.length + 14 := by
  have hending : summaryEnding.length = 13 := by decide
  rw [summaryName, length_outputName, hending]
  omega

theorem length_fileName_le (path : Text) :
    (Path.fileName path).length ≤ (stemOf (Path.fileName path)).1.length + 4 := by
  have hlength := length_extension (Path.fileName path)
  rcases eq_of_stemOf (Path.fileName path) with h | h
  · conv_lhs => rw [h]
    omega
  · conv_lhs => rw [h, List.length_append, hlength, extensionLength]

theorem length_name (phase : Phase) : phase.name.length = if phase = .warmup then 6 else 11 := by
  cases phase <;> rfl

theorem sampleName_ne_sampleName (path : Text) (h : phase ≠ phase') :
    sampleName path phase ≠ sampleName path phase' := by
  intro hname
  have hlength := congrArg List.length hname
  rw [length_sampleName, length_sampleName] at hlength
  cases phase <;> cases phase' <;> simp [length_name] at h hlength

theorem sampleName_ne_summaryName (path : Text) (phase phase' : Phase) :
    sampleName path phase ≠ summaryName path phase' := by
  intro hname
  have hlength := congrArg List.length hname
  rw [length_sampleName, length_summaryName] at hlength
  cases phase <;> cases phase' <;> simp [length_name] at hlength

theorem sampleName_ne_fileName (path : Text) (phase : Phase) :
    sampleName path phase ≠ Path.fileName path := by
  intro hname
  have hlength := congrArg List.length hname
  have hfile := length_fileName_le path
  rw [length_sampleName] at hlength
  omega

theorem summaryName_ne_summaryName (path : Text) (h : phase ≠ phase') :
    summaryName path phase ≠ summaryName path phase' := by
  intro hname
  have hlength := congrArg List.length hname
  rw [length_summaryName, length_summaryName] at hlength
  cases phase <;> cases phase' <;> simp [length_name] at h hlength

theorem summaryName_ne_fileName (path : Text) (phase : Phase) :
    summaryName path phase ≠ Path.fileName path := by
  intro hname
  have hlength := congrArg List.length hname
  have hfile := length_fileName_le path
  rw [length_summaryName] at hlength
  omega

/-! ## Places -/

section

variable {t : FileTree} {p q : Place}

/-- The outputs of samples of the two phases are in different places. -/
theorem resolve_samples_ne (hpath : t.resolve path = .ok p) (h : phase ≠ phase')
    (hq : t.resolve ((ofInput path).samples.get phase) = .ok q) :
    t.resolve ((ofInput path).samples.get phase') ≠ .ok q := by
  rw [samples_get] at hq ⊢
  exact FileTree.resolve_neighbour_ne hpath (isName_sampleName path phase)
    (isName_sampleName path phase') (sampleName_ne_sampleName path h) hq

/-- No summary is in the place of an output of samples. -/
theorem resolve_summaries_ne (hpath : t.resolve path = .ok p)
    (hq : t.resolve ((ofInput path).samples.get phase) = .ok q) :
    t.resolve ((ofInput path).summaries.get phase') ≠ .ok q := by
  rw [samples_get] at hq
  rw [summaries_get]
  exact FileTree.resolve_neighbour_ne hpath (isName_sampleName path phase)
    (isName_summaryName path phase') (sampleName_ne_summaryName path phase phase') hq

/-- No output of samples is in the place of the input. -/
theorem resolve_input_ne (hq : t.resolve ((ofInput path).samples.get phase) = .ok q) :
    t.resolve path ≠ .ok q := by
  intro hpath
  rw [samples_get] at hq
  exact FileTree.resolve_ne_neighbour hpath (isName_sampleName path phase)
    (sampleName_ne_fileName path phase) hq

/-- The summaries of the two phases are in different places. -/
theorem resolve_summaries_ne_summaries (hpath : t.resolve path = .ok p) (h : phase ≠ phase')
    (hq : t.resolve ((ofInput path).summaries.get phase) = .ok q) :
    t.resolve ((ofInput path).summaries.get phase') ≠ .ok q := by
  rw [summaries_get] at hq ⊢
  exact FileTree.resolve_neighbour_ne hpath (isName_summaryName path phase)
    (isName_summaryName path phase') (summaryName_ne_summaryName path h) hq

/-- No summary is in the place of the input. -/
theorem resolve_input_ne_summary (hq : t.resolve ((ofInput path).summaries.get phase) = .ok q) :
    t.resolve path ≠ .ok q := by
  intro hpath
  rw [summaries_get] at hq
  exact FileTree.resolve_ne_neighbour hpath (isName_summaryName path phase)
    (summaryName_ne_fileName path phase) hq

end

/-! ## Outputs that can be written -/

section

variable {g : Glyph}

theorem mem_of_mem_stemOf_fst (h : g ∈ (stemOf name).1) : g ∈ name := by
  rcases eq_of_stemOf name with heq | heq
  · rw [heq]
    exact h
  · rw [heq]
    exact List.mem_append_left _ h

theorem mem_of_mem_stemOf_snd (h : g ∈ (stemOf name).2) : g ∈ name ∨ g ∈ defaultExtension := by
  unfold stemOf at h
  dsimp only at h
  split at h
  · exact .inr h
  · left
    rw [← Path.splitExtension_append name]
    exact List.mem_append_right _ h

/-- The name of an output adds only letters, hyphens and dots to the name of the input. -/
theorem mem_or_writable_of_mem_outputName {ending : Text}
    (hending : ∀ g ∈ ending, g ∈ name ∨ (g.isHalf = false ∧ g ≠ .char '\x00'))
    (h : g ∈ outputName (stemOf name).1 phase ending) :
    g ∈ name ∨ (g.isHalf = false ∧ g ≠ .char '\x00') := by
  have hhyphen : ∀ g ∈ Text.lit "-", g.isHalf = false ∧ g ≠ .char '\x00' := by decide
  have hphase : ∀ g ∈ phase.name, g.isHalf = false ∧ g ≠ .char '\x00' := by
    cases phase <;> decide
  simp only [outputName, List.mem_append] at h
  rcases h with ((h | h) | h) | h
  · exact .inl (mem_of_mem_stemOf_fst h)
  · exact .inr (hhyphen g h)
  · exact .inr (hphase g h)
  · exact hending g h

theorem mem_or_writable_of_mem_sampleName (h : g ∈ sampleName path phase) :
    g ∈ Path.fileName path ∨ (g.isHalf = false ∧ g ≠ .char '\x00') := by
  have hdefault : ∀ g ∈ defaultExtension, g.isHalf = false ∧ g ≠ .char '\x00' := by decide
  refine mem_or_writable_of_mem_outputName ?_ h
  intro g hg
  exact (mem_of_mem_stemOf_snd hg).imp_right (hdefault g)

theorem mem_or_writable_of_mem_summaryName (h : g ∈ summaryName path phase) :
    g ∈ Path.fileName path ∨ (g.isHalf = false ∧ g ≠ .char '\x00') := by
  have hending : ∀ g ∈ summaryEnding, g.isHalf = false ∧ g ≠ .char '\x00' := by decide
  exact mem_or_writable_of_mem_outputName (fun g hg => .inr (hending g hg)) h

end

/-- The length of a path and of its last name are within the limits. -/
structure FitsLimits (path : Text) : Prop where
  name : (Path.fileName path).encode.length ≤ maxNameBytes
  path : path.encode.length ≤ maxPathBytes

instance (path : Text) : Decidable (FitsLimits path) :=
  decidable_of_iff ((Path.fileName path).encode.length ≤ maxNameBytes
    ∧ path.encode.length ≤ maxPathBytes) ⟨fun h => ⟨h.1, h.2⟩, fun h => ⟨h.name, h.path⟩⟩

/-- A neighbour of the input made of its glyphs and of others that can be written leads somewhere,
as far as its length goes. -/
theorem exists_resolve_output {t : FileTree} {p : Place} {output : Text}
    (hp : t.resolve path = .ok p) (hname : FileTree.IsName output)
    (hglyphs : ∀ g ∈ output, g ∈ Path.fileName path ∨ (g.isHalf = false ∧ g ≠ .char '\x00'))
    (hfits : FitsLimits (Path.join (Path.directory path) output)) :
    ∃ q, t.resolve (Path.join (Path.directory path) output) = .ok q := by
  have hfile : Path.fileName (Path.join (Path.directory path) output) = output :=
    Path.fileName_join hname.no_slash
  have hshort := hfits.name
  rw [hfile] at hshort
  have hpath := (FileTree.resolve_eq_ok_iff_walk.1 hp).1
  refine FileTree.exists_resolve_neighbour hp hname (hpath.of_glyphs ?_ ?_ hfits.path) hshort
  · intro g hg
    rcases Path.mem_of_mem_join_directory hname.no_slash hg with hg | hg
    · exact .inl hg
    · exact (hglyphs g hg).imp_left Path.mem_of_mem_afterLast
  · intro hnil
    rw [hnil] at hfile
    exact hname.ne_nil hfile.symm

theorem exists_resolve_sample {t : FileTree} {p : Place} (hp : t.resolve path = .ok p)
    (hfits : FitsLimits ((ofInput path).samples.get phase)) :
    ∃ q, t.resolve ((ofInput path).samples.get phase) = .ok q := by
  rw [samples_get] at hfits ⊢
  exact exists_resolve_output hp (isName_sampleName path phase)
    (fun _ => mem_or_writable_of_mem_sampleName) hfits

theorem exists_resolve_summary {t : FileTree} {p : Place} (hp : t.resolve path = .ok p)
    (hfits : FitsLimits ((ofInput path).summaries.get phase)) :
    ∃ q, t.resolve ((ofInput path).summaries.get phase) = .ok q := by
  rw [summaries_get] at hfits ⊢
  exact exists_resolve_output hp (isName_summaryName path phase)
    (fun _ => mem_or_writable_of_mem_summaryName) hfits

end OutputPaths

end PhaseSplit
