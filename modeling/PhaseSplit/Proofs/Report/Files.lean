import Mathlib.Tactic
import PhaseSplit.Proofs.Files.Glob
import PhaseSplit.Proofs.Text.Order
import PhaseSplit.Report.Files

/-!
# The files of a report

A report takes a directory for the summary files in it, and every other path for itself.  The path
of the directory becomes part of a pattern: if none of its names has a special character, the files
are those that a listing of the directory gives; otherwise the directory may be passed over for
others whose names fit.

* `filesFor_eq_map`: a directory without special characters in its path is listed;
* `mem_filesFor_iff`: what is found for any directory;
* `reportFiles_lists`: both, for all paths of a report;
* `reportFiles_misses`: a directory with brackets in its name is not listed, and another one is.
-/

namespace PhaseSplit

variable {t : FileTree} {path file : Text} {place : Place}

theorem hasSpecial_summaryEnding : NamePattern.hasSpecial OutputPaths.summaryEnding = false := by
  decide

theorem slash_not_mem_summaryPattern : Path.slash ∉ summaryPattern := by decide

/-- The paths of summary files that a directory stands for, before they are sorted. -/
theorem pathsMatching_summaryPattern (t : FileTree) (path : Text) :
    t.pathsMatching path summaryPattern
      = (t.directoriesMatching ((Path.bare path).length + 1) (Path.bare path)).flatMap fun head =>
        (t.namesMatching false head summaryPattern).map (Path.join head) := by
  unfold FileTree.pathsMatching
  dsimp only
  rw [Path.directory_join_eq_bare path slash_not_mem_summaryPattern,
    Path.fileName_join slash_not_mem_summaryPattern]

/-- The files of a directory are sorted. -/
theorem pairwise_filesFor (t : FileTree) (path : Text) :
    (filesFor t path).Pairwise fun f g => f.codes ≤ g.codes := by
  unfold filesFor
  split
  · exact Text.pairwise_mergeSort_notAfter _
  · exact List.pairwise_singleton _ _

theorem filesFor_of_not_directory (h : t.isDirectory path = false) : filesFor t path = [path] := by
  rw [filesFor, h, if_neg Bool.false_ne_true]

/-- **A directory is listed** if its path has no special character. -/
theorem filesFor_eq_map (hplace : t.resolve path = .ok place)
    (hnode : t.node? place = some .directory) (hplain : NamePattern.hasSpecial path = false) :
    ∃ names : List Text, names.Perm (t.visibleNamesIn place OutputPaths.summaryEnding)
      ∧ filesFor t path = names.map (Path.join (Path.bare path)) := by
  have hdirectory : t.isDirectory path = true := by
    unfold FileTree.isDirectory FileTree.at?
    rw [hplace]
    simp [hnode]
  have hlisted : t.pathsMatching path summaryPattern
      = (t.visibleNamesIn place OutputPaths.summaryEnding).map (Path.join (Path.bare path)) := by
    rw [pathsMatching_summaryPattern, FileTree.directoriesMatching_of_not_hasSpecial t _
      (NamePattern.hasSpecial_bare hplain), List.flatMap_singleton]
    exact congrArg _ (FileTree.namesMatching_star (FileTree.directoryPlace?_bare hplace hnode)
      hasSpecial_summaryEnding)
  -- the names are sorted as their paths are
  refine ⟨_, List.mergeSort_perm _ fun name name' =>
    Text.notAfter (Path.join (Path.bare path) name) (Path.join (Path.bare path) name'), ?_⟩
  rw [filesFor, if_pos hdirectory, hlisted]
  exact Eq.symm (List.map_mergeSort (s := Text.notAfter) fun _ _ _ _ => rfl)

/-- **What is found for a directory**: the summary files in all directories that its path stands
for, the names in it taken for patterns. -/
theorem mem_filesFor_iff (h : t.isDirectory path = true) :
    file ∈ filesFor t path ↔ ∃ head place name, t.DirectoryFits (Path.bare path) head
      ∧ t.directoryPlace? head = some place
      ∧ name ∈ t.visibleNamesIn place OutputPaths.summaryEnding ∧ Path.join head name = file := by
  have hbare : Path.bare (Path.bare path) = Path.bare path := by
    rw [← Path.directory_join_eq_bare path slash_not_mem_summaryPattern]
    exact Path.bare_directory _
  rw [filesFor, if_pos h, List.mem_mergeSort, pathsMatching_summaryPattern, List.mem_flatMap]
  refine exists_congr fun head => ?_
  rw [FileTree.mem_directoriesMatching_iff hbare (Nat.lt_succ_self _), List.mem_map]
  constructor
  · rintro ⟨hfits, name, hname, rfl⟩
    cases hplace : t.directoryPlace? head with
    | none =>
      rw [FileTree.namesMatching_of_no_place hplace] at hname
      cases hname
    | some place =>
      refine ⟨place, name, hfits, rfl, ?_, rfl⟩
      rwa [summaryPattern, FileTree.namesMatching_star hplace hasSpecial_summaryEnding] at hname
  · rintro ⟨place, name, hfits, hplace, hname, rfl⟩
    refine ⟨hfits, name, ?_, rfl⟩
    rwa [summaryPattern, FileTree.namesMatching_star hplace hasSpecial_summaryEnding]

/-- **The files of a report**, path by path in their order.  A path that is no directory stands for
itself.  A directory whose path has no special character stands for the entries in it that are not
hidden and end as summaries do, each of them and nothing else, in order.  Any other directory stands
for such entries of all directories that fit its path. -/
theorem reportFiles_lists (t : FileTree) (paths : List Text) :
    reportFiles t paths = paths.flatMap (filesFor t)
      ∧ ∀ path, (t.isDirectory path = false → filesFor t path = [path])
        ∧ (t.isDirectory path = true →
          (filesFor t path).Pairwise (fun f g => f.codes ≤ g.codes)
          ∧ (NamePattern.hasSpecial path = false →
            ∃ (place : Place) (names : List Text), t.resolve path = .ok place
              ∧ filesFor t path = names.map (Path.join (Path.bare path))
              ∧ (∀ name, name ∈ names ↔ t.node? (place ++ [name]) ≠ none
                ∧ FileTree.isHidden name = false ∧ OutputPaths.summaryEnding <:+ name)
              ∧ ((t.nodes.map (·.1)).Nodup → names.Nodup))
          ∧ ∀ file, file ∈ filesFor t path
            ↔ ∃ head place name, t.DirectoryFits (Path.bare path) head
              ∧ t.directoryPlace? head = some place ∧ t.node? (place ++ [name]) ≠ none
              ∧ FileTree.isHidden name = false ∧ OutputPaths.summaryEnding <:+ name
              ∧ Path.join head name = file) := by
  refine ⟨rfl, fun path => ⟨filesFor_of_not_directory, fun hdirectory => ⟨?sorted, ?plain, ?any⟩⟩⟩
  case sorted => exact pairwise_filesFor t path
  case plain =>
    intro hplain
    obtain ⟨place, hplace, hnode⟩ := FileTree.exists_of_isDirectory hdirectory
    obtain ⟨names, hperm, hfiles⟩ := filesFor_eq_map hplace hnode hplain
    refine ⟨place, names, hplace, hfiles, ?_, ?_⟩
    · intro name
      rw [hperm.mem_iff, FileTree.mem_visibleNamesIn_iff]
    · intro hnodup
      exact hperm.nodup_iff.2 (FileTree.nodup_visibleNamesIn hnodup _ _)
  case any =>
    intro file
    rw [mem_filesFor_iff hdirectory]
    simp only [FileTree.mem_visibleNamesIn_iff, and_assoc]

/-- A directory with brackets in its name, beside one whose name fits it as a pattern. -/
def bracketFiles : FileTree where
  nodes :=
    [([Text.lit "runs[1]"], .directory),
      ([Text.lit "runs[1]", Text.lit "a-warmup-summary.json"], .file []),
      ([Text.lit "runs1"], .directory),
      ([Text.lit "runs1", Text.lit "b-warmup-summary.json"], .file []),
      ([Text.lit "runs1", Text.lit ".c-warmup-summary.json"], .file []),
      ([Text.lit "runs1", Text.lit "old"], .directory),
      ([Text.lit "runs1", Text.lit "old", Text.lit "d-warmup-summary.json"], .file [])]
  home := []

/-- The directory without brackets is listed. -/
theorem reportFiles_lists_bracketFiles :
    bracketFiles.isDirectory (Text.lit "runs1/") = true
      ∧ NamePattern.hasSpecial (Text.lit "runs1/") = false
      ∧ (bracketFiles.nodes.map (·.1)).Nodup
      ∧ ∃ names : List Text, filesFor bracketFiles (Text.lit "runs1/")
          = names.map (Path.join (Text.lit "runs1"))
        ∧ names.Nodup ∧ Text.lit "b-warmup-summary.json" ∈ names
        ∧ Text.lit ".c-warmup-summary.json" ∉ names ∧ Text.lit "old" ∉ names := by
  have hdirectory : bracketFiles.isDirectory (Text.lit "runs1/") = true := by decide +kernel
  have hplain : NamePattern.hasSpecial (Text.lit "runs1/") = false := by decide +kernel
  have hnodup : (bracketFiles.nodes.map (·.1)).Nodup := by decide +kernel
  have hbare : Path.bare (Text.lit "runs1/") = Text.lit "runs1" := by decide +kernel
  have hresolve : bracketFiles.resolve (Text.lit "runs1/") = .ok [Text.lit "runs1"] := by
    decide +kernel
  obtain ⟨-, hlisted, -⟩ :=
    ((reportFiles_lists bracketFiles [Text.lit "runs1/"]).2 (Text.lit "runs1/")).2 hdirectory
  obtain ⟨place, names, hplace, hfiles, hmem, hnames⟩ := hlisted hplain
  rw [hresolve] at hplace
  cases hplace
  rw [hbare] at hfiles
  refine ⟨hdirectory, hplain, hnodup, names, hfiles, hnames hnodup, ?_, ?_, ?_⟩
  · exact (hmem _).2 (by decide +kernel)
  · intro h
    exact absurd ((hmem _).1 h) (by decide +kernel)
  · intro h
    exact absurd ((hmem _).1 h) (by decide +kernel)

/-- The bracket in the name is no glyph of it, but stands for the glyph within. -/
theorem namesMatching_bracketFiles :
    bracketFiles.namesMatching true [] (Text.lit "runs[1]") = [Text.lit "runs1"] := by
  have hunder : bracketFiles.namesUnder true [] = [Text.lit "runs[1]", Text.lit "runs1"] := by
    decide +kernel
  have hpattern : NamePattern.read (Text.lit "runs[1]")
      = (Text.lit "runs").map .exactly ++ [.oneOf ⟨false, [.one (.char '1')]⟩] := by
    decide +kernel
  unfold FileTree.namesMatching
  rw [hunder, hpattern]
  simp [FileTree.isHidden, Text.lit, Text.ofChars, NamePattern.accepts, GlyphClass.holds,
    ClassItem.holds]

theorem directoriesMatching_bracketFiles (fuel : Nat) :
    bracketFiles.directoriesMatching (fuel + 1) (Text.lit "runs[1]") = [Text.lit "runs1"] := by
  have hspecial : NamePattern.hasSpecial (Text.lit "runs[1]") = true := by decide +kernel
  have habove : Path.directory (Text.lit "runs[1]") = [] := by decide +kernel
  have hname : Path.fileName (Text.lit "runs[1]") = Text.lit "runs[1]" := by decide +kernel
  unfold FileTree.directoriesMatching
  simp [hspecial, habove, hname, namesMatching_bracketFiles, Path.join]

/-- **A directory may be missed.**  The one with brackets in its name has a summary, but the report
takes its path for the other directory. -/
theorem reportFiles_misses :
    bracketFiles.isDirectory (Text.lit "runs[1]") = true
      ∧ bracketFiles.visibleNamesIn [Text.lit "runs[1]"] OutputPaths.summaryEnding
        = [Text.lit "a-warmup-summary.json"]
      ∧ reportFiles bracketFiles [Text.lit "runs[1]"]
        = [Text.lit "runs1/b-warmup-summary.json"] := by
  have hdirectory : bracketFiles.isDirectory (Text.lit "runs[1]") = true := by decide +kernel
  have hbare : Path.bare (Text.lit "runs[1]") = Text.lit "runs[1]" := by decide +kernel
  have hplace : bracketFiles.directoryPlace? (Text.lit "runs1") = some [Text.lit "runs1"] := by
    decide +kernel
  have hlisted : bracketFiles.namesMatching false (Text.lit "runs1") summaryPattern
      = bracketFiles.visibleNamesIn [Text.lit "runs1"] OutputPaths.summaryEnding :=
    FileTree.namesMatching_star hplace hasSpecial_summaryEnding
  have hfound : bracketFiles.pathsMatching (Text.lit "runs[1]") summaryPattern
      = [Text.lit "runs1/b-warmup-summary.json"] := by
    rw [pathsMatching_summaryPattern, hbare, directoriesMatching_bracketFiles,
      List.flatMap_singleton, hlisted]
    decide +kernel
  refine ⟨hdirectory, by decide +kernel, ?_⟩
  rw [reportFiles, List.flatMap_singleton, filesFor, if_pos hdirectory, hfound]
  exact List.mergeSort_singleton _

end PhaseSplit
