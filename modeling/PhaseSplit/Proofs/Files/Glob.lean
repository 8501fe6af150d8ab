import Mathlib.Tactic
import PhaseSplit.Files.Glob
import PhaseSplit.Proofs.Files.Faults

/-!
# What a directory holds, by pattern

The names in a directory that fit a star and an ending are those of its entries that are not hidden
and have this ending.  The directory itself is named by a path in which each name is a pattern, so
it is looked at only if no name has a special character; otherwise, all directories are whose names
fit.

* `FileTree.mem_namesIn_iff`: the names in a directory are those of its entries;
* `FileTree.directoryPlace?_bare`: the slashes at the end of a path do not lead away;
* `FileTree.DirectoryFits`, `FileTree.mem_directoriesMatching_iff`: the directories that a path
  stands for when its names are patterns;
* `FileTree.namesMatching_star`: the names with an ending.
-/

namespace PhaseSplit

/-! ## Directories without slashes at their ends -/

namespace Path

variable {path : Text}

theorem mem_of_mem_bare {g : Glyph} (h : g ∈ bare path) : g ∈ path := by
  unfold bare at h
  split at h
  · exact h
  · exact mem_of_mem_dropSlashes h

/-- A path with a special character and without slashes at its end has a name, and its directory is
shorter. -/
theorem fileName_ne_nil_of_special (hbare : bare path = path)
    (h : NamePattern.hasSpecial path = true) :
    fileName path ≠ [] ∧ (directory path).length < path.length := by
  obtain ⟨g, hg, hspecial⟩ := List.any_eq_true.1 h
  have hall : ¬path.all (· = slash) = true := by
    intro hall
    have hslash : g = slash := by simpa using List.all_eq_true.1 hall g hg
    rw [hslash] at hspecial
    exact absurd hspecial (by decide)
  rw [bare, if_neg hall] at hbare
  have hlast : path.getLast? ≠ some slash := hbare ▸ getLast?_dropSlashes path
  have hname : fileName path ≠ [] := by
    intro hnil
    have hsplit := uptoLast_append_afterLast slash path
    have hafter : afterLast slash path = [] := hnil
    rw [hafter, List.append_nil] at hsplit
    by_cases hmem : slash ∈ path
    · obtain ⟨s, hs⟩ := exists_uptoLast hmem
      exact hlast (List.getLast?_eq_some_iff.2 ⟨s, hsplit.symm.trans hs⟩)
    · rw [afterLast_of_not_mem hmem] at hafter
      rw [hafter] at hg
      cases hg
  refine ⟨hname, ?_⟩
  have hlength := congrArg List.length (uptoLast_append_afterLast slash path)
  have hpos : 0 < (afterLast slash path).length := List.length_pos_iff.2 hname
  have hle : (directory path).length ≤ (uptoLast slash path).length := by
    unfold directory
    dsimp only
    split
    · exact le_rfl
    · exact (List.rdropWhile_prefix _ _).length_le
  rw [List.length_append] at hlength
  omega

end Path

/-! ## Names with an ending -/

namespace NamePattern

variable {path ending name : Text}

theorem read_star (t : Text) : read (.char '*' :: t) = .anyRun :: read t := by
  unfold read
  rw [readFrom, if_pos rfl]

theorem hasSpecial_bare (h : hasSpecial path = false) : hasSpecial (Path.bare path) = false := by
  rw [hasSpecial, List.any_eq_false] at h ⊢
  exact fun g hg => h g (Path.mem_of_mem_bare hg)

end NamePattern

namespace FileTree

variable {t : FileTree} {p place : Place} {path head name : Text}

/-! ## Entries -/

/-- The name of a place among those in a directory. -/
def nameIn? (p q : Place) : Option Text :=
  match q.getLast? with
  | some name => if q.dropLast = p then some name else none
  | none => none

theorem nameIn?_eq_some_iff {q : Place} : nameIn? p q = some name ↔ q = p ++ [name] := by
  unfold nameIn?
  constructor
  · intro h
    split at h
    · next name' hlast =>
      obtain ⟨r, rfl⟩ := List.getLast?_eq_some_iff.1 hlast
      rw [List.dropLast_concat] at h
      split at h
      · next hp =>
        cases h
        rw [hp]
      · cases h
    · cases h
  · rintro rfl
    rw [List.getLast?_concat, List.dropLast_concat]
    exact if_pos rfl

theorem namesIn_eq (t : FileTree) (p : Place) :
    t.namesIn p = (t.nodes.map (·.1)).filterMap (nameIn? p) := by
  rw [List.filterMap_map]
  rfl

/-- **The names in a directory** are those of its entries. -/
theorem mem_namesIn_iff : name ∈ t.namesIn p ↔ t.node? (p ++ [name]) ≠ none := by
  have hne : p ++ [name] ≠ [] := by simp
  rw [namesIn_eq, List.mem_filterMap, node?, if_neg hne, ne_eq, Option.map_eq_none_iff,
    List.find?_eq_none]
  simp only [nameIn?_eq_some_iff, exists_eq_right, List.mem_map, decide_eq_true_eq, not_forall,
    not_not, exists_prop]

/-- A tree that has no place twice lists no name twice. -/
theorem nodup_namesIn (h : (t.nodes.map (·.1)).Nodup) (p : Place) : (t.namesIn p).Nodup := by
  rw [namesIn_eq]
  refine h.filterMap ?_
  intro q q' name hq hq'
  exact (nameIn?_eq_some_iff.1 hq).trans (nameIn?_eq_some_iff.1 hq').symm

/-! ## Places -/

/-- A path leads to the same place without the slashes at its end. -/
theorem resolve_bare (h : t.resolve path = .ok p) : t.resolve (Path.bare path) = .ok p := by
  obtain ⟨hpath, hwalk⟩ := resolve_eq_ok_iff_walk.1 h
  unfold Path.bare
  split
  · exact h
  · next hall =>
    obtain ⟨k, hk⟩ := Path.exists_replicate_dropSlashes path
    have hmem : ∀ g ∈ Path.dropSlashes path, g ∈ path := fun g => Path.mem_of_mem_dropSlashes
    have hlength : (Path.dropSlashes path).encode.length ≤ path.encode.length := by
      conv_rhs => rw [hk]
      unfold Text.encode
      rw [List.flatMap_append, List.length_append]
      exact Nat.le_add_right _ _
    have hne : Path.dropSlashes path ≠ [] := by
      intro hnil
      rw [hnil, List.nil_append] at hk
      rw [hk] at hall
      exact hall (List.all_eq_true.2 fun g hg => decide_eq_true (List.eq_of_mem_replicate hg))
    generalize Path.dropSlashes path = d at *
    subst hk
    have hstart : t.startOf d = t.startOf (d ++ List.replicate k Path.slash) := by
      unfold startOf
      rw [List.head?_append_of_ne_nil _ hne]
    rw [Text.splitAt_append_replicate, walk_append_eq_ok_iff] at hwalk
    obtain ⟨q, hq, hslashes⟩ := hwalk
    obtain rfl := walk_replicate_nil hslashes
    refine resolve_eq_ok_iff_walk.2 ⟨?_, hstart ▸ hq⟩
    exact hpath.of_glyphs (fun g hg => .inl (hmem g hg)) hne (hlength.trans hpath.short)

theorem exists_of_isDirectory (h : t.isDirectory path = true) :
    ∃ p, t.resolve path = .ok p ∧ t.node? p = some .directory := by
  unfold isDirectory at? at h
  cases hp : t.resolve path with
  | error e => simp [hp] at h
  | ok p => exact ⟨p, rfl, by simpa [hp] using h⟩

theorem directoryPlace?_bare (hp : t.resolve path = .ok p) (hnode : t.node? p = some .directory) :
    t.directoryPlace? (Path.bare path) = some p := by
  have hbare := resolve_bare hp
  have hne : Path.bare path ≠ [] := (resolve_eq_ok_iff_walk.1 hbare).1.ne_nil
  unfold directoryPlace?
  rw [if_neg hne, hbare]
  dsimp only
  rw [if_pos hnode]

/-! ## Directories by pattern -/

/-- The directories that a path stands for when its names are patterns: itself, if it has no special
character; else what its last name stands for in a directory that the path before stands for.  A
name without special characters must be there, one with them stands for the directories that fit. -/
inductive DirectoryFits (t : FileTree) : (path head : Text) → Prop
  | plain {path : Text} (h : NamePattern.hasSpecial path = false) : DirectoryFits t path path
  | name {path head : Text} (h : NamePattern.hasSpecial path = true)
      (habove : DirectoryFits t (Path.directory path) head)
      (hname : NamePattern.hasSpecial (Path.fileName path) = false)
      (hthere : t.pathExists (Path.join head (Path.fileName path)) = true) :
      DirectoryFits t path (Path.join head (Path.fileName path))
  | pattern {path head name : Text} {place : Place} (h : NamePattern.hasSpecial path = true)
      (habove : DirectoryFits t (Path.directory path) head)
      (hname : NamePattern.hasSpecial (Path.fileName path) = true)
      (hplace : t.directoryPlace? head = some place)
      (hthere : t.node? (place ++ [name]) = some .directory)
      (hhidden : isHidden name = true → isHidden (Path.fileName path) = true)
      (haccepts : (NamePattern.read (Path.fileName path)).accepts name = true) :
      DirectoryFits t path (Path.join head name)

theorem directoryFits_plain_iff (h : NamePattern.hasSpecial path = false) :
    t.DirectoryFits path head ↔ head = path := by
  constructor
  · rintro (_ | h' | h')
    · rfl
    all_goals
      rw [h] at h'
      cases h'
  · rintro rfl
    exact .plain h

theorem mem_namesUnder_iff {directoriesOnly : Bool} :
    name ∈ t.namesUnder directoriesOnly path ↔ ∃ place, t.directoryPlace? path = some place
      ∧ t.node? (place ++ [name]) ≠ none
      ∧ (directoriesOnly = true → t.node? (place ++ [name]) = some .directory) := by
  unfold namesUnder
  cases hplace : t.directoryPlace? path with
  | none => simp
  | some place =>
    rw [List.mem_filter, mem_namesIn_iff]
    cases directoriesOnly <;> simp

theorem mem_namesMatching_iff {directoriesOnly : Bool} {pattern : Text} :
    name ∈ t.namesMatching directoriesOnly path pattern
      ↔ name ∈ t.namesUnder directoriesOnly path
        ∧ (isHidden name = true → isHidden pattern = true)
        ∧ (NamePattern.read pattern).accepts name = true := by
  unfold namesMatching
  rw [List.mem_filter, Bool.and_eq_true, Bool.or_eq_true, Bool.not_eq_true', or_comm,
    ← Bool.not_eq_true, ← imp_iff_not_or]

theorem mem_namesEqual_iff {name' : Text} (hname : name ≠ []) :
    name' ∈ t.namesEqual head name ↔ name' = name ∧ t.pathExists (Path.join head name) = true := by
  unfold namesEqual
  dsimp only
  rw [if_neg hname]
  cases t.pathExists (Path.join head name) <;> simp

/-- What the last name of a path stands for in each of the directories above it. -/
theorem directoryFits_special_iff (h : NamePattern.hasSpecial path = true)
    (hname : Path.fileName path ≠ []) :
    t.DirectoryFits path head ↔ ∃ above, t.DirectoryFits (Path.directory path) above
      ∧ ∃ name ∈ if NamePattern.hasSpecial (Path.fileName path) then
          t.namesMatching true above (Path.fileName path)
        else t.namesEqual above (Path.fileName path),
        Path.join above name = head := by
  constructor
  · rintro (hplain | ⟨-, hfits, hplain, hthere⟩ |
      ⟨-, hfits, hpattern, hplace, hthere, hhidden, haccepts⟩)
    · rw [h] at hplain
      cases hplain
    · refine ⟨_, hfits, Path.fileName path, ?_, rfl⟩
      rw [if_neg (by simp [hplain]), mem_namesEqual_iff hname]
      exact ⟨rfl, hthere⟩
    · refine ⟨_, hfits, _, ?_, rfl⟩
      rw [if_pos hpattern, mem_namesMatching_iff, mem_namesUnder_iff]
      refine ⟨⟨_, hplace, ?_, fun _ => hthere⟩, hhidden, haccepts⟩
      rw [hthere]
      exact Option.some_ne_none _
  · rintro ⟨above, hfits, name, hmem, rfl⟩
    split at hmem
    · next hpattern =>
      obtain ⟨hunder, hhidden, haccepts⟩ := mem_namesMatching_iff.1 hmem
      obtain ⟨place, hplace, -, hdirectory⟩ := mem_namesUnder_iff.1 hunder
      exact .pattern h hfits hpattern hplace (hdirectory rfl) hhidden haccepts
    · next hplain =>
      obtain ⟨rfl, hthere⟩ := (mem_namesEqual_iff hname).1 hmem
      exact .name h hfits (Bool.eq_false_iff.2 hplain) hthere

/-- **The directories that a path stands for.**  The path has no slash at its end, and the fuel is
more than its length. -/
theorem mem_directoriesMatching_iff {fuel : Nat} (hbare : Path.bare path = path)
    (hfuel : path.length < fuel) :
    head ∈ t.directoriesMatching fuel path ↔ t.DirectoryFits path head := by
  induction fuel generalizing path head with
  | zero => exact absurd hfuel (Nat.not_lt_zero _)
  | succ fuel ih =>
    cases hspecial : NamePattern.hasSpecial path with
    | false =>
      rw [directoriesMatching_of_not_hasSpecial t _ hspecial, List.mem_singleton,
        directoryFits_plain_iff hspecial]
    | true =>
      obtain ⟨hname, hshorter⟩ := Path.fileName_ne_nil_of_special hbare hspecial
      have hne : Path.directory path ≠ path := fun h => absurd (congrArg List.length h) hshorter.ne
      -- the directories above, whether or not there is a path above
      have habove : ∀ head, head ∈ (if Path.directory path = [] || Path.directory path = path then
            [Path.directory path] else t.directoriesMatching fuel (Path.directory path))
          ↔ t.DirectoryFits (Path.directory path) head := by
        intro head
        by_cases hnil : Path.directory path = []
        · rw [hnil, directoryFits_plain_iff rfl]
          simp
        · rw [if_neg (by simp [hnil, hne])]
          exact ih (Path.bare_directory path) (by omega)
      rw [directoriesMatching, directoryFits_special_iff hspecial hname, hspecial]
      simp only [Bool.not_true, Bool.false_eq_true, if_false, List.mem_flatMap, List.mem_map,
        habove]

/-! ## Names with an ending -/

/-- The names in the directory at a place that are not hidden and have this ending. -/
def visibleNamesIn (t : FileTree) (place : Place) (ending : Text) : List Text :=
  (t.namesIn place).filter fun name => !isHidden name && ending.isSuffixOf name

variable {ending : Text}

theorem mem_visibleNamesIn_iff : name ∈ t.visibleNamesIn place ending
    ↔ t.node? (place ++ [name]) ≠ none ∧ isHidden name = false ∧ ending <:+ name := by
  unfold visibleNamesIn
  rw [List.mem_filter, mem_namesIn_iff, Bool.and_eq_true, Bool.not_eq_true',
    List.isSuffixOf_iff_suffix]

theorem nodup_visibleNamesIn (h : (t.nodes.map (·.1)).Nodup) (place : Place) (ending : Text) :
    (t.visibleNamesIn place ending).Nodup := (nodup_namesIn h place).filter _

/-- **A star and a plain ending** stand for the visible names with this ending. -/
theorem namesMatching_star (hplace : t.directoryPlace? head = some place)
    (h : NamePattern.hasSpecial ending = false) :
    t.namesMatching false head (.char '*' :: ending) = t.visibleNamesIn place ending := by
  have hunder : t.namesUnder false head = t.namesIn place := by
    unfold namesUnder
    rw [hplace]
    simp
  have hhidden : isHidden (.char '*' :: ending) = false := rfl
  unfold namesMatching visibleNamesIn
  rw [hunder]
  refine List.filter_congr ?_
  intro name _
  rw [hhidden, Bool.false_or, NamePattern.read_star, Bool.eq_iff_iff, Bool.and_eq_true,
    Bool.and_eq_true, NamePattern.accepts_anyRun_iff h, List.isSuffixOf_iff_suffix]

theorem namesMatching_of_no_place {directoriesOnly : Bool} {pattern : Text}
    (h : t.directoryPlace? head = none) : t.namesMatching directoriesOnly head pattern = [] := by
  unfold namesMatching namesUnder
  rw [h]
  rfl

end FileTree

end PhaseSplit
