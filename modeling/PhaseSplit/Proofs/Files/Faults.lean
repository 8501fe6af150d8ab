import Mathlib.Tactic
import PhaseSplit.Command.Run
import PhaseSplit.Proofs.Files.Path
import PhaseSplit.Proofs.Files.Tree

/-!
# Faults of the file tree

An operation on files is refused for what stands in the tree, which the program tells, or because
its path can be no path, which it does not.  Only the glyphs of a path decide on the latter.

* `Path.Unusable` is a text that no operation takes for a path;
* `FileTree.unusable_of_resolve`: a refusal that is not told comes from such a text;
* `FileTree.unusable_of_read`, `unusable_of_write`, `unusable_of_makeDirectories`: the same for each
  operation.
-/

namespace PhaseSplit

/-- A text that no operation takes for a path: it has a null character or half of a pair. -/
def Path.Unusable (path : Text) : Prop := ∃ g ∈ path, g.isHalf = true ∨ g = .char '\x00'

namespace Path

variable {path path' : Text} {g : Glyph}

/-- A text made of glyphs of another, and of such that stand in paths, is unusable only if that
one is. -/
theorem Unusable.of_glyphs (h : Unusable path')
    (hglyphs : ∀ g ∈ path', g ∈ path ∨ (g.isHalf = false ∧ g ≠ .char '\x00')) : Unusable path := by
  obtain ⟨g, hg, hbad⟩ := h
  rcases hglyphs g hg with hmem | ⟨hhalf, hnull⟩
  · exact ⟨g, hmem, hbad⟩
  · rcases hbad with hbad | hbad
    · rw [hhalf] at hbad
      cases hbad
    · exact absurd hbad hnull

theorem mem_of_mem_uptoLast {c : Glyph} (h : c ∈ uptoLast g path) : c ∈ path := by
  rw [← uptoLast_append_afterLast g path]
  exact List.mem_append_left _ h

theorem mem_of_mem_dropSlashes (h : g ∈ dropSlashes path) : g ∈ path := by
  obtain ⟨k, hk⟩ := exists_replicate_dropSlashes path
  rw [hk]
  exact List.mem_append_left _ h

theorem mem_of_mem_directory (h : g ∈ directory path) : g ∈ path := by
  unfold directory at h
  dsimp only at h
  split at h
  · exact mem_of_mem_uptoLast h
  · exact mem_of_mem_uptoLast (mem_of_mem_dropSlashes h)

theorem mem_of_mem_headAndTail (h : g ∈ (headAndTail path).1) : g ∈ path := by
  have h := mem_of_mem_directory h
  split at h
  · exact mem_of_mem_directory h
  · exact h

/-- The glyphs of a file in a directory come from the directory and from the name. -/
theorem mem_of_mem_join {directory name : Text} (h : g ∈ join directory name) :
    g ∈ directory ∨ g ∈ name ∨ g = slash := by
  unfold join at h
  split at h
  · exact .inr (.inl h)
  · split at h
    · exact (List.mem_append.1 h).imp_right .inl
    · rcases List.mem_append.1 h with h | h
      · exact .inl h
      · exact .inr ((List.mem_cons.1 h).symm)

end Path

namespace FileTree

variable {t t' : FileTree} {path : Text} {p here : Place} {names : List Text} {e : FileFault}
  {content : List UInt8}

/-- A walk through the tree is refused only for what stands in the tree. -/
theorem telling_of_walk {reason : FileReason} (h : t.walk here names = .error reason) :
    (FileFault.mk reason path).telling = some .ofFiles := by
  induction names generalizing here with
  | nil => cases h
  | cons name names ih =>
    rw [walk] at h
    split at h
    · cases h; rfl
    · cases h; rfl
    · split at h
      · exact ih h
      · split at h
        · exact ih h
        · split at h
          · cases h; rfl
          · exact ih h

/-- **A path is refused silently only if it is unusable.** -/
theorem unusable_of_resolve {reason : FileReason} {other : Text}
    (h : t.resolve path = .error reason) (hsilent : (FileFault.mk reason other).telling = none) :
    Path.Unusable path := by
  have htold : (FileFault.mk reason other).telling = some .ofFiles → Path.Unusable path := by
    intro h'
    rw [hsilent] at h'
    cases h'
  unfold resolve at h
  split at h
  · next u hu =>
    obtain ⟨g, hg, hhalf⟩ := Text.exists_of_unwritable?_eq_some hu
    exact ⟨g, hg, .inl hhalf⟩
  · split at h
    · next hnull => exact ⟨_, List.contains_iff_mem.1 hnull, .inr rfl⟩
    · split at h
      · cases h; exact htold rfl
      · split at h
        · cases h; exact htold rfl
        · exact htold (telling_of_walk h)

/-- A path that leads somewhere is usable. -/
theorem not_unusable_of_resolve (h : t.resolve path = .ok p) : ¬Path.Unusable path := by
  have hpath := (resolve_eq_ok_iff_walk.1 h).1
  rintro ⟨g, hg, hhalf | rfl⟩
  · rw [Text.unwritable?_eq_none_iff.1 hpath.writable g hg] at hhalf
    cases hhalf
  · have hnull := hpath.no_null
    rw [Bool.eq_false_iff, ne_eq, List.contains_iff_mem] at hnull
    exact hnull hg

theorem not_unusable_of_pathExists (h : t.pathExists path = true) : ¬Path.Unusable path := by
  unfold pathExists at? at h
  split at h
  · next hp => exact not_unusable_of_resolve hp
  · cases h

theorem unusable_of_locate (h : t.locate path = .error e) (hsilent : e.telling = none) :
    Path.Unusable path := by
  unfold locate at h
  cases hresolve : t.resolve path with
  | ok p => simp [hresolve] at h
  | error reason =>
    simp only [hresolve, Except.error.injEq] at h
    subst h
    exact unusable_of_resolve hresolve hsilent

theorem unusable_of_read (h : t.read path = .error e) (hsilent : e.telling = none) :
    Path.Unusable path := by
  unfold read at h
  rcases bind_eq_error_iff.1 h with h | ⟨p, -, h⟩
  · exact unusable_of_locate h hsilent
  · split at h <;> cases h <;> cases hsilent

theorem unusable_of_write (h : t.write path content = .error e) (hsilent : e.telling = none) :
    Path.Unusable path := by
  unfold write at h
  rcases bind_eq_error_iff.1 h with h | ⟨p, -, h⟩
  · exact unusable_of_locate h hsilent
  · split at h <;> cases h
    cases hsilent

/-- Files written one after another are refused silently only at an unusable path. -/
theorem unusable_of_writeAll {files : List (Text × List UInt8)} (h : t.writeAll files = .error e)
    (hsilent : e.telling = none) : ∃ file ∈ files, Path.Unusable file.1 := by
  induction files generalizing t with
  | nil => cases h
  | cons file files ih =>
    obtain ⟨path, content⟩ := file
    rcases bind_eq_error_iff.1 h with h | ⟨s, -, h⟩
    · exact ⟨_, List.mem_cons_self .., unusable_of_write h hsilent⟩
    · obtain ⟨file, hfile, hbad⟩ := ih h
      exact ⟨file, List.mem_cons_of_mem _ hfile, hbad⟩

theorem unusable_of_makeDirectory (h : t.makeDirectory path = .error e)
    (hsilent : e.telling = none) : Path.Unusable path := by
  unfold makeDirectory at h
  dsimp only at h
  cases hresolve :
      t.resolve (if Path.dropSlashes path = [] then path else Path.dropSlashes path) with
  | error reason =>
    simp only [hresolve, Except.error.injEq] at h
    subst h
    refine (unusable_of_resolve hresolve hsilent).of_glyphs fun g hg => .inl ?_
    split at hg
    · exact hg
    · exact Path.mem_of_mem_dropSlashes hg
  | ok p =>
    simp only [hresolve] at h
    split at h <;> cases h
    cases hsilent

theorem unusable_of_ensureDirectory (h : t.ensureDirectory path = (t', some e))
    (hsilent : e.telling = none) : Path.Unusable path := by
  unfold ensureDirectory at h
  split at h
  · cases h
  · next f hf =>
    obtain ⟨-, hfault⟩ := Prod.mk.inj h
    split at hfault
    · cases hfault
    · cases hfault
      exact unusable_of_makeDirectory hf hsilent

/-- The directory that is made before a path is a part of it. -/
theorem mem_of_mem_missingAbove? {head : Text} {g : Glyph} (h : t.missingAbove? path = some head)
    (hg : g ∈ head) : g ∈ path := by
  obtain ⟨-, hhead⟩ := Option.ite_none_right_eq_some.1 h
  rw [← Option.some.inj hhead] at hg
  exact Path.mem_of_mem_headAndTail hg

theorem unusable_of_makeDirectoriesWithin {fuel : Nat}
    (h : t.makeDirectoriesWithin fuel path = (t', some e)) (hsilent : e.telling = none) :
    Path.Unusable path := by
  induction fuel generalizing t t' path e with
  | zero => cases h
  | succ fuel ih =>
    rw [makeDirectoriesWithin] at h
    split at h
    · exact unusable_of_ensureDirectory h hsilent
    · next head hhead =>
      rcases hfirst : makeDirectoriesWithin fuel t head with ⟨s, fault⟩
      rw [hfirst] at h
      dsimp only at h
      split at h
      · -- the directories above have been refused
        next f hf =>
        cases h
        obtain ⟨rfl, -⟩ := Option.filter_eq_some_iff.1 hf
        exact (ih hfirst hsilent).of_glyphs fun g hg => .inl (mem_of_mem_missingAbove? hhead hg)
      · split at h
        · cases h
        · exact unusable_of_ensureDirectory h hsilent

/-- Directories are refused silently only at an unusable path. -/
theorem unusable_of_makeDirectories (h : t.makeDirectories path = (t', some e))
    (hsilent : e.telling = none) : Path.Unusable path :=
  unusable_of_makeDirectoriesWithin h hsilent

end FileTree

end PhaseSplit
