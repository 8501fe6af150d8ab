import Mathlib.Tactic
import PhaseSplit.Proofs.Files.Tree

/-!
# Files written as far as it goes

A list of files is written one after another until one is refused.  Which one is refused shows
beforehand, because writing files makes and removes no directory.

* `FileTree.writeSome` is the tree to which this comes, whether a file is refused or not;
* `FileTree.writeAll_takeWhile`: it is the tree after the files before the first that cannot be
  written;
* `FileTree.writeSome_again`: a second time this changes nothing;
* `SamePlace` says that two paths name one place; `FileTree.at?_writeSome_of_elsewhere`,
  `FileTree.at?_remove_of_elsewhere`: nothing happens in other places;
* `lastContent?`, `FileTree.at?_writeAll`: a file holds what was written to it last;
* `FileTree.at?_writeAll_same`: what has changed when all files are written with one content.
-/

namespace PhaseSplit

/-- The content that a list of files has last for a path, if it has one. -/
def lastContent? (files : List (Text × List UInt8)) (path : Text) : Option (List UInt8) :=
  (files.reverse.find? (·.1 = path)).map Prod.snd

theorem lastContent?_eq_none {files : List (Text × List UInt8)} {path : Text}
    (h : lastContent? files path = none) : ∀ file ∈ files, file.1 ≠ path := by
  intro file hfile
  have hnone := List.find?_eq_none.1 (Option.map_eq_none_iff.1 h) file (List.mem_reverse.2 hfile)
  simpa using hnone

theorem exists_of_lastContent?_eq_some {files : List (Text × List UInt8)} {path : Text}
    {content : List UInt8} (h : lastContent? files path = some content) :
    ∃ before after, files = before ++ (path, content) :: after
      ∧ ∀ file ∈ after, file.1 ≠ path := by
  obtain ⟨file, hfile, rfl⟩ := Option.map_eq_some_iff.1 h
  obtain ⟨hpath, as, bs, hfiles, hlater⟩ := List.find?_eq_some_iff_append.1 hfile
  obtain rfl : file.1 = path := by simpa using hpath
  refine ⟨bs.reverse, as.reverse, ?_, ?_⟩
  · have hreverse := congrArg List.reverse hfiles
    simpa using hreverse
  · intro later hmem
    simpa using hlater later (List.mem_reverse.1 hmem)

namespace FileTree

variable {t t' : FileTree} {path other : Text} {content : List UInt8}
  {files files' : List (Text × List UInt8)}

/-! ## Two paths for one place -/

/-- Two paths name one place. -/
def SamePlace (t : FileTree) (path other : Text) : Prop :=
  ∃ p, t.resolve path = .ok p ∧ t.resolve other = .ok p

instance (t : FileTree) (path other : Text) : Decidable (t.SamePlace path other) :=
  decidable_of_iff ((t.resolve path).toOption.any (t.resolve other = .ok ·) = true) <| by
    unfold SamePlace
    cases t.resolve path <;> simp [Except.toOption]

theorem at?_eq_of_resolve {p : Place} (h : t.resolve path = .ok p) : t.at? path = t.node? p := by
  unfold at?
  rw [h]

theorem at?_eq_of_read (h : t.read path = .ok content) : t.at? path = some (.file content) := by
  obtain ⟨p, hp, hnode⟩ := read_eq_ok_iff.1 h
  rw [at?_eq_of_resolve hp, hnode]

theorem read_of_at? (h : t.at? path = some (.file content)) : t.read path = .ok content := by
  cases hp : t.resolve path with
  | ok p =>
    rw [at?_eq_of_resolve hp] at h
    exact read_eq_ok_iff.2 ⟨p, hp, h⟩
  | error reason =>
    unfold at? at h
    rw [hp] at h
    cases h

/-- What a path names is the same where the directories are the same and so is its place. -/
theorem SameDirectories.at?_eq (h : SameDirectories t t')
    (hnode : ∀ p, t.resolve path = .ok p → t'.node? p = t.node? p) :
    t'.at? path = t.at? path := by
  cases hp : t.resolve path with
  | ok p =>
    rw [at?_eq_of_resolve hp, at?_eq_of_resolve (h.resolve_eq_ok_iff.2 hp), hnode p hp]
  | error reason =>
    unfold at?
    rw [hp]
    cases hp' : t'.resolve path with
    | ok p =>
      rw [h.resolve_eq_ok_iff, hp] at hp'
      cases hp'
    | error reason' => rfl

/-- Removing a file in another place changes nothing. -/
theorem at?_remove_of_elsewhere (h : t.remove path = .ok t') (hne : ¬t.SamePlace other path) :
    t'.at? other = t.at? other := by
  obtain ⟨p, hp, hother, hsame⟩ := node?_remove h
  apply hsame.at?_eq
  intro q hq
  apply hother
  rintro rfl
  exact hne ⟨q, hq, hp⟩

/-- Writing files in other places changes nothing. -/
theorem at?_writeAll_of_elsewhere (h : t.writeAll files = .ok t')
    (hne : ∀ file ∈ files, ¬t.SamePlace other file.1) : t'.at? other = t.at? other := by
  obtain ⟨hsame, hother⟩ := node?_writeAll h
  apply hsame.at?_eq
  intro q hq
  apply hother
  intro file hfile hplace
  exact hne file hfile ⟨q, hq, hplace⟩

/-- **A file holds what was written to it last**, and else what it held before, if no other path in
the list names its place. -/
theorem at?_writeAll (h : t.writeAll files = .ok t')
    (hne : ∀ file ∈ files, file.1 ≠ path → ¬t.SamePlace path file.1) :
    t'.at? path = ((lastContent? files path).map Node.file).or (t.at? path) := by
  cases hlast : lastContent? files path with
  | none =>
    show t'.at? path = t.at? path
    apply at?_writeAll_of_elsewhere h
    intro file hfile
    exact hne file hfile (lastContent?_eq_none hlast file hfile)
  | some content =>
    obtain ⟨before, after, rfl, hafter⟩ := exists_of_lastContent?_eq_some hlast
    show t'.at? path = some (.file content)
    apply at?_eq_of_read
    refine read_writeAll before h ?_
    intro file hfile p hp hp'
    have hmem : file ∈ before ++ (path, content) :: after :=
      List.mem_append_right _ (List.mem_cons_of_mem _ hfile)
    exact hne file hmem (hafter file hfile) ⟨p, hp, hp'⟩

/-- **Files that are written with one content** have it wherever a path leads to one of them, and
nothing else has changed. -/
theorem at?_writeAll_same (h : t.writeAll files = .ok t')
    (hcontent : ∀ file ∈ files, file.2 = content) (path : Text) :
    t'.at? path
      = if ∃ file ∈ files, t.SamePlace file.1 path then some (.file content) else t.at? path := by
  split
  · next hplace =>
    obtain ⟨file, hfile, p, hp, hpath⟩ := hplace
    rcases exists_written_last t files p with
      hnone | ⟨before, last, bytes, after, rfl, hlast, hafter⟩
    · exact absurd hp (hnone file hfile)
    · have hbytes : bytes = content := hcontent (last, bytes) (by simp)
      rw [at?_eq_of_resolve ((node?_writeAll h).1.resolve_eq_ok_iff.2 hpath),
        node?_writeAll_last _ h hlast hafter, hbytes]
  · next hnone =>
    apply at?_writeAll_of_elsewhere h
    rintro file hfile ⟨p, hpath, hp⟩
    exact hnone ⟨file, hfile, p, hp, hpath⟩

/-! ## As far as it goes -/

/-- The tree after the files of a list have been written up to the first that is refused. -/
def writeSome (t : FileTree) : List (Text × List UInt8) → FileTree
  | [] => t
  | (path, content) :: files =>
    match t.write path content with
    | .ok t' => t'.writeSome files
    | .error _ => t

theorem writeSome_of_writeAll (h : t.writeAll files = .ok t') : t.writeSome files = t' := by
  induction files generalizing t with
  | nil =>
    cases h
    rfl
  | cons file files ih =>
    obtain ⟨path, content⟩ := file
    obtain ⟨s, hs, hrest⟩ := writeAll_cons_eq_ok_iff.1 h
    rw [writeSome, hs]
    exact ih hrest

/-- What comes after a file that is refused is not written. -/
theorem writeSome_append_of_error {e : FileFault} (h : t.writeAll files = .error e) :
    t.writeSome (files ++ files') = t.writeSome files := by
  induction files generalizing t with
  | nil => cases h
  | cons file files ih =>
    obtain ⟨path, content⟩ := file
    rw [List.cons_append, writeSome, writeSome]
    cases hs : t.write path content with
    | error e' => rfl
    | ok s =>
      rw [writeAll, hs] at h
      exact ih h

theorem writeSome_append_of_ok (h : t.writeAll files = .ok t') :
    t.writeSome (files ++ files') = t'.writeSome files' := by
  induction files generalizing t with
  | nil =>
    cases h
    rfl
  | cons file files ih =>
    obtain ⟨path, content⟩ := file
    obtain ⟨s, hs, hrest⟩ := writeAll_cons_eq_ok_iff.1 h
    rw [List.cons_append, writeSome, hs]
    exact ih hrest

/-- Whether a file can be written to a path. -/
def canWrite (t : FileTree) (path : Text) : Bool :=
  match t.resolve path with
  | .ok p => t.node? p ≠ some .directory
  | .error _ => false

theorem canWrite_iff :
    t.canWrite path = true ↔ ∃ p, t.resolve path = .ok p ∧ t.node? p ≠ some .directory := by
  unfold canWrite
  cases t.resolve path <;> simp

theorem canWrite_iff_write (content : List UInt8) :
    t.canWrite path = true ↔ ∃ t', t.write path content = .ok t' := by
  rw [canWrite_iff]
  constructor
  · rintro ⟨p, hp, hnode⟩
    exact ⟨_, write_eq_ok_iff.2 ⟨p, hp, hnode, rfl⟩⟩
  · rintro ⟨t', h⟩
    obtain ⟨p, hp, hnode, -⟩ := write_eq_ok_iff.1 h
    exact ⟨p, hp, hnode⟩

/-- Where the directories are the same, so is where files can be written. -/
theorem SameDirectories.canWrite_eq (h : SameDirectories t t') (path : Text) :
    t'.canWrite path = t.canWrite path := by
  rw [Bool.eq_iff_iff, canWrite_iff, canWrite_iff]
  refine exists_congr fun p => ?_
  rw [h.resolve_eq_ok_iff, ne_eq, ne_eq, h.node]

/-- **Which file is refused shows beforehand.** -/
theorem writeAll_takeWhile (t : FileTree) (files : List (Text × List UInt8)) :
    t.writeAll (files.takeWhile fun file => t.canWrite file.1) = .ok (t.writeSome files) := by
  induction files generalizing t with
  | nil => rfl
  | cons file files ih =>
    obtain ⟨path, content⟩ := file
    rw [List.takeWhile_cons, writeSome]
    cases hs : t.write path content with
    | error e =>
      have hnot : ¬t.canWrite path = true := by
        rw [canWrite_iff_write content, hs]
        simp
      rw [if_neg hnot]
      rfl
    | ok s =>
      have hcan : t.canWrite path = true := (canWrite_iff_write content).2 ⟨s, hs⟩
      obtain ⟨-, -, -, -, hsame⟩ := node?_write hs
      have hrest := ih s
      simp only [hsame.canWrite_eq] at hrest
      rw [if_pos hcan]
      exact writeAll_cons_eq_ok_iff.2 ⟨s, hs, hrest⟩

/-- **Files that have been written as far as it goes** are as they are when they are written as far
as it goes again. -/
theorem writeSome_again (h : t.writeSome files = t') :
    (t'.writeSome files).home = t'.home ∧ ∀ p, (t'.writeSome files).node? p = t'.node? p := by
  have hfirst := writeAll_takeWhile t files
  rw [h] at hfirst
  obtain ⟨hsame, -⟩ := node?_writeAll hfirst
  have hsecond := writeAll_takeWhile t' files
  simp only [hsame.canWrite_eq] at hsecond
  exact ⟨(node?_writeAll hsecond).1.home, node?_writeAll_again hfirst hsecond⟩

end FileTree

end PhaseSplit
