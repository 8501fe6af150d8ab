import Mathlib.Tactic
import PhaseSplit.Files.Tree
import PhaseSplit.Proofs.Except
import PhaseSplit.Proofs.Files.Path

/-!
# Reading and writing in a file tree

Where a path leads depends on the directories alone, and writing or removing a file changes none of
them.  So a path leads to the same place before and after, and what is written there stays until
something is written to that place or removed from it.

* `FileTree.SameDirectories` relates trees that differ in their files only;
* `FileTree.exists_above`: the neighbours of a path lie side by side in one place;
* `FileTree.SameDirectories.resolve_neighbour_eq`: where they lie is told by the directories;
* `FileTree.write_cases_of_alike`: where a file is written, and why it is not, depends on no more;
* `FileTree.read_writeAll`: a file has the content that was written to it last;
* `FileTree.node?_writeAll_again`: files that are written a second time change nothing;
* `FileTree.Untouched`: writing to other places leaves a file alone.
-/

namespace PhaseSplit.FileTree

variable {t t' t'' : FileTree} {here p q : Place} {path name : Text} {names : List Text}
  {content : List UInt8}

/-! ## Walks -/

/-- Where one name leads from a directory. -/
def nextPlace (here : Place) (name : Text) : Except FileReason Place :=
  if name = [] || name = Text.lit "." then .ok here
  else if name = Text.lit ".." then .ok here.dropLast
  else if maxNameBytes < name.encode.length then .error .tooLong
  else .ok (here ++ [name])

/-- A walk takes a further step only from a directory. -/
theorem node?_of_walk_cons (h : t.walk here (name :: names) = .ok p) :
    t.node? here = some .directory := by
  rw [walk] at h
  split at h
  · cases h
  · cases h
  · assumption

/-- From a directory, a walk goes on from the place to which the next name leads. -/
theorem walk_of_directory (h : t.node? here = some .directory) :
    t.walk here (name :: names) = nextPlace here name >>= fun q => t.walk q names := by
  rw [walk, h, nextPlace]
  dsimp only
  split
  · rfl
  · split
    · rfl
    · split
      · rfl
      · rfl

theorem walk_cons_eq_ok_iff :
    t.walk here (name :: names) = .ok p ↔ t.node? here = some .directory
      ∧ ∃ q, nextPlace here name = .ok q ∧ t.walk q names = .ok p := by
  constructor
  · intro h
    have hnode := node?_of_walk_cons h
    rw [walk_of_directory hnode, bind_eq_ok_iff] at h
    exact ⟨hnode, h⟩
  · rintro ⟨hnode, h⟩
    rw [walk_of_directory hnode, bind_eq_ok_iff]
    exact h

/-- Walking on is walking from the place that has been reached. -/
theorem walk_append_eq_ok_iff {xs ys : List Text} :
    t.walk here (xs ++ ys) = .ok p ↔ ∃ q, t.walk here xs = .ok q ∧ t.walk q ys = .ok p := by
  induction xs generalizing here with
  | nil =>
    refine ⟨fun h => ⟨here, rfl, h⟩, ?_⟩
    rintro ⟨_, h, h'⟩
    cases h
    exact h'
  | cons name xs ih =>
    rw [List.cons_append, walk_cons_eq_ok_iff]
    constructor
    · rintro ⟨hnode, next, hnext, h⟩
      obtain ⟨q, hq, hp⟩ := ih.1 h
      exact ⟨q, walk_cons_eq_ok_iff.2 ⟨hnode, next, hnext, hq⟩, hp⟩
    · rintro ⟨q, hq, hp⟩
      obtain ⟨hnode, next, hnext, hq⟩ := walk_cons_eq_ok_iff.1 hq
      exact ⟨hnode, next, hnext, ih.2 ⟨q, hq, hp⟩⟩

/-- A walk goes on from the place that has been reached, also where it fails. -/
theorem walk_append_of_ok {xs ys : List Text} (h : t.walk here xs = .ok q) :
    t.walk here (xs ++ ys) = t.walk q ys := by
  induction xs generalizing here with
  | nil =>
    cases h
    rfl
  | cons name xs ih =>
    obtain ⟨hnode, next, hnext, hrest⟩ := walk_cons_eq_ok_iff.1 h
    rw [List.cons_append, walk_of_directory hnode, hnext]
    exact ih hrest

/-- Empty names do not lead away. -/
theorem walk_replicate_nil {k : Nat} (h : t.walk here (List.replicate k []) = .ok p) :
    p = here := by
  induction k with
  | zero => cases h; rfl
  | succ k ih =>
    rw [List.replicate_succ, walk_cons_eq_ok_iff] at h
    obtain ⟨-, q, hq, h⟩ := h
    cases hq
    exact ih h

/-- A name that leads to a place of its own: it has no slash, and it is none of the names that stay
where they are or go back. -/
structure IsName (name : Text) : Prop where
  no_slash : Path.slash ∉ name
  ne_nil : name ≠ []
  ne_dot : name ≠ Text.lit "."
  ne_dotdot : name ≠ Text.lit ".."

/-- The three things that a name can do. -/
theorem nextPlace_cases (h : nextPlace here name = .ok p) :
    p = here ∨ p = here.dropLast ∨ p = here ++ [name] := by
  unfold nextPlace at h
  split at h
  · exact .inl (Except.ok.inj h).symm
  · split at h
    · exact .inr (.inl (Except.ok.inj h).symm)
    · split at h
      · cases h
      · exact .inr (.inr (Except.ok.inj h).symm)

theorem nextPlace_eq_ok_iff (hname : IsName name) :
    nextPlace here name = .ok p ↔ name.encode.length ≤ maxNameBytes ∧ p = here ++ [name] := by
  unfold nextPlace
  simp only [hname.ne_nil, hname.ne_dot, hname.ne_dotdot, decide_false, Bool.or_self,
    Bool.false_eq_true, if_false]
  by_cases hlong : maxNameBytes < name.encode.length
  · rw [if_pos hlong]
    constructor
    · rintro ⟨⟩
    · rintro ⟨hshort, -⟩
      exact absurd hlong (Nat.not_lt.2 hshort)
  · rw [if_neg hlong]
    constructor
    · rintro ⟨⟩
      exact ⟨Nat.not_lt.1 hlong, rfl⟩
    · rintro ⟨-, rfl⟩
      rfl

theorem nextPlace_of_walk (h : t.walk here [name] = .ok p) : nextPlace here name = .ok p := by
  obtain ⟨-, q, hq, hp⟩ := walk_cons_eq_ok_iff.1 h
  cases hp
  exact hq

/-- From a directory, a name that is not too long leads to a place of its own. -/
theorem walk_name_eq_ok_iff (hhere : t.node? here = some .directory) (hname : IsName name) :
    t.walk here [name] = .ok p ↔ name.encode.length ≤ maxNameBytes ∧ p = here ++ [name] := by
  rw [← nextPlace_eq_ok_iff hname]
  constructor
  · exact nextPlace_of_walk
  · intro h
    exact walk_cons_eq_ok_iff.2 ⟨hhere, p, h, rfl⟩

/-! ## Places of paths -/

/-- Where the walk of a path starts. -/
def startOf (t : FileTree) (path : Text) : Place :=
  if path.head? = some Path.slash then [] else t.home

/-- A text that can name something: it can be written, and its length is within the limit. -/
structure IsPath (path : Text) : Prop where
  writable : Text.unwritable? Glyph.isHalf path = none
  no_null : path.contains (.char '\x00') = false
  ne_nil : path ≠ []
  short : path.encode.length ≤ maxPathBytes

/-- A text of the glyphs of a path, and of glyphs that can be written, is a path as far as its
length goes. -/
theorem IsPath.of_glyphs {path' : Text} (h : IsPath path)
    (hglyphs : ∀ g ∈ path', g ∈ path ∨ (g.isHalf = false ∧ g ≠ .char '\x00'))
    (hne : path' ≠ []) (hshort : path'.encode.length ≤ maxPathBytes) : IsPath path' := by
  refine ⟨?_, ?_, hne, hshort⟩
  · rw [Text.unwritable?_eq_none_iff]
    intro g hg
    rcases hglyphs g hg with hmem | ⟨hhalf, -⟩
    · exact Text.unwritable?_eq_none_iff.1 h.writable g hmem
    · exact hhalf
  · rw [Bool.eq_false_iff, ne_eq, List.contains_iff_mem]
    intro hnull
    rcases hglyphs _ hnull with hmem | ⟨-, hne'⟩
    · have hcontains := h.no_null
      rw [Bool.eq_false_iff, ne_eq, List.contains_iff_mem] at hcontains
      exact hcontains hmem
    · exact hne' rfl

theorem resolve_eq_ok_iff_walk :
    t.resolve path = .ok p
      ↔ IsPath path ∧ t.walk (t.startOf path) (Text.splitAt Path.slash path) = .ok p := by
  unfold resolve startOf
  constructor
  · intro h
    split at h
    · cases h
    · next hwritable =>
      split at h
      · cases h
      · next hnull =>
        split at h
        · cases h
        · next hnil =>
          split at h
          · cases h
          · next hshort =>
            exact ⟨⟨hwritable, by simpa using hnull, hnil, Nat.not_lt.1 hshort⟩, h⟩
  · rintro ⟨hpath, h⟩
    rw [hpath.writable]
    simp only [hpath.no_null, hpath.ne_nil, Nat.not_lt.2 hpath.short, Bool.false_eq_true, if_false]
    exact h

/-- A path is resolved in the same way where its walk is the same. -/
theorem resolve_eq_of_walk (h : t'.walk (t'.startOf path) (Text.splitAt Path.slash path)
      = t.walk (t.startOf path) (Text.splitAt Path.slash path)) :
    t'.resolve path = t.resolve path := by
  unfold startOf at h
  unfold resolve
  rw [h]

theorem walk_of_resolve (h : t.resolve path = .ok p) :
    t.walk (t.startOf path) (Text.splitAt Path.slash path) = .ok p :=
  (resolve_eq_ok_iff_walk.1 h).2

/-- The way to a path goes through one place, and from there its neighbours are reached by their
names. -/
theorem exists_walk_above (h : t.resolve path = .ok p) :
    ∃ names above, t.walk (t.startOf path) names = .ok above
      ∧ t.walk above [Path.fileName path] = .ok p
      ∧ ∀ name, IsName name →
        Text.splitAt Path.slash (Path.join (Path.directory path) name) = names ++ [name]
          ∧ ∀ s : FileTree, s.startOf (Path.join (Path.directory path) name) = s.startOf path := by
  obtain ⟨names, k, hsplit, hneighbours⟩ := Path.exists_splitAt_neighbour path
  have hwalk := walk_of_resolve h
  rw [hsplit, walk_append_eq_ok_iff] at hwalk
  obtain ⟨above, habove, hwalk⟩ := hwalk
  rw [walk_append_eq_ok_iff] at hwalk
  obtain ⟨above', hslashes, hlast⟩ := hwalk
  obtain rfl := walk_replicate_nil hslashes
  refine ⟨names, above', habove, hlast, ?_⟩
  intro name hname
  obtain ⟨hnames, hhead⟩ := hneighbours name hname.no_slash
  refine ⟨hnames, fun s => ?_⟩
  unfold startOf
  simp only [hhead]

/-- **The neighbours of a path** lie side by side in one place, unless they are too long, and the
path itself leads to another place than each of them whose name it does not have. -/
theorem exists_above (h : t.resolve path = .ok p) :
    ∃ above, (∀ name q, IsName name →
        (t.resolve (Path.join (Path.directory path) name) = .ok q
          ↔ IsPath (Path.join (Path.directory path) name) ∧ name.encode.length ≤ maxNameBytes
            ∧ q = above ++ [name]))
      ∧ ∀ name, name ≠ Path.fileName path → p ≠ above ++ [name] := by
  obtain ⟨names, above, habove, hlast, hneighbours⟩ := exists_walk_above h
  refine ⟨above, ?neighbours, ?self⟩
  case neighbours =>
    intro name q hname
    obtain ⟨hsplit, hstart⟩ := hneighbours name hname
    have hstep := walk_name_eq_ok_iff (p := q) (node?_of_walk_cons hlast) hname
    rw [resolve_eq_ok_iff_walk, hsplit, hstart, walk_append_eq_ok_iff, habove, ← hstep]
    refine and_congr_right fun _ => ?_
    constructor
    · rintro ⟨_, hsame, hlast'⟩
      cases hsame
      exact hlast'
    · intro hlast'
      exact ⟨above, rfl, hlast'⟩
  case self =>
    intro name hne hp
    rcases nextPlace_cases (nextPlace_of_walk hlast) with rfl | rfl | rfl
    · simp at hp
    · have := congrArg List.length hp
      simp at this
    · exact hne (by simpa using hp.symm)

/-- A neighbour of a path leads somewhere if it is not too long. -/
theorem exists_resolve_neighbour (h : t.resolve path = .ok p) (hname : IsName name)
    (hneighbour : IsPath (Path.join (Path.directory path) name))
    (hshort : name.encode.length ≤ maxNameBytes) :
    ∃ q, t.resolve (Path.join (Path.directory path) name) = .ok q := by
  obtain ⟨above, hneighbours, -⟩ := exists_above h
  exact ⟨_, (hneighbours name _ hname).2 ⟨hneighbour, hshort, rfl⟩⟩

/-- Neighbours of different names are in different places. -/
theorem resolve_neighbour_ne {name' : Text} (h : t.resolve path = .ok p) (hname : IsName name)
    (hname' : IsName name') (hne : name ≠ name')
    (hq : t.resolve (Path.join (Path.directory path) name) = .ok q) :
    t.resolve (Path.join (Path.directory path) name') ≠ .ok q := by
  obtain ⟨above, hneighbours, -⟩ := exists_above h
  intro hq'
  obtain ⟨-, -, hplace⟩ := (hneighbours _ _ hname).1 hq
  obtain ⟨-, -, hplace'⟩ := (hneighbours _ _ hname').1 hq'
  exact hne (by simpa using hplace.symm.trans hplace')

/-- A path is in another place than a neighbour of another name. -/
theorem resolve_ne_neighbour (h : t.resolve path = .ok p) (hname : IsName name)
    (hne : name ≠ Path.fileName path) :
    t.resolve (Path.join (Path.directory path) name) ≠ .ok p := by
  obtain ⟨above, hneighbours, hself⟩ := exists_above h
  intro hp
  exact hself name hne ((hneighbours _ _ hname).1 hp).2.2

/-! ## Trees with the same directories -/

/-- The directories of two trees are the same, and so is the home directory. -/
structure SameDirectories (t t' : FileTree) : Prop where
  home : t'.home = t.home
  node : ∀ p, t'.node? p = some .directory ↔ t.node? p = some .directory

namespace SameDirectories

theorem refl (t : FileTree) : SameDirectories t t := ⟨rfl, fun _ => Iff.rfl⟩

theorem symm (h : SameDirectories t t') : SameDirectories t' t :=
  ⟨h.home.symm, fun p => (h.node p).symm⟩

theorem trans (h : SameDirectories t t') (h' : SameDirectories t' t'') : SameDirectories t t'' :=
  ⟨h'.home.trans h.home, fun p => (h'.node p).trans (h.node p)⟩

/-- What was done at a place that is no directory, and leaves none there, keeps the directories. -/
theorem of_node?_of_ne (hhome : t'.home = t.home) (hne : ∀ q, q ≠ p → t'.node? q = t.node? q)
    (ht : t.node? p ≠ some .directory) (ht' : t'.node? p ≠ some .directory) :
    SameDirectories t t' := by
  refine ⟨hhome, ?_⟩
  intro q
  by_cases hq : q = p
  · subst hq
    exact ⟨fun h => absurd h ht', fun h => absurd h ht⟩
  · rw [hne q hq]

theorem walk_of_walk (h : SameDirectories t t') (hwalk : t.walk here names = .ok p) :
    t'.walk here names = .ok p := by
  induction names generalizing here with
  | nil => exact hwalk
  | cons name names ih =>
    obtain ⟨hnode, q, hq, hrest⟩ := walk_cons_eq_ok_iff.1 hwalk
    exact walk_cons_eq_ok_iff.2 ⟨(h.node here).2 hnode, q, hq, ih hrest⟩

theorem resolve_of_resolve (h : SameDirectories t t') (hp : t.resolve path = .ok p) :
    t'.resolve path = .ok p := by
  obtain ⟨hpath, hwalk⟩ := resolve_eq_ok_iff_walk.1 hp
  have hstart : t'.startOf path = t.startOf path := by
    rw [startOf, startOf, h.home]
  exact resolve_eq_ok_iff_walk.2 ⟨hpath, hstart ▸ h.walk_of_walk hwalk⟩

/-- **A path leads to the same place** wherever the directories are the same. -/
theorem resolve_eq_ok_iff (h : SameDirectories t t') :
    t'.resolve path = .ok p ↔ t.resolve path = .ok p :=
  ⟨h.symm.resolve_of_resolve, h.resolve_of_resolve⟩

end SameDirectories

/-- **A neighbour of a path is resolved in the same way**, also where it is refused, wherever the
directories are the same. -/
theorem SameDirectories.resolve_neighbour_eq (h : SameDirectories t t')
    (hp : t.resolve path = .ok p) (hname : IsName name) :
    t'.resolve (Path.join (Path.directory path) name)
      = t.resolve (Path.join (Path.directory path) name) := by
  obtain ⟨names, above, habove, hlast, hneighbours⟩ := exists_walk_above hp
  obtain ⟨hsplit, hstart⟩ := hneighbours name hname
  have hnode := node?_of_walk_cons hlast
  have hstart' : t'.startOf path = t.startOf path := by
    rw [startOf, startOf, h.home]
  apply resolve_eq_of_walk
  rw [hsplit, hstart, hstart, hstart', walk_append_of_ok habove,
    walk_append_of_ok (h.walk_of_walk habove), walk_of_directory hnode,
    walk_of_directory ((h.node above).2 hnode)]
  cases nextPlace above name <;> rfl

/-! ## Files -/

theorem locate_eq_ok_iff : t.locate path = .ok p ↔ t.resolve path = .ok p := by
  unfold locate
  cases t.resolve path <;> simp

theorem read_eq_ok_iff :
    t.read path = .ok content ↔ ∃ p, t.resolve path = .ok p ∧ t.node? p = some (.file content) := by
  unfold read
  simp only [bind_eq_ok_iff, locate_eq_ok_iff]
  refine exists_congr fun p => and_congr_right fun _ => ?_
  rcases t.node? p with _ | (content' | _) <;> simp

theorem write_eq_ok_iff :
    t.write path content = .ok t' ↔ ∃ p, t.resolve path = .ok p ∧ t.node? p ≠ some .directory
      ∧ t' = t.put p (.file content) := by
  unfold write
  simp only [bind_eq_ok_iff, locate_eq_ok_iff]
  refine exists_congr fun p => and_congr_right fun _ => ?_
  rcases t.node? p with _ | (content' | _) <;> simp [eq_comm]

theorem remove_eq_ok_iff :
    t.remove path = .ok t' ↔ ∃ p content, t.resolve path = .ok p
      ∧ t.node? p = some (.file content) ∧ t' = t.erase p := by
  unfold remove
  simp only [bind_eq_ok_iff, locate_eq_ok_iff]
  refine exists_congr fun p => ?_
  rcases t.node? p with _ | (content' | _) <;> simp [eq_comm]

/-- A path that names no directory leads to a place that is none. -/
theorem node?_ne_of_isDirectory (hp : t.resolve path = .ok p) (h : t.isDirectory path = false) :
    t.node? p ≠ some .directory := by
  intro hnode
  unfold isDirectory at? at h
  rw [hp] at h
  simp [hnode] at h

theorem ne_nil_of_node?_ne (h : t.node? p ≠ some .directory) : p ≠ [] := by
  rintro rfl
  exact h rfl

theorem sameDirectories_put (h : t.node? p ≠ some .directory) (content : List UInt8) :
    SameDirectories t (t.put p (.file content)) := by
  refine .of_node?_of_ne rfl (fun q hq => node?_put_of_ne t _ hq) h ?_
  rw [node?_put_self t _ (ne_nil_of_node?_ne h)]
  simp

theorem sameDirectories_erase (h : t.node? p ≠ some .directory) :
    SameDirectories t (t.erase p) := by
  refine .of_node?_of_ne rfl (fun q hq => node?_erase_of_ne t hq) h ?_
  rw [node?_erase_self t (ne_nil_of_node?_ne h)]
  simp

/-- A directory is not written over. -/
theorem write_of_directory {p : List Text} (hp : t.resolve path = .ok p)
    (hnode : t.node? p = some .directory) (content : List UInt8) :
    t.write path content = .error ⟨.isDirectory, path⟩ := by
  unfold write locate
  rw [hp]
  dsimp only [bind, Except.bind]
  rw [hnode]

/-- In two trees in which a path is resolved in the same way and the directories are the same, a
file is written to the path in both, or it is refused in both for the same reason. -/
theorem write_cases_of_alike (hresolve : t'.resolve path = t.resolve path)
    (h : SameDirectories t t') (content : List UInt8) :
    (∃ p, t.resolve path = .ok p ∧ t.node? p ≠ some .directory
        ∧ t.write path content = .ok (t.put p (.file content))
        ∧ t'.write path content = .ok (t'.put p (.file content)))
      ∨ ∃ e, t.write path content = .error e ∧ t'.write path content = .error e := by
  cases hp : t.resolve path with
  | error reason =>
    have hp' := hresolve.trans hp
    unfold write locate
    rw [hp, hp']
    exact .inr ⟨_, rfl, rfl⟩
  | ok p =>
    have hp' := hresolve.trans hp
    by_cases hnode : t.node? p = some .directory
    · have hnode' := (h.node p).2 hnode
      exact .inr ⟨_, write_of_directory hp hnode content, write_of_directory hp' hnode' content⟩
    · have hnode' : t'.node? p ≠ some .directory := fun hp' => hnode ((h.node p).1 hp')
      exact .inl ⟨p, rfl, hnode, write_eq_ok_iff.2 ⟨p, hp, hnode, rfl⟩,
        write_eq_ok_iff.2 ⟨p, hp', hnode', rfl⟩⟩

/-- A file that is written has its content, and nothing else has changed. -/
theorem node?_write (h : t.write path content = .ok t') :
    ∃ p, t.resolve path = .ok p ∧ t'.node? p = some (.file content)
      ∧ (∀ q, q ≠ p → t'.node? q = t.node? q) ∧ SameDirectories t t' := by
  obtain ⟨p, hp, hnode, rfl⟩ := write_eq_ok_iff.1 h
  exact ⟨p, hp, node?_put_self t _ (ne_nil_of_node?_ne hnode),
    fun q hq => node?_put_of_ne t _ hq, sameDirectories_put hnode content⟩

/-- Only the file that is removed has changed. -/
theorem node?_remove (h : t.remove path = .ok t') :
    ∃ p, t.resolve path = .ok p ∧ (∀ q, q ≠ p → t'.node? q = t.node? q)
      ∧ SameDirectories t t' := by
  obtain ⟨p, content, hp, hnode, rfl⟩ := remove_eq_ok_iff.1 h
  exact ⟨p, hp, fun q hq => node?_erase_of_ne t hq, sameDirectories_erase (by simp [hnode])⟩

/-! ## Files one after another -/

/-- The tree after files with their paths have been written one after another. -/
def writeAll (t : FileTree) : List (Text × List UInt8) → Except FileFault FileTree
  | [] => .ok t
  | (path, content) :: files => t.write path content >>= fun t' => t'.writeAll files

variable {files files' : List (Text × List UInt8)}

theorem writeAll_cons_eq_ok_iff :
    t.writeAll ((path, content) :: files) = .ok t'
      ↔ ∃ s, t.write path content = .ok s ∧ s.writeAll files = .ok t' :=
  bind_eq_ok_iff

theorem writeAll_append :
    t.writeAll (files ++ files') = t.writeAll files >>= (writeAll · files') := by
  induction files generalizing t with
  | nil => rfl
  | cons file files ih =>
    obtain ⟨path, content⟩ := file
    rw [List.cons_append, writeAll, writeAll]
    cases t.write path content with
    | error e => rfl
    | ok t' => exact ih

/-- Files can be written one after another if each leads to a place that is no directory. -/
theorem exists_writeAll
    (h : ∀ file ∈ files, ∃ p, t.resolve file.1 = .ok p ∧ t.node? p ≠ some .directory) :
    ∃ t', t.writeAll files = .ok t' := by
  induction files generalizing t with
  | nil => exact ⟨t, rfl⟩
  | cons file files ih =>
    obtain ⟨path, content⟩ := file
    obtain ⟨p, hp, hnode⟩ := h _ List.mem_cons_self
    have hsame := sameDirectories_put hnode content
    have hrest : ∀ file ∈ files, ∃ q, (t.put p (.file content)).resolve file.1 = .ok q
        ∧ (t.put p (.file content)).node? q ≠ some .directory := by
      intro file hfile
      obtain ⟨q, hq, hnode'⟩ := h file (List.mem_cons_of_mem _ hfile)
      refine ⟨q, hsame.resolve_eq_ok_iff.2 hq, ?_⟩
      intro hdirectory
      exact hnode' ((hsame.node q).1 hdirectory)
    obtain ⟨t', ht'⟩ := ih hrest
    exact ⟨t', writeAll_cons_eq_ok_iff.2 ⟨_, write_eq_ok_iff.2 ⟨p, hp, hnode, rfl⟩, ht'⟩⟩

/-- Writing files keeps the directories, and the places to which nothing is written. -/
theorem node?_writeAll (h : t.writeAll files = .ok t') :
    SameDirectories t t'
      ∧ ∀ p, (∀ file ∈ files, t.resolve file.1 ≠ .ok p) → t'.node? p = t.node? p := by
  induction files generalizing t with
  | nil =>
    cases h
    exact ⟨.refl _, fun p _ => rfl⟩
  | cons file files ih =>
    obtain ⟨path, content⟩ := file
    rw [writeAll_cons_eq_ok_iff] at h
    obtain ⟨s, hs, hrest⟩ := h
    obtain ⟨q, hq, -, hother, hsame⟩ := node?_write hs
    obtain ⟨hsame', hother'⟩ := ih hrest
    refine ⟨hsame.trans hsame', ?_⟩
    intro p hp
    rw [hother' p fun file hfile => ?_, hother p fun hpq => ?_]
    · subst hpq
      exact hp _ List.mem_cons_self hq
    · rw [ne_eq, hsame.resolve_eq_ok_iff]
      exact hp file (List.mem_cons_of_mem _ hfile)

/-- What stands at a place is what was written to it last. -/
theorem node?_writeAll_last (files : List (Text × List UInt8))
    (h : t.writeAll (files ++ (path, content) :: files') = .ok t') (hp : t.resolve path = .ok p)
    (hlast : ∀ file ∈ files', t.resolve file.1 ≠ .ok p) : t'.node? p = some (.file content) := by
  rw [writeAll_append, bind_eq_ok_iff] at h
  obtain ⟨s, hs, h⟩ := h
  rw [writeAll_cons_eq_ok_iff] at h
  obtain ⟨u, hu, hrest⟩ := h
  have hbefore := (node?_writeAll hs).1
  obtain ⟨q, hq, hnode, -, hsame⟩ := node?_write hu
  obtain rfl : p = q := Except.ok.inj (hp.symm.trans (hbefore.resolve_eq_ok_iff.1 hq))
  rw [(node?_writeAll hrest).2 p ?_, hnode]
  intro file hfile
  rw [ne_eq, (hbefore.trans hsame).resolve_eq_ok_iff]
  exact hlast file hfile

/-- **A file has the content that was written to it last.** -/
theorem read_writeAll (files : List (Text × List UInt8))
    (h : t.writeAll (files ++ (path, content) :: files') = .ok t')
    (hlast : ∀ file ∈ files', ∀ p, t.resolve path = .ok p → t.resolve file.1 ≠ .ok p) :
    t'.read path = .ok content := by
  have hwritten := h
  rw [writeAll_append, bind_eq_ok_iff] at hwritten
  obtain ⟨s, hs, hwritten⟩ := hwritten
  obtain ⟨u, hu, -⟩ := writeAll_cons_eq_ok_iff.1 hwritten
  obtain ⟨p, hp, -⟩ := write_eq_ok_iff.1 hu
  rw [(node?_writeAll hs).1.resolve_eq_ok_iff] at hp
  refine read_eq_ok_iff.2 ⟨p, (node?_writeAll h).1.resolve_eq_ok_iff.2 hp, ?_⟩
  exact node?_writeAll_last files h hp fun file hfile => hlast file hfile p hp

/-- Nothing is written to a place, or something is written to it last. -/
theorem exists_written_last (t : FileTree) (files : List (Text × List UInt8)) (p : Place) :
    (∀ file ∈ files, t.resolve file.1 ≠ .ok p)
      ∨ ∃ before path content after, files = before ++ (path, content) :: after
        ∧ t.resolve path = .ok p ∧ ∀ file ∈ after, t.resolve file.1 ≠ .ok p := by
  cases hfind : files.reverse.find? (fun file => t.resolve file.1 = .ok p) with
  | none =>
    left
    intro file hfile
    simpa using List.find?_eq_none.1 hfind file (List.mem_reverse.2 hfile)
  | some file =>
    obtain ⟨hp, as, bs, hfiles, hlater⟩ := List.find?_eq_some_iff_append.1 hfind
    refine .inr ⟨bs.reverse, file.1, file.2, as.reverse, ?_, by simpa using hp, ?_⟩
    · simpa using congrArg List.reverse hfiles
    · intro later hmem
      simpa using hlater later (List.mem_reverse.1 hmem)

/-- **Files that are written a second time change nothing.** -/
theorem node?_writeAll_again (h : t.writeAll files = .ok t') (h' : t'.writeAll files = .ok t'')
    (p : Place) : t''.node? p = t'.node? p := by
  obtain ⟨hsame, -⟩ := node?_writeAll h
  rcases exists_written_last t files p with hnone | ⟨before, path, content, after, rfl, hp, hlast⟩
  · apply (node?_writeAll h').2
    intro file hfile
    rw [ne_eq, hsame.resolve_eq_ok_iff]
    exact hnone file hfile
  · -- what was written to the place last is written to it last again
    rw [node?_writeAll_last _ h hp hlast]
    refine node?_writeAll_last _ h' (hsame.resolve_eq_ok_iff.2 hp) ?_
    intro later hmem
    rw [ne_eq, hsame.resolve_eq_ok_iff]
    exact hlast later hmem

/-- Removing another file leaves the content of a file. -/
theorem read_remove {removed : Text} (h : t.remove removed = .ok t')
    (hne : ∀ p, t.resolve path = .ok p → t.resolve removed ≠ .ok p)
    (hread : t.read path = .ok content) : t'.read path = .ok content := by
  obtain ⟨p, hp, hother, hsame⟩ := node?_remove h
  obtain ⟨q, hq, hnode⟩ := read_eq_ok_iff.1 hread
  refine read_eq_ok_iff.2 ⟨q, hsame.resolve_eq_ok_iff.2 hq, ?_⟩
  rw [hother q ?_, hnode]
  rintro rfl
  exact hne q hq hp

/-! ## Files that stay -/

/-- The second tree is the first one with changes that leave a place and all directories as they
were. -/
structure Untouched (p : Place) (t t' : FileTree) : Prop where
  directories : SameDirectories t t'
  node : t'.node? p = t.node? p

namespace Untouched

theorem refl (p : Place) (t : FileTree) : Untouched p t t := ⟨.refl t, rfl⟩

/-- Writing to another place is such a change. -/
theorem write (h : Untouched p t t') (hne : t.resolve path ≠ .ok p)
    (hwrite : t'.write path content = .ok t'') : Untouched p t t'' := by
  obtain ⟨q, hq, -, hother, hsame⟩ := node?_write hwrite
  refine ⟨h.directories.trans hsame, ?_⟩
  rw [hother p ?_, h.node]
  rintro rfl
  exact hne (h.directories.resolve_eq_ok_iff.1 hq)

/-- The file at that place has kept its content. -/
theorem read (h : Untouched p t t') (hp : t.resolve path = .ok p)
    (hread : t.read path = .ok content) : t'.read path = .ok content := by
  obtain ⟨q, hq, hnode⟩ := read_eq_ok_iff.1 hread
  obtain rfl : q = p := Except.ok.inj (hq.symm.trans hp)
  refine read_eq_ok_iff.2 ⟨q, h.directories.resolve_eq_ok_iff.2 hp, ?_⟩
  rw [h.node, hnode]

end Untouched

end PhaseSplit.FileTree
