import Mathlib.Tactic
import PhaseSplit.Proofs.Files.Writes
import PhaseSplit.Proofs.Session

/-!
# Trees alike but for one file

Two trees that differ in the content of one file and in nothing else resolve every path in the same
way, also where they refuse it.  What is written to them or removed from them leaves them so.

* `FileTree.AlikeBut`, `FileTree.AlikeBut.resolve_eq`: such trees, and the places of their paths;
* `FileTree.AlikeBut.put`, `FileTree.AlikeBut.remove_cases`: a file written to both or removed from
  both;
* `World.AlikeBut`: worlds with such trees;
* `Session.carries_writeFile_alikeBut`, `Session.carries_removeFile_alikeBut`,
  `Session.carries_readClock_alikeBut`: work that comes to the same in them.
-/

namespace PhaseSplit

/-- Whether a node is a directory. -/
def Node.isDirectory : Node → Bool
  | .file _ => false
  | .directory => true

theorem Node.eq_directory_iff {node : Option Node} :
    node = some .directory ↔ node.map isDirectory = some true := by
  rcases node with _ | (_ | _) <;> simp [isDirectory]

/-- Where two nodes are of the same kind, there is nothing, or two files, or two directories. -/
theorem Node.cases_of_kind_eq {node node' : Option Node}
    (h : node'.map isDirectory = node.map isDirectory) :
    (node = none ∧ node' = none)
      ∨ (∃ content content', node = some (.file content) ∧ node' = some (.file content'))
      ∨ node = some .directory ∧ node' = some .directory := by
  rcases node with _ | (content | _) <;> rcases node' with _ | (content' | _) <;>
    simp [isDirectory] at h ⊢

namespace FileTree

variable {t t' : FileTree} {p q : Place} {path : Text} {content : List UInt8}

/-- The second tree is the first one, but for the content of the file at a place. -/
structure AlikeBut (p : Place) (t t' : FileTree) : Prop where
  home : t'.home = t.home
  kind : (t'.node? p).map Node.isDirectory = (t.node? p).map Node.isDirectory
  node : ∀ q, q ≠ p → t'.node? q = t.node? q

/-- A walk sees of what stands at a place only whether it is a file or a directory. -/
theorem walk_congr_kind
    (h : ∀ q, (t'.node? q).map Node.isDirectory = (t.node? q).map Node.isDirectory)
    (here : Place) (names : List Text) : t'.walk here names = t.walk here names := by
  induction names generalizing here with
  | nil => rfl
  | cons name names ih =>
    rw [walk, walk]
    rcases Node.cases_of_kind_eq (h here) with
      ⟨hnode, hnode'⟩ | ⟨content, content', hnode, hnode'⟩ | ⟨hnode, hnode'⟩
    · rw [hnode, hnode']
    · rw [hnode, hnode']
    · simp only [hnode, hnode', ih]

namespace AlikeBut

theorem kind_eq (h : AlikeBut p t t') (q : Place) :
    (t'.node? q).map Node.isDirectory = (t.node? q).map Node.isDirectory := by
  by_cases hq : q = p
  · rw [hq, h.kind]
  · rw [h.node q hq]

/-- **Every path is resolved in the same way.** -/
theorem resolve_eq (h : AlikeBut p t t') (path : Text) : t'.resolve path = t.resolve path := by
  apply resolve_eq_of_walk
  rw [walk_congr_kind h.kind_eq, startOf, startOf, h.home]

theorem sameDirectories (h : AlikeBut p t t') : SameDirectories t t' := by
  refine ⟨h.home, ?_⟩
  intro q
  rw [Node.eq_directory_iff, Node.eq_directory_iff, h.kind_eq]

/-- A path that does not lead to that place reads the same. -/
theorem read_eq (h : AlikeBut p t t') (hne : t.resolve path ≠ .ok p) :
    t'.read path = t.read path := by
  unfold read locate
  rw [h.resolve_eq]
  cases hq : t.resolve path with
  | error reason => rfl
  | ok q =>
    have hnode := h.node q fun hqp => hne (by rw [hq, hqp])
    simp only [bind, Except.bind, hnode]

/-- A file written to both trees leaves them alike. -/
theorem put (h : AlikeBut p t t') (hnode : t.node? q ≠ some .directory) (content : List UInt8) :
    AlikeBut p (t.put q (.file content)) (t'.put q (.file content)) := by
  have hq : q ≠ [] := ne_nil_of_node?_ne hnode
  have hother : ∀ r, r ≠ p →
      (t'.put q (.file content)).node? r = (t.put q (.file content)).node? r := by
    intro r hr
    by_cases hrq : r = q
    · rw [hrq, node?_put_self t _ hq, node?_put_self t' _ hq]
    · rw [node?_put_of_ne t _ hrq, node?_put_of_ne t' _ hrq, h.node r hr]
  refine ⟨h.home, ?_, hother⟩
  by_cases hpq : p = q
  · rw [hpq, node?_put_self t _ hq, node?_put_self t' _ hq]
  · rw [node?_put_of_ne t _ hpq, node?_put_of_ne t' _ hpq, h.kind]

/-- A place emptied in both trees leaves them alike. -/
theorem erase (h : AlikeBut p t t') (hq : q ≠ []) : AlikeBut p (t.erase q) (t'.erase q) := by
  have hother : ∀ r, r ≠ p → (t'.erase q).node? r = (t.erase q).node? r := by
    intro r hr
    by_cases hrq : r = q
    · rw [hrq, node?_erase_self t hq, node?_erase_self t' hq]
    · rw [node?_erase_of_ne t hrq, node?_erase_of_ne t' hrq, h.node r hr]
  refine ⟨h.home, ?_, hother⟩
  by_cases hpq : p = q
  · rw [hpq, node?_erase_self t hq, node?_erase_self t' hq]
  · rw [node?_erase_of_ne t hpq, node?_erase_of_ne t' hpq, h.kind]

/-- A file is removed from both trees, or it is refused in both. -/
theorem remove_cases (h : AlikeBut p t t') (path : Text) :
    (∃ s s', t.remove path = .ok s ∧ t'.remove path = .ok s' ∧ AlikeBut p s s')
      ∨ ∃ e, t.remove path = .error e ∧ t'.remove path = .error e := by
  unfold remove locate
  rw [h.resolve_eq]
  cases hq : t.resolve path with
  | error reason => exact .inr ⟨_, rfl, rfl⟩
  | ok q =>
    simp only [bind, Except.bind]
    rcases Node.cases_of_kind_eq (h.kind_eq q) with
      ⟨hnode, hnode'⟩ | ⟨content, content', hnode, hnode'⟩ | ⟨hnode, hnode'⟩
    · rw [hnode, hnode']
      exact .inr ⟨_, rfl, rfl⟩
    · have hne : q ≠ [] := ne_nil_of_node?_ne (t := t) (by simp [hnode])
      rw [hnode, hnode']
      exact .inl ⟨_, _, rfl, rfl, h.erase hne⟩
    · rw [hnode, hnode']
      exact .inr ⟨_, rfl, rfl⟩

end AlikeBut

end FileTree

/-! ## Worlds -/

/-- The second world is the first one, but for the content of the file at a place. -/
structure World.AlikeBut (p : Place) (v w : World) : Prop where
  files : v.files.AlikeBut p w.files
  clock : w.clock = v.clock
  log : w.log = v.log
  progress : w.progress = v.progress
  figures : w.figures = v.figures

namespace Session

variable {ε : Type} {p : Place}

theorem carries_sayAll_alikeBut (records : Log) :
    Carries (World.AlikeBut p) (sayAll records : Session ε Unit) := by
  refine Carries.sayAll ?_
  intro v w h
  exact ⟨h.files, h.clock, congrArg (· ++ records) h.log, h.progress, h.figures⟩

theorem carries_announce_alikeBut (progress : List Nat) :
    Carries (World.AlikeBut p) (announce progress : Session ε Unit) := by
  refine Carries.announce ?_
  intro v w h
  exact ⟨h.files, h.clock, h.log, congrArg (· ++ progress) h.progress, h.figures⟩

/-- The clock reads the same in both worlds. -/
theorem carries_readClock_alikeBut (interrupted : ε) :
    Carries (World.AlikeBut p) (readClock interrupted) := by
  refine Carries.readClock (fun v w h => h.clock) ?_
  intro v w h
  refine ⟨?_, clock_afterReading_congr h.clock, ?_, ?_, ?_⟩
  · rw [files_afterReading, files_afterReading]
    exact h.files
  all_goals
    unfold afterReading
    rw [h.clock]
    split
  · exact h.log
  · exact h.log
  · exact h.progress
  · exact h.progress
  · exact h.figures
  · exact h.figures

/-- A file is written in both worlds, or it is refused in both. -/
theorem carries_writeFile_alikeBut (wrap : FileFault → ε) (path : Text) (content : List UInt8) :
    Carries (World.AlikeBut p) (writeFile wrap path content) := by
  refine Carries.changeFiles ?_
  intro v w h
  rcases FileTree.write_cases_of_alike (h.files.resolve_eq path) h.files.sameDirectories content
    with ⟨q, -, hnode, hwrite, hwrite'⟩ | hrefused
  · exact .inl ⟨_, _, hwrite, hwrite', h.files.put hnode content, h.clock, h.log, h.progress,
      h.figures⟩
  · exact .inr hrefused

/-- A file is removed in both worlds, or it is refused in both. -/
theorem carries_removeFile_alikeBut (wrap : FileFault → ε) (path : Text) :
    Carries (World.AlikeBut p) (removeFile wrap path) := by
  refine Carries.changeFiles ?_
  intro v w h
  rcases h.files.remove_cases path with ⟨s, s', hs, hs', halike⟩ | hrefused
  · exact .inl ⟨s, s', hs, hs', halike, h.clock, h.log, h.progress, h.figures⟩
  · exact .inr hrefused

end Session

end PhaseSplit
