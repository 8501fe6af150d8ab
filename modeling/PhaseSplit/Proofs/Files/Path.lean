import Mathlib.Data.List.DropRight
import Mathlib.Tactic
import PhaseSplit.Files.Path
import PhaseSplit.Proofs.Text.Pieces

/-!
# Paths and their neighbours

A path is taken apart at its slashes, and its last name is exchanged for another.

* `Path.exists_uptoLast`, `Path.exists_replicate_dropSlashes`: the parts of a path put together;
* `Path.join_directory_cases`: another name in the directory of a path;
* `Path.exists_splitAt_neighbour`: the names on the way to it;
* `Path.fileName_join`, `Path.directory_join_eq_bare`: the parts of a name that was put into a
  directory;
* `Path.directory_join`, `Path.join_directory_inj`, `Path.mem_of_mem_join_directory`: those of a
  neighbour.
-/

namespace PhaseSplit

namespace Path

/-! ## The last name of a path -/

variable {g : Glyph} {t : Text}

theorem afterLast_eq_rtakeWhile (g : Glyph) (t : Text) : afterLast g t = t.rtakeWhile (· ≠ g) := rfl

theorem uptoLast_eq_rdropWhile (g : Glyph) (t : Text) : uptoLast g t = t.rdropWhile (· ≠ g) := rfl

theorem dropSlashes_eq_rdropWhile (t : Text) : dropSlashes t = t.rdropWhile (· = slash) := rfl

theorem not_mem_afterLast (g : Glyph) (t : Text) : g ∉ afterLast g t := by
  rw [afterLast_eq_rtakeWhile]
  intro h
  simpa using List.mem_rtakeWhile_imp h

theorem afterLast_of_not_mem (h : g ∉ t) : afterLast g t = t := by
  rw [afterLast_eq_rtakeWhile, List.rtakeWhile_eq_self_iff]
  intro x hx
  rw [decide_eq_true_iff]
  rintro rfl
  exact h hx

theorem uptoLast_of_not_mem (h : g ∉ t) : uptoLast g t = [] := by
  have hsplit := uptoLast_append_afterLast g t
  rwa [afterLast_of_not_mem h, List.append_left_eq_self] at hsplit

/-- A text with a `g` ends, up to the last one, in it. -/
theorem exists_uptoLast (h : g ∈ t) : ∃ s, uptoLast g t = s ++ [g] := by
  have hne : t.rdropWhile (· ≠ g) ≠ [] := by
    rw [ne_eq, List.rdropWhile_eq_nil_iff]
    intro hall
    simpa using hall g h
  have hlast : (t.rdropWhile (· ≠ g)).getLast hne = g := by
    simpa using List.rdropWhile_last_not (· ≠ g) t hne
  refine ⟨(t.rdropWhile (· ≠ g)).dropLast, ?_⟩
  rw [uptoLast_eq_rdropWhile]
  conv_lhs => rw [← List.dropLast_append_getLast hne, hlast]

/-- A path without the slashes at its end, and these slashes. -/
theorem exists_replicate_dropSlashes (t : Text) :
    ∃ k, t = dropSlashes t ++ List.replicate k slash := by
  rw [dropSlashes_eq_rdropWhile]
  refine ⟨(t.rtakeWhile (· = slash)).length, ?_⟩
  have hall : t.rtakeWhile (· = slash)
      = List.replicate (t.rtakeWhile (· = slash)).length slash := by
    rw [List.eq_replicate_iff]
    refine ⟨rfl, ?_⟩
    intro x hx
    simpa using List.mem_rtakeWhile_imp hx
  rw [← hall, List.rdropWhile_append_rtakeWhile]

theorem getLast?_dropSlashes (t : Text) : (dropSlashes t).getLast? ≠ some slash := by
  rw [dropSlashes_eq_rdropWhile]
  intro h
  have hne : t.rdropWhile (· = slash) ≠ [] := by
    intro hnil
    simp [hnil] at h
  have hlast := List.rdropWhile_last_not (· = slash) t hne
  rw [List.getLast?_eq_some_getLast hne, Option.some.injEq] at h
  simp [h] at hlast

theorem dropSlashes_eq_self (h : t.getLast? ≠ some slash) : dropSlashes t = t := by
  rw [dropSlashes_eq_rdropWhile, List.rdropWhile_eq_self_iff]
  intro hne
  rw [List.getLast?_eq_some_getLast hne, ne_eq, Option.some.injEq] at h
  simpa using h

theorem dropSlashes_append_slash (h : t.getLast? ≠ some slash) :
    dropSlashes (t ++ [slash]) = t := by
  rw [dropSlashes_eq_rdropWhile, List.rdropWhile_concat_pos _ _ _ (by simp)]
  exact dropSlashes_eq_self h

/-! ## Neighbours -/

/-- **The neighbours of a path.**  A name in the directory of a path takes the place of the path's
own name; at most some slashes in front of that are lost. -/
theorem join_directory_cases (path : Text) :
    (slash ∉ path ∧ ∀ name, slash ∉ name → join (directory path) name = name)
      ∨ ∃ d k, path = d ++ List.replicate k slash ++ slash :: fileName path
        ∧ ∀ name, slash ∉ name → join (directory path) name = d ++ slash :: name := by
  have hhead : ∀ name : Text, slash ∉ name → name.head? ≠ some slash :=
    fun name hname h => hname (List.mem_of_mem_head? h)
  by_cases h : slash ∈ path
  · right
    obtain ⟨s, hs⟩ := exists_uptoLast h
    have hpath : path = s ++ slash :: fileName path := by
      have hsplit := uptoLast_append_afterLast slash path
      rw [hs] at hsplit
      simpa [fileName] using hsplit.symm
    by_cases hall : (s ++ [slash]).all (· = slash)
    · refine ⟨s, 0, by simpa using hpath, ?_⟩
      intro name hname
      rw [join, if_neg (hhead name hname), directory, hs, if_pos hall]
      simp
    · obtain ⟨k, hk⟩ := exists_replicate_dropSlashes (s ++ [slash])
      have hlast := getLast?_dropSlashes (s ++ [slash])
      have hdirectory : directory path = dropSlashes (s ++ [slash]) := by
        rw [directory, hs, if_neg hall]
      generalize dropSlashes (s ++ [slash]) = d at hk hlast hdirectory
      -- the last of the slashes is the one in front of the name
      rcases k with _ | k
      · rw [List.replicate_zero, List.append_nil] at hk
        simp [← hk] at hlast
      · rw [List.replicate_succ', ← List.append_assoc] at hk
        have hs' : s = d ++ List.replicate k slash := (List.append_inj' hk rfl).1
        have hd : d ≠ [] := by
          rintro rfl
          apply hall
          rw [hs']
          simp
        refine ⟨d, k, by rw [← hs']; exact hpath, ?_⟩
        intro name hname
        rw [join, if_neg (hhead name hname), hdirectory]
        simp [hd, hlast]
  · left
    refine ⟨h, ?_⟩
    intro name hname
    rw [join, if_neg (hhead name hname), directory, uptoLast_of_not_mem h]
    simp

/-- The names on the way to a path and to its neighbours are the same, but for empty ones. -/
theorem exists_splitAt_neighbour (path : Text) :
    ∃ names k, Text.splitAt slash path = names ++ (List.replicate k [] ++ [fileName path])
      ∧ ∀ name, slash ∉ name →
        Text.splitAt slash (join (directory path) name) = names ++ [name]
          ∧ ((join (directory path) name).head? = some slash ↔ path.head? = some slash) := by
  have hown : slash ∉ fileName path := not_mem_afterLast slash path
  have hhead : ∀ {name : Text}, slash ∉ name → name.head? ≠ some slash :=
    fun hname h => hname (List.mem_of_mem_head? h)
  rcases join_directory_cases path with ⟨hslash, hjoin⟩ | ⟨d, k, hpath, hjoin⟩
  · have hfile : fileName path = path := afterLast_of_not_mem hslash
    refine ⟨[], 0, ?_, ?_⟩
    · rw [hfile, Text.splitAt_of_not_mem hslash]
      rfl
    · intro name hname
      rw [hjoin name hname, Text.splitAt_of_not_mem hname]
      exact ⟨rfl, iff_of_false (hhead hname) (hhead hslash)⟩
  · refine ⟨Text.splitAt slash d, k, ?_, ?_⟩
    · conv_lhs => rw [hpath]
      rw [Text.splitAt_append, Text.splitAt_append_replicate, Text.splitAt_of_not_mem hown,
        List.append_assoc]
    · intro name hname
      rw [hjoin name hname, Text.splitAt_append, Text.splitAt_of_not_mem hname]
      refine ⟨rfl, ?_⟩
      rw [hpath]
      cases d <;> cases k <;> simp [List.replicate_succ]

/-! ## Names in a directory -/

theorem afterLast_append (h : g ∉ t) (s : Text) : afterLast g (s ++ g :: t) = t := by
  have hall : ∀ x ∈ t.reverse, (decide (x ≠ g)) = true := by
    intro x hx
    rw [decide_eq_true_iff]
    rintro rfl
    exact h (List.mem_reverse.1 hx)
  have hrev : (s ++ g :: t).reverse = t.reverse ++ g :: s.reverse := by simp
  rw [afterLast, hrev, List.takeWhile_append_of_pos hall]
  simp

/-- A text up to the last `g`, which is not in what follows it. -/
theorem uptoLast_append (h : g ∉ t) (s : Text) : uptoLast g (s ++ g :: t) = s ++ [g] := by
  have hsplit := uptoLast_append_afterLast g (s ++ g :: t)
  rw [afterLast_append h] at hsplit
  exact List.append_cancel_right (hsplit.trans (List.append_cons s g t))

variable {path name name' : Text}

/-- A name in a directory comes after a slash, which is the last of the directory's own or is put
in between. -/
theorem join_cases (path : Text) (h : slash ∉ name) :
    (path = [] ∧ join path name = name) ∨ ∃ s, join path name = s ++ slash :: name
      ∧ (path = s ++ [slash] ∨ path = s ∧ s ≠ [] ∧ s.getLast? ≠ some slash) := by
  have hhead : name.head? ≠ some slash := fun hname => h (List.mem_of_mem_head? hname)
  rw [join, if_neg hhead]
  by_cases hnil : path = []
  · subst hnil
    exact .inl ⟨rfl, rfl⟩
  · right
    by_cases hlast : path.getLast? = some slash
    · obtain ⟨s, rfl⟩ := List.getLast?_eq_some_iff.1 hlast
      refine ⟨s, ?_, .inl rfl⟩
      rw [if_pos (by simp), List.append_assoc, List.singleton_append]
    · refine ⟨path, ?_, .inr ⟨rfl, hnil, hlast⟩⟩
      rw [if_neg (by simp [hnil, hlast])]

/-- **A name in a directory** is the last name of its path. -/
theorem fileName_join (h : slash ∉ name) : fileName (join path name) = name := by
  rcases join_cases path h with ⟨-, hjoin⟩ | ⟨s, hjoin, -⟩
  · rw [hjoin]
    exact afterLast_of_not_mem h
  · rw [hjoin]
    exact afterLast_append h s

/-- The path of a directory without the slashes at its end, unless it is all slashes. -/
def bare (path : Text) : Text := if path.all (· = slash) then path else dropSlashes path

/-- A directory is all slashes, or there is none at its end. -/
theorem directory_cases (path : Text) :
    (∀ g ∈ directory path, g = slash) ∨ (directory path).getLast? ≠ some slash := by
  unfold directory
  dsimp only
  split
  · next hall => exact .inl (by simpa using hall)
  · exact .inr (getLast?_dropSlashes _)

/-- The directory of a path has no more slashes at its end to lose. -/
theorem bare_directory (path : Text) : bare (directory path) = directory path := by
  unfold bare
  split
  · rfl
  · next hall =>
    rcases directory_cases path with hslashes | hlast
    · exact absurd (List.all_eq_true.2 fun g hg => decide_eq_true (hslashes g hg)) hall
    · exact dropSlashes_eq_self hlast

/-- **The directory of a name** that was put into a directory is that one, without slashes at its
end. -/
theorem directory_join_eq_bare (path : Text) (h : slash ∉ name) :
    directory (join path name) = bare path := by
  rcases join_cases path h with ⟨rfl, hjoin⟩ | ⟨s, hjoin, rfl | ⟨rfl, hne, hlast⟩⟩
  · rw [hjoin, directory, uptoLast_of_not_mem h]
    rfl
  · rw [hjoin, directory, uptoLast_append h]
    rfl
  · have hall : ¬path.all (· = slash) = true := by
      intro hall
      have hslash : path.getLast hne = slash := by
        simpa using List.all_eq_true.1 hall _ (List.getLast_mem hne)
      exact hlast (by rw [List.getLast?_eq_some_getLast hne, hslash])
    have hall' : ¬(path ++ [slash]).all (· = slash) = true := by
      rw [List.all_append, Bool.and_eq_true, not_and_or]
      exact .inl hall
    rw [hjoin, directory, uptoLast_append h, if_neg hall', dropSlashes_append_slash hlast, bare,
      if_neg hall, dropSlashes_eq_self hlast]

/-- **A neighbour has the same directory.** -/
theorem directory_join (h : slash ∉ name) :
    directory (join (directory path) name) = directory path := by
  rw [directory_join_eq_bare _ h, bare_directory]

/-- Neighbours with different names are different. -/
theorem join_directory_inj (h : slash ∉ name) (h' : slash ∉ name') :
    join (directory path) name = join (directory path) name' ↔ name = name' := by
  refine ⟨fun hjoin => ?_, fun hname => by rw [hname]⟩
  have hnames := congrArg fileName hjoin
  rwa [fileName_join h, fileName_join h'] at hnames

/-- The glyphs of a neighbour come from the path and from its own name. -/
theorem mem_of_mem_join_directory {c : Glyph} (h : slash ∉ name)
    (hc : c ∈ join (directory path) name) : c ∈ path ∨ c ∈ name := by
  rcases join_directory_cases path with ⟨-, hjoin⟩ | ⟨d, k, hpath, hjoin⟩
  · rw [hjoin name h] at hc
    exact .inr hc
  · rw [hjoin name h] at hc
    rw [hpath]
    rcases List.mem_append.1 hc with hc | hc
    · left
      simp [hc]
    · rcases List.mem_cons.1 hc with rfl | hc
      · left
        simp
      · exact .inr hc

theorem mem_of_mem_afterLast {c : Glyph} (h : c ∈ afterLast g t) : c ∈ t := by
  have hsplit := uptoLast_append_afterLast g t
  rw [← hsplit]
  exact List.mem_append_right _ h

end Path

end PhaseSplit
