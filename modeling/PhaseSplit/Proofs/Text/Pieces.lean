import Mathlib.Tactic
import PhaseSplit.Text.Glyph

/-!
# Pieces of a text

A text is cut at a separator, and its pieces are put together again with the separator between them.

* `Text.splitAt_append`: pieces on the two sides of a separator;
* `Text.mem_of_mem_splitAt`, `Text.isInfix_of_mem_splitAt`: what the pieces consist of;
* `Text.splitAt_join`: texts without the separator are the pieces of their join;
* `Text.splitAt_eq_iff`: so cutting is the inverse of joining.
-/

namespace PhaseSplit.Text

variable {sep g : Glyph} {p t : Text} {ps : List Text}

/-! ## Pieces -/

theorem join_cons (hps : ps ≠ []) : join [sep] (p :: ps) = p ++ sep :: join [sep] ps := by
  obtain ⟨q, qs, rfl⟩ := List.exists_cons_of_ne_nil hps
  rw [join, List.append_assoc, List.singleton_append]
  exact List.cons_ne_nil q qs

theorem splitAt_cons_self (t : Text) : splitAt sep (sep :: t) = [] :: splitAt sep t := by
  rw [splitAt, if_pos rfl]

/-- A text without the separator is one piece. -/
theorem splitAt_of_not_mem (h : sep ∉ t) : splitAt sep t = [t] := by
  induction t with
  | nil => rfl
  | cons g t ih =>
    rw [List.mem_cons, not_or] at h
    rw [splitAt, if_neg (Ne.symm h.1), ih h.2]

/-- The pieces on the two sides of a separator are the pieces of the two sides. -/
theorem splitAt_append (sep : Glyph) (s t : Text) :
    splitAt sep (s ++ sep :: t) = splitAt sep s ++ splitAt sep t := by
  induction s with
  | nil => exact splitAt_cons_self t
  | cons g s ih =>
    rw [List.cons_append, splitAt, splitAt, ih]
    split
    · rfl
    · obtain ⟨p, ps, h⟩ := List.exists_cons_of_ne_nil (splitAt_ne_nil sep s)
      rw [h]
      rfl

theorem splitAt_append_replicate (sep : Glyph) (s : Text) (k : Nat) :
    splitAt sep (s ++ List.replicate k sep) = splitAt sep s ++ List.replicate k [] := by
  induction k with
  | zero => simp
  | succ k ih =>
    rw [List.replicate_succ', ← List.append_assoc, splitAt_append, ih, List.replicate_succ',
      List.append_assoc]
    rfl

/-- The pieces of a text consist of its glyphs, without the separator. -/
theorem mem_of_mem_splitAt (hp : p ∈ splitAt sep t) (hg : g ∈ p) : g ∈ t ∧ g ≠ sep := by
  induction t generalizing p with
  | nil =>
    rw [splitAt, List.mem_singleton] at hp
    rw [hp] at hg
    cases hg
  | cons h t ih =>
    rw [splitAt] at hp
    split at hp
    · rcases List.mem_cons.1 hp with rfl | hp
      · cases hg
      · obtain ⟨hmem, hne⟩ := ih hp hg
        exact ⟨List.mem_cons_of_mem _ hmem, hne⟩
    · next hsep =>
      obtain ⟨q, qs, hsplit⟩ := List.exists_cons_of_ne_nil (splitAt_ne_nil sep t)
      rw [hsplit] at hp ih
      rcases List.mem_cons.1 hp with rfl | hp
      · rcases List.mem_cons.1 hg with rfl | hg
        · exact ⟨List.mem_cons_self, hsep⟩
        · obtain ⟨hmem, hne⟩ := ih List.mem_cons_self hg
          exact ⟨List.mem_cons_of_mem _ hmem, hne⟩
      · obtain ⟨hmem, hne⟩ := ih (List.mem_cons_of_mem _ hp) hg
        exact ⟨List.mem_cons_of_mem _ hmem, hne⟩

/-- The pieces of a text are parts of it. -/
theorem isInfix_of_mem_splitAt (hp : p ∈ splitAt sep t) : p <:+: t := by
  have hjoin : ∀ ps : List Text, p ∈ ps → p <:+: join [sep] ps := by
    intro ps hps
    induction ps with
    | nil => cases hps
    | cons q ps ih =>
      by_cases hlast : ps = []
      · subst hlast
        rw [List.mem_singleton.1 hps]
        exact List.infix_rfl
      · rw [join_cons hlast]
        rcases List.mem_cons.1 hps with rfl | hps
        · exact (List.prefix_append _ _).isInfix
        · have hrest := (ih hps).trans (List.suffix_cons sep _).isInfix
          exact hrest.trans (List.suffix_append _ _).isInfix
  have hp' := hjoin _ hp
  rwa [join_splitAt] at hp'

theorem length_splitAt_le (sep : Glyph) (t : Text) : (splitAt sep t).length ≤ t.length + 1 := by
  induction t with
  | nil => simp [splitAt]
  | cons g t ih =>
    rw [splitAt]
    split
    · simpa using ih
    · obtain ⟨q, qs, hsplit⟩ := List.exists_cons_of_ne_nil (splitAt_ne_nil sep t)
      rw [hsplit] at ih ⊢
      simp only [List.length_cons] at ih ⊢
      omega

/-- A text with the separator has two pieces at least. -/
theorem two_le_length_splitAt (h : sep ∈ t) : 2 ≤ (splitAt sep t).length := by
  obtain ⟨s, u, rfl⟩ := List.append_of_mem h
  have hs := List.length_pos_of_ne_nil (splitAt_ne_nil sep s)
  have hu := List.length_pos_of_ne_nil (splitAt_ne_nil sep u)
  rw [splitAt_append, List.length_append]
  omega

/-! ## Cutting and joining -/

/-- Texts without the separator are the pieces of their join. -/
theorem splitAt_join (hne : ps ≠ []) (hfree : ∀ p ∈ ps, sep ∉ p) :
    splitAt sep (join [sep] ps) = ps := by
  induction ps with
  | nil => exact absurd rfl hne
  | cons p ps ih =>
    obtain ⟨hp, hps⟩ := List.forall_mem_cons.1 hfree
    by_cases hlast : ps = []
    · subst hlast
      exact splitAt_of_not_mem hp
    · rw [join_cons hlast, splitAt_append, splitAt_of_not_mem hp, ih hlast hps,
        List.singleton_append]

/-- **Cutting is the inverse of joining.**  The pieces of a text are the only texts without the
separator, at least one, whose join is the text. -/
theorem splitAt_eq_iff :
    splitAt sep t = ps ↔ ps ≠ [] ∧ (∀ p ∈ ps, sep ∉ p) ∧ join [sep] ps = t := by
  constructor
  · rintro rfl
    refine ⟨splitAt_ne_nil sep t, ?_, join_splitAt sep t⟩
    intro p hp hsep
    exact (mem_of_mem_splitAt hp hsep).2 rfl
  · rintro ⟨hne, hfree, rfl⟩
    exact splitAt_join hne hfree

end PhaseSplit.Text
