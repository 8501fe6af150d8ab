import Mathlib.Tactic
import PhaseSplit.Text.Lines

/-!
# Lines as pieces between line ends

The lines of a text are made in two passes, one that writes every line end as a line feed and one
that cuts.  Without their terminators they are the pieces between the line ends, and these are cut
in one pass from any list with two marks for line ends: from the glyphs of a text, or from the bytes
of a file.

* `cutLines`: the pieces of a list between its line ends;
* `Text.map_stripTerminator_lines`: lines without their terminators are these pieces;
* `cutLines_flatMap`, `Text.cutAfterFeeds_flatMap`: pieces that have been closed by a line feed are
  found again.
-/

namespace PhaseSplit

section

variable {α : Type}

/-- The pieces with `p` in front of the first one. -/
def growFirst (p : List α) : List (List α) → List (List α)
  | [] => [p]
  | l :: ls => (p ++ l) :: ls

theorem growFirst_growFirst (p q : List α) (ls : List (List α)) :
    growFirst p (growFirst q ls) = growFirst (p ++ q) ls := by
  cases ls with
  | nil => rfl
  | cons l ls => simp [growFirst]

variable [DecidableEq α] (cr lf : α)

/-- The pieces of a list between its line ends: the mark `cr`, the mark `lf`, or the two together.
No empty piece stands after the last line end. -/
def cutLines : List α → List (List α)
  | [] => []
  | a :: as =>
    if a = cr ∧ as.head? = some lf then cutLines as
    else if a = cr ∨ a = lf then [] :: cutLines as
    else growFirst [a] (cutLines as)

@[simp] theorem cutLines_nil : cutLines cr lf [] = [] := rfl

variable {cr lf} {a : α} {as p : List α}

/-- The first mark of a pair does not end a line of its own. -/
theorem cutLines_pair (h : as.head? = some lf) : cutLines cr lf (cr :: as) = cutLines cr lf as := by
  rw [cutLines, if_pos ⟨rfl, h⟩]

theorem cutLines_cr (h : as.head? ≠ some lf) :
    cutLines cr lf (cr :: as) = [] :: cutLines cr lf as := by
  rw [cutLines, if_neg fun h' => h h'.2, if_pos (.inl rfl)]

theorem cutLines_lf (hne : cr ≠ lf) : cutLines cr lf (lf :: as) = [] :: cutLines cr lf as := by
  rw [cutLines, if_neg fun h => hne h.1.symm, if_pos (.inr rfl)]

theorem cutLines_cons (hcr : a ≠ cr) (hlf : a ≠ lf) :
    cutLines cr lf (a :: as) = growFirst [a] (cutLines cr lf as) := by
  rw [cutLines, if_neg fun h => hcr h.1, if_neg fun h => h.elim hcr hlf]

/-- A part without line ends belongs to the first piece. -/
theorem cutLines_append (hp : p ≠ []) (hcr : cr ∉ p) (hlf : lf ∉ p) :
    cutLines cr lf (p ++ as) = growFirst p (cutLines cr lf as) := by
  induction p with
  | nil => exact absurd rfl hp
  | cons a p ih =>
    rw [List.mem_cons, not_or] at hcr hlf
    rw [List.cons_append, cutLines_cons (Ne.symm hcr.1) (Ne.symm hlf.1)]
    rcases p with _ | ⟨b, p⟩
    · rfl
    · rw [ih (by simp) hcr.2 hlf.2, growFirst_growFirst]
      rfl

/-- A piece closed by a line feed is the first piece. -/
theorem cutLines_append_lf (hne : cr ≠ lf) (hcr : cr ∉ p) (hlf : lf ∉ p) :
    cutLines cr lf (p ++ lf :: as) = p :: cutLines cr lf as := by
  rcases p with _ | ⟨a, p⟩
  · exact cutLines_lf hne
  · rw [cutLines_append (by simp) hcr hlf, cutLines_lf hne, growFirst, List.append_nil]

/-- A piece closed by the two marks together is the first piece. -/
theorem cutLines_append_pair (hne : cr ≠ lf) (hcr : cr ∉ p) (hlf : lf ∉ p) :
    cutLines cr lf (p ++ cr :: lf :: as) = p :: cutLines cr lf as := by
  by_cases hp : p = []
  · rw [hp, List.nil_append, cutLines_pair rfl, cutLines_lf hne]
  · rw [cutLines_append hp hcr hlf, cutLines_pair rfl, cutLines_lf hne, growFirst, List.append_nil]

/-- A piece closed by the first mark alone is the first piece. -/
theorem cutLines_append_cr (hcr : cr ∉ p) (hlf : lf ∉ p) (h : as.head? ≠ some lf) :
    cutLines cr lf (p ++ cr :: as) = p :: cutLines cr lf as := by
  by_cases hp : p = []
  · rw [hp, List.nil_append, cutLines_cr h]
  · rw [cutLines_append hp hcr hlf, cutLines_cr h, growFirst, List.append_nil]

/-- A list without line ends is one piece, or none if it is empty. -/
theorem cutLines_of_not_mem (hcr : cr ∉ p) (hlf : lf ∉ p) :
    cutLines cr lf p = if p = [] then [] else [p] := by
  by_cases hp : p = []
  · rw [if_pos hp, hp, cutLines_nil]
  · have happend : cutLines cr lf (p ++ []) = growFirst p (cutLines cr lf []) :=
      cutLines_append hp hcr hlf
    rw [List.append_nil, cutLines_nil] at happend
    rw [if_neg hp, happend, growFirst]

/-- **Pieces are found again.**  A list of pieces, each closed by a line feed, is cut into these
pieces. -/
theorem cutLines_flatMap {ps : List (List α)} (hne : cr ≠ lf) (h : ∀ p ∈ ps, cr ∉ p ∧ lf ∉ p) :
    cutLines cr lf (ps.flatMap (· ++ [lf])) = ps := by
  induction ps with
  | nil => rfl
  | cons p ps ih =>
    obtain ⟨hcr, hlf⟩ := h p List.mem_cons_self
    rw [List.flatMap_cons, List.append_assoc, List.singleton_append, cutLines_append_lf hne hcr hlf,
      ih fun q hq => h q (List.mem_cons_of_mem _ hq)]

/-- No piece has a line end in it. -/
theorem not_mem_of_mem_cutLines (hp : p ∈ cutLines cr lf as) : cr ∉ p ∧ lf ∉ p := by
  induction as generalizing p with
  | nil => cases hp
  | cons a as ih =>
    rw [cutLines] at hp
    split at hp
    · exact ih hp
    · split at hp
      · rcases List.mem_cons.1 hp with rfl | hp
        · simp
        · exact ih hp
      · next hbreak =>
        have ha : cr ∉ [a] ∧ lf ∉ [a] := by
          rw [List.mem_singleton, List.mem_singleton]
          exact ⟨fun h => hbreak (.inl h.symm), fun h => hbreak (.inr h.symm)⟩
        cases hls : cutLines cr lf as with
        | nil =>
          rw [hls, growFirst, List.mem_singleton] at hp
          rwa [hp]
        | cons l ls =>
          rw [hls] at ih hp
          rcases List.mem_cons.1 hp with rfl | hp
          · have hl := ih List.mem_cons_self
            rw [List.mem_append, List.mem_append, not_or, not_or]
            exact ⟨⟨ha.1, hl.1⟩, ha.2, hl.2⟩
          · exact ih (List.mem_cons_of_mem _ hp)

/-- The pieces consist of members of the list. -/
theorem mem_of_mem_cutLines {b : α} (hp : p ∈ cutLines cr lf as) (hb : b ∈ p) : b ∈ as := by
  induction as generalizing p with
  | nil => cases hp
  | cons a as ih =>
    rw [cutLines] at hp
    split at hp
    · exact List.mem_cons_of_mem _ (ih hp hb)
    · split at hp
      · rcases List.mem_cons.1 hp with rfl | hp
        · cases hb
        · exact List.mem_cons_of_mem _ (ih hp hb)
      · cases hls : cutLines cr lf as with
        | nil =>
          rw [hls, growFirst, List.mem_singleton] at hp
          rw [hp, List.mem_singleton] at hb
          rw [hb]
          exact List.mem_cons_self
        | cons l ls =>
          rw [hls] at ih hp
          rcases List.mem_cons.1 hp with rfl | hp
          · rcases List.mem_cons.1 hb with rfl | hb
            · exact List.mem_cons_self
            · exact List.mem_cons_of_mem _ (ih List.mem_cons_self hb)
          · exact List.mem_cons_of_mem _ (ih (List.mem_cons_of_mem _ hp) hb)

/-- Only an empty list has no piece. -/
theorem cutLines_eq_nil_iff : cutLines cr lf as = [] ↔ as = [] := by
  refine ⟨fun h => ?_, fun h => by rw [h, cutLines_nil]⟩
  induction as with
  | nil => rfl
  | cons a as ih =>
    rw [cutLines] at h
    split at h
    · next hpair =>
      rw [ih h, List.head?_nil] at hpair
      cases hpair.2
    · split at h
      · cases h
      · cases hls : cutLines cr lf as <;> simp [hls, growFirst] at h

/-- The first piece stands at the start of the list. -/
theorem prefix_of_cutLines {l : List α} {ls : List (List α)} (h : cutLines cr lf as = l :: ls) :
    l <+: as := by
  induction as generalizing l ls with
  | nil => cases h
  | cons a as ih =>
    rw [cutLines] at h
    split at h
    · -- the piece has no line end, but the second mark of the pair is one
      next hpair =>
      obtain ⟨rest, rfl⟩ := List.head?_eq_some_iff.1 hpair.2
      have hl : lf ∉ l := (not_mem_of_mem_cutLines (h ▸ List.mem_cons_self)).2
      rcases l with _ | ⟨b, l⟩
      · exact List.nil_prefix
      · obtain ⟨rfl, -⟩ := List.cons_prefix_cons.1 (ih h)
        exact absurd List.mem_cons_self hl
    · split at h
      · cases h
        exact List.nil_prefix
      · cases hls : cutLines cr lf as with
        | nil =>
          rw [hls] at h
          cases h
          exact List.prefix_append [a] as
        | cons k ks =>
          rw [hls] at h
          cases h
          exact List.cons_prefix_cons.2 ⟨rfl, ih hls⟩

end

namespace Text

variable {g : Glyph} {t : Text}

theorem dropLastIf_cons {b : Glyph} (h : g ≠ b) (t : Text) :
    dropLastIf b (g :: t) = g :: dropLastIf b t := by
  unfold dropLastIf
  rcases t with _ | ⟨c, t⟩
  · simp [h]
  · rw [List.getLast?_cons_cons]
    split <;> simp

/-- What stands in front of a line's end is kept. -/
theorem stripTerminator_cons (hcr : g ≠ carriageReturn) (hlf : g ≠ lineFeed) (t : Text) :
    stripTerminator (g :: t) = g :: stripTerminator t := by
  rw [stripTerminator, dropLastIf_cons hlf, dropLastIf_cons hcr, stripTerminator]

theorem map_stripTerminator_cutAfterFeeds_lineFeed (t : Text) :
    (cutAfterFeeds (lineFeed :: t)).map stripTerminator
      = [] :: (cutAfterFeeds t).map stripTerminator := by
  rw [cutAfterFeeds, if_pos rfl, List.map_cons]
  rfl

theorem map_stripTerminator_cutAfterFeeds_cons (hcr : g ≠ carriageReturn) (hlf : g ≠ lineFeed) :
    (cutAfterFeeds (g :: t)).map stripTerminator
      = growFirst [g] ((cutAfterFeeds t).map stripTerminator) := by
  rw [cutAfterFeeds, if_neg hlf]
  cases cutAfterFeeds t with
  | nil => rw [List.map_singleton, stripTerminator_cons hcr hlf]; rfl
  | cons l ls => rw [List.map_cons, stripTerminator_cons hcr hlf]; rfl

/-- A piece closed by a line feed is the first line. -/
theorem cutAfterFeeds_append_feed {p : Text} (h : lineFeed ∉ p) (t : Text) :
    cutAfterFeeds (p ++ lineFeed :: t) = (p ++ [lineFeed]) :: cutAfterFeeds t := by
  induction p with
  | nil => rw [List.nil_append, cutAfterFeeds, if_pos rfl, List.nil_append]
  | cons g p ih =>
    obtain ⟨hg, hp⟩ := List.ne_and_not_mem_of_not_mem_cons h
    rw [List.cons_append, cutAfterFeeds, if_neg hg.symm, ih hp]
    rfl

/-- Pieces that have been closed by a line feed are the lines. -/
theorem cutAfterFeeds_flatMap {ps : List Text} (h : ∀ p ∈ ps, lineFeed ∉ p) :
    cutAfterFeeds (ps.flatMap (· ++ [lineFeed])) = ps.map (· ++ [lineFeed]) := by
  induction ps with
  | nil => rfl
  | cons p ps ih =>
    obtain ⟨hp, hps⟩ := List.forall_mem_cons.1 h
    rw [List.flatMap_cons, List.append_assoc, List.singleton_append, cutAfterFeeds_append_feed hp,
      ih hps, List.map_cons]

theorem mem_of_mem_dropLastIf {b : Glyph} (h : g ∈ dropLastIf b t) : g ∈ t := by
  unfold dropLastIf at h
  split at h
  · exact List.mem_of_mem_dropLast h
  · exact h

/-- A line with no line feed before its end has none without its terminator. -/
theorem lineFeed_not_mem_stripTerminator (h : lineFeed ∉ t.dropLast) :
    lineFeed ∉ t.stripTerminator := by
  intro hmem
  have hdrop : lineFeed ∈ dropLastIf lineFeed t := mem_of_mem_dropLastIf hmem
  unfold dropLastIf at hdrop
  split at hdrop
  · exact h hdrop
  · next hlast =>
    have hne : t ≠ [] := List.ne_nil_of_mem hdrop
    rw [← List.dropLast_append_getLast hne, List.mem_append, List.mem_singleton] at hdrop
    rw [List.getLast?_eq_some_getLast hne] at hlast
    rcases hdrop with hdrop | hdrop
    · exact h hdrop
    · exact hlast (congrArg some hdrop.symm)

/-- Without a return there is nothing to unify. -/
theorem unifyBreaks_of_not_mem (h : carriageReturn ∉ t) : unifyBreaks t = t := by
  fun_induction unifyBreaks t with
  | case1 => rfl
  | case2 t ih => exact absurd List.mem_cons_self h
  | case3 t hpair ih => exact absurd List.mem_cons_self h
  | case4 g t _ _ ih => rw [ih fun ht => h (List.mem_cons_of_mem g ht)]

/-- **Lines without their terminators are the pieces between the line ends.** -/
theorem map_stripTerminator_lines (t : Text) :
    t.lines.map stripTerminator = cutLines carriageReturn lineFeed t := by
  have hne : carriageReturn ≠ lineFeed := by decide
  unfold lines
  -- the cases are the line ends that are rewritten: the pair, the single return, and all else
  fun_induction unifyBreaks t with
  | case1 => rfl
  | case2 t ih =>
    rw [map_stripTerminator_cutAfterFeeds_lineFeed, ih]
    exact ((cutLines_pair rfl).trans (cutLines_lf hne)).symm
  | case3 t hpair ih =>
    rw [map_stripTerminator_cutAfterFeeds_lineFeed, ih]
    refine (cutLines_cr ?_).symm
    rcases t with _ | ⟨g, t⟩
    · simp
    · rintro h
      exact hpair t (by simpa [lineFeed] using h)
  | case4 g t _ hreturn ih =>
    have hcr : g ≠ carriageReturn := hreturn
    by_cases hlf : g = lineFeed
    · rw [hlf, map_stripTerminator_cutAfterFeeds_lineFeed, ih, cutLines_lf hne]
    · rw [map_stripTerminator_cutAfterFeeds_cons hcr hlf, ih, cutLines_cons hcr hlf]

end Text

end PhaseSplit
