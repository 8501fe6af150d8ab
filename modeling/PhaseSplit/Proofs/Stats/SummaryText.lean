import Mathlib.Tactic
import PhaseSplit.Proofs.Stats.Summary

/-!
# Every summary has a text

A summary is written with a name for each percentile, and a percentile has a name only if it is a
binary number.  The percentiles of a summary that was made from statistics are always the same, and
each of them has a name.

* `Summary.Named`: a summary of the percentiles that every summary has;
* `PhaseStats.named_of_summary`: the summary of a phase is one;
* `Summary.Named.exists_fileText`: it can be written.
-/

namespace PhaseSplit

/-! ## The percentiles of a summary -/

/-- A summary of the percentiles that every summary has. -/
def Summary.Named (s : Summary) : Prop := ∀ entry ∈ s.percentiles, entry.1 ∈ summaryPercentiles

namespace PhaseStats

variable {s : PhaseStats}

theorem named_of_summaryWithin {least greatest first last : Int} {summary : Summary}
    (h : s.summaryWithin least greatest first last = .ok summary) : summary.Named := by
  unfold summaryWithin at h
  simp only [bind_eq_ok_iff] at h
  obtain ⟨_, -, table, htable, _, -, _, -, _, -, _, -, _, -, percentiles, hpercentiles, h⟩ := h
  obtain ⟨_, -, _, -, _, -, _, -, _, -, _, -, h⟩ := h
  cases h
  rw [mapError_eq_ok_iff] at htable
  have hnamed : ∀ entry ∈ table, entry.1 ∈ summaryPercentiles ∧ True :=
    forall_of_percentileValues (fun _ hp => hp) (fun _ _ _ => trivial) htable
  refine mapM_forall ?_ hpercentiles
  intro entry hentry rounded hrounded
  obtain ⟨_, -, h⟩ := bind_eq_ok_iff.1 hrounded
  cases h
  exact (hnamed entry hentry).1

/-- The summary of a phase has the percentiles that every summary has. -/
theorem named_of_summary {summary : Summary} (h : s.summary = .ok summary) : summary.Named := by
  unfold PhaseStats.summary at h
  split at h
  · exact named_of_summaryWithin h
  · cases h
    intro entry hentry
    obtain ⟨p, hp, rfl⟩ := List.mem_map.1 hentry
    exact hp

end PhaseStats

/-! ## The text of a summary -/

/-- Each percentile of a summary has a name. -/
theorem exists_percentileName {p : Quantity} (h : p ∈ summaryPercentiles) :
    ∃ name, Summary.percentileName p = .ok name := by
  have hall : ∀ p ∈ summaryPercentiles, (Summary.percentileName p).isOk = true := by decide +kernel
  cases hname : Summary.percentileName p with
  | error e =>
    have hok := hall p h
    rw [hname] at hok
    cases hok
  | ok name => exact ⟨name, rfl⟩

/-- The percentiles are put under their names. -/
theorem Summary.Named.gives_percentileEntries {s : Summary} (h : s.Named) (entries : Entries) :
    Gives (s.percentiles.foldlM (fun (entries : Entries) (p, value) => do
      return entries.put (← percentileName p) value) entries) fun _ => True := by
  refine Gives.foldlM trivial ?_
  intro entries _ entry hentry
  obtain ⟨name, hname⟩ := exists_percentileName (h entry hentry)
  refine ⟨entries.put name entry.2, ?_, trivial⟩
  dsimp only
  rw [hname]
  rfl

/-- **A summary can be written** when its percentiles have names. -/
theorem Summary.Named.exists_fileText {s : Summary} (h : s.Named) (indent : Option Nat) :
    ∃ text, s.fileText indent = .ok text := by
  obtain ⟨entries, hentries, -⟩ := h.gives_percentileEntries s.leadingEntries
  unfold fileText Summary.entries
  rw [hentries]
  exact ⟨_, rfl⟩

end PhaseSplit
