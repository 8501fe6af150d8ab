import Mathlib.Tactic
import PhaseSplit.Proofs.Split.NoRevision
import PhaseSplit.Proofs.Split.Routing
import PhaseSplit.Proofs.Text.Lines

/-!
# The counts of a split agree

The router counts the samples that it assigns, the sheets count the lines that are written, the
statistics count the samples that are added, and the split counts the samples that it has taken.
Nothing compares these counts while a split runs.  They are equal before the first line, and each
line changes all of them or none.

* `SplitState.LedgersAgree`: the counts are equal, and the outputs have as many lines;
* `SplitState.Balanced`: the same of the sheets themselves, which one line after another keeps
  (`SplitState.Balanced.step`, `SplitState.Balanced.run`);
* `SplitState.Balanced.ledgersAgree`: lines on a sheet are lines of the output;
* `splitLines_ledgers`: the counts after any number of lines, and where a line ends the split.
-/

namespace PhaseSplit

/-- The number of lines of an output after its header. -/
def Text.bodyLineCount (t : Text) : Nat := t.cutAfterFeeds.tail.length

variable {config : SplitConfig} {lines : List Text} {millis : Int}

theorem PerPhase.sum_modify (v : PerPhase Nat) (phase : Phase) :
    (v.modify phase (· + 1)).warmup + (v.modify phase (· + 1)).measurement
      = v.warmup + v.measurement + 1 := by
  cases phase with
  | warmup => exact Nat.add_right_comm _ _ _
  | measurement => rfl

/-- A router counts the sample in the phase that it assigns it to. -/
theorem Router.routed_route (router : Router) (timestamp : Int) :
    (router.route timestamp).2.routed
      = router.routed.modify (router.route timestamp).1 (· + 1) := rfl

namespace SplitState

variable {s : SplitState}

/-- All counts of samples are those of the router, for each phase and for both. -/
structure LedgersAgree (config : SplitConfig) (s : SplitState) : Prop where
  rows : ∀ p, s.sheets.rows.get p = s.router.routed.get p
  body : ∀ p, (s.sheets.text p).bodyLineCount = s.router.routed.get p
  processed : s.router.routed.warmup + s.router.routed.measurement = s.processed
  statistics : config.summarize = true → ∃ a, s.accumulator = some a ∧ a.total = s.processed
    ∧ ∀ p, (a.stats.get p).count = s.router.routed.get p
      ∧ (a.stats.get p).elapsedValues.size = s.router.routed.get p

/-- The same where both sheets have a header, in terms of the lines on them. -/
structure Balanced (config : SplitConfig) (s : SplitState) : Prop where
  rows : ∀ p, s.sheets.rows.get p = s.router.routed.get p
  sheet : ∀ p, (s.sheets.sheets.get p).size = s.router.routed.get p + 1
  plain : ∀ p, ∀ line ∈ (s.sheets.sheets.get p).toList, Text.lineFeed ∉ line
  processed : s.router.routed.warmup + s.router.routed.measurement = s.processed
  statistics : config.summarize = true → ∃ a, s.accumulator = some a
    ∧ ∀ p, (a.stats.get p).count = s.router.routed.get p
      ∧ (a.stats.get p).elapsedValues.size = s.router.routed.get p

/-! ## One line -/

theorem Balanced.accept (h : s.Balanced config) {x : Sample} (hx : Text.lineFeed ∉ x.line) :
    (s.accept config x).Balanced config where
  rows p := by
    rw [sheets_accept, router_accept, Router.routed_route, Sheets.writeRow, PerPhase.get_modify,
      PerPhase.get_modify, h.rows]
  sheet p := by
    rw [sheets_accept, router_accept, Router.routed_route, Sheets.writeRow, PerPhase.get_modify,
      PerPhase.get_modify]
    split
    · rw [Array.size_push, h.sheet]
    · exact h.sheet p
  plain p := by
    rw [sheets_accept, Sheets.writeRow, PerPhase.get_modify]
    split
    · intro line hline
      rw [Array.toList_push, List.mem_append, List.mem_singleton] at hline
      rcases hline with hline | rfl
      · exact h.plain p line hline
      · exact hx
    · exact h.plain p
  processed := by
    rw [processed_accept, router_accept, Router.routed_route, PerPhase.sum_modify, h.processed]
  statistics hsummarize := by
    obtain ⟨a, ha, hcounts⟩ := h.statistics hsummarize
    rw [accumulator_accept, ha, router_accept, Router.routed_route]
    refine ⟨_, rfl, ?_⟩
    intro p
    obtain ⟨hcount, hsize⟩ := hcounts p
    unfold Accumulator.add
    rw [PerPhase.get_modify, PerPhase.get_modify]
    split
    · unfold PhaseStats.add
      dsimp only
      rw [Array.size_push, hcount, hsize]
      exact ⟨rfl, rfl⟩
    · exact ⟨hcount, hsize⟩

/-- A rejected line changes no count of samples. -/
theorem Balanced.rejectInvalid (h : s.Balanced config) (e : FieldFault) :
    (s.rejectInvalid e).Balanced config :=
  ⟨h.rows, h.sheet, h.plain, h.processed, h.statistics⟩

theorem Balanced.rejectTooWide (h : s.Balanced config) (n : Int) (line : Text) :
    (s.rejectTooWide n line).Balanced config :=
  ⟨h.rows, h.sheet, h.plain, h.processed, h.statistics⟩

/-- **One line changes all counts or none.** -/
theorem Balanced.step {s' : SplitState} {n : Int} {line : Text} (h : s.Balanced config)
    (hline : Text.lineFeed ∉ line.dropLast) (hstep : s.step config n line = .ok s') :
    s'.Balanced config := by
  unfold SplitState.step at hstep
  split at hstep
  · next x hread =>
    cases hstep
    refine h.accept ?_
    rw [(line_of_readLine_sample hread).1]
    exact Text.lineFeed_not_mem_stripTerminator hline
  · cases hstep
    exact h.rejectTooWide _ _
  · split at hstep
    · cases hstep
      exact h.rejectInvalid _
    · cases hstep
  · cases hstep

/-- The counts stay equal up to the end of a run, or up to the line that ends it. -/
theorem Balanced.run {n : Int} (h : s.Balanced config)
    (hlines : ∀ line ∈ lines, Text.lineFeed ∉ line.dropLast) :
    (run config s n lines).1.Balanced config := by
  induction lines generalizing s n with
  | nil => exact h
  | cons line lines ih =>
    obtain ⟨hline, hlines⟩ := List.forall_mem_cons.1 hlines
    rw [SplitState.run]
    cases hstep : s.step config n line with
    | ok s' => exact ih (h.step hline hstep) hlines
    | error e => exact h

/-- A run that a line ends has come to the state after the lines before it. -/
theorem exists_of_run_fault {s' : SplitState} {n : Int} {e : LineFault}
    (h : run config s n lines = (s', some e)) :
    ∃ (k : Nat) (line : Text), lines[k]? = some line ∧ run config s n (lines.take k) = (s', none)
      ∧ s'.step config (n + k) line = .error e := by
  induction lines generalizing s n with
  | nil => cases h
  | cons line lines ih =>
    rw [SplitState.run] at h
    cases hstep : s.step config n line with
    | ok t =>
      rw [hstep] at h
      obtain ⟨k, bad, hbad, hrun, hfault⟩ := ih h
      have hnumber : n + ((k + 1 : Nat) : Int) = n + 1 + k := by omega
      refine ⟨k + 1, bad, hbad, ?_, ?_⟩
      · rw [List.take_succ_cons, SplitState.run, hstep]
        exact hrun
      · rw [hnumber]
        exact hfault
    | error e' =>
      rw [hstep] at h
      cases h
      exact ⟨0, line, rfl, rfl, by rwa [Nat.cast_zero, add_zero]⟩

/-! ## Before the first line -/

theorem balanced_readHeader {header : Text} (hheader : Text.lineFeed ∉ header.dropLast)
    (rest : List Text) : ((fresh config millis).readHeader (header :: rest)).Balanced config where
  rows p := by cases p <;> rfl
  sheet p := by cases p <;> rfl
  plain p := by
    have hsheet : ((((fresh config millis).readHeader (header :: rest)).sheets.sheets.get p).toList)
        = [header.stripTerminator] := by
      cases p <;> rfl
    rw [hsheet]
    intro line hline
    rw [List.mem_singleton.1 hline]
    exact Text.lineFeed_not_mem_stripTerminator hheader
  processed := rfl
  statistics hsummarize := by
    refine ⟨_, accumulator_fresh_of_summarize millis hsummarize, ?_⟩
    rintro (_ | _) <;> exact ⟨rfl, rfl⟩

/-- Without a line, all counts are zero. -/
theorem ledgersAgree_readHeader_nil :
    ((fresh config millis).readHeader []).LedgersAgree config where
  rows p := by cases p <;> rfl
  body p := by cases p <;> rfl
  processed := rfl
  statistics hsummarize := by
    refine ⟨_, accumulator_fresh_of_summarize millis hsummarize, rfl, ?_⟩
    rintro (_ | _) <;> exact ⟨rfl, rfl⟩

/-! ## After any number of lines -/

/-- The lines on a sheet after its header are those of the output. -/
theorem Balanced.ledgersAgree (h : s.Balanced config) : s.LedgersAgree config where
  rows := h.rows
  body p := by
    unfold Text.bodyLineCount Sheets.text Sheet.text
    rw [Text.cutAfterFeeds_flatMap (h.plain p), List.length_tail, List.length_map,
      Array.length_toList, h.sheet]
    rfl
  processed := h.processed
  statistics hsummarize := by
    obtain ⟨a, ha, hcounts⟩ := h.statistics hsummarize
    refine ⟨a, ha, ?_, hcounts⟩
    rw [← h.processed]
    exact congrArg₂ _ (hcounts .warmup).1 (hcounts .measurement).1

/-- The counts are equal after the first line and any number of lines more. -/
theorem ledgersAgree_run (config : SplitConfig) (millis : Int)
    (hlines : ∀ line ∈ lines, Text.lineFeed ∉ line.dropLast) (k : Nat) :
    (run config ((fresh config millis).readHeader lines) firstRow
      (lines.tail.take k)).1.LedgersAgree config := by
  cases lines with
  | nil =>
    rw [List.tail_nil, List.take_nil]
    exact ledgersAgree_readHeader_nil
  | cons header rest =>
    obtain ⟨hheader, hrest⟩ := List.forall_mem_cons.1 hlines
    refine ((balanced_readHeader hheader rest).run ?_).ledgersAgree
    exact fun line hline => hrest line (List.mem_of_mem_take hline)

end SplitState

/-! ## Whole splits -/

/-- A line that ends a split finds it in the state after the lines before. -/
theorem exists_stateAfter_of_fault {e : LineFault}
    (h : (splitLines config lines).result = .error (.line e)) :
    ∃ (k : Nat) (line : Text) (s : SplitState), lines.tail[k]? = some line
      ∧ stateAfter config lines k = some s
      ∧ s.step config (SplitState.firstRow + k) line = .error e
      ∧ splitLines config lines = s.abort e := by
  unfold splitLines at h ⊢
  unfold stateAfter
  rcases hstart : SplitState.start config with ⟨fault, log⟩ | start
  · rw [hstart] at h
    injection h with h
    exact absurd (h ▸ hstart) (SplitState.start_ne_line e log)
  · rw [hstart] at h
    dsimp only at h ⊢
    rcases hrun : (start.readHeader lines).run config SplitState.firstRow lines.tail with
      ⟨s, _ | e'⟩
    · rw [hrun] at h
      have hclose : (s.close none).result = .error (.line e) := h
      cases SplitState.result_close_eq_line hclose
    · rw [hrun] at h
      cases h
      obtain ⟨k, line, hline, htaken, hfault⟩ := SplitState.exists_of_run_fault hrun
      refine ⟨k, line, s, hline, ?_, hfault, rfl⟩
      rw [htaken]

theorem ledgersAgree_of_stateAfter {k : Nat} {s : SplitState}
    (hlines : ∀ line ∈ lines, Text.lineFeed ∉ line.dropLast)
    (h : stateAfter config lines k = some s) : s.LedgersAgree config := by
  unfold stateAfter at h
  split at h
  · cases h
  · next start hstart =>
    obtain ⟨millis, -, -, rfl⟩ := SplitState.start_eq_ok_iff.1 hstart
    have hagree := SplitState.ledgersAgree_run config millis hlines k
    split at h
    · next hrun =>
      cases h
      rwa [hrun] at hagree
    · cases h

/-- **The counts agree at every moment.**  After each line that a split has taken, and where a line
ends it, the counts of the router and of the sheets, the lines of the outputs and the counts of the
statistics are equal for each phase, and they add up to the count of the split. -/
theorem splitLines_ledgers (config : SplitConfig) (lines : List Text)
    (hlines : ∀ line ∈ lines, Text.lineFeed ∉ line.dropLast) :
    (∀ k s, stateAfter config lines k = some s → s.LedgersAgree config)
      ∧ ∀ e, (splitLines config lines).result = .error (.line e) →
        ∃ (k : Nat) (line : Text) (s : SplitState), lines.tail[k]? = some line
          ∧ stateAfter config lines k = some s
          ∧ s.step config (SplitState.firstRow + k) line = .error e
          ∧ splitLines config lines = s.abort e ∧ s.LedgersAgree config := by
  refine ⟨fun k s => ledgersAgree_of_stateAfter hlines, ?_⟩
  intro e h
  obtain ⟨k, line, s, hline, hs, hstep, hsplit⟩ := exists_stateAfter_of_fault h
  exact ⟨k, line, s, hline, hs, hstep, hsplit, ledgersAgree_of_stateAfter hlines hs⟩

/-- The choices of `haltingConfig`, with statistics. -/
def countingConfig : SplitConfig := { haltingConfig with summarize := true }

/-- The fifth of these lines ends the split, after two samples and a line that is rejected. -/
theorem splitLines_ledgers_mixedLines :
    (∀ line ∈ mixedLines, Text.lineFeed ∉ line.dropLast)
      ∧ (splitLines countingConfig mixedLines).result
        = .error (.line (.invalidField ⟨5, .elapsed, some (Text.lit "1x")⟩))
      ∧ ∃ (k : Nat) (s : SplitState), stateAfter countingConfig mixedLines k = some s
        ∧ splitLines countingConfig mixedLines
          = s.abort (.invalidField ⟨5, .elapsed, some (Text.lit "1x")⟩)
        ∧ s.LedgersAgree countingConfig := by
  have hlines : ∀ line ∈ mixedLines, Text.lineFeed ∉ line.dropLast := by decide +kernel
  have hends : (splitLines countingConfig mixedLines).result
      = .error (.line (.invalidField ⟨5, .elapsed, some (Text.lit "1x")⟩)) := by decide +kernel
  obtain ⟨k, -, s, -, hs, -, hsplit, hagree⟩ :=
    (splitLines_ledgers countingConfig mixedLines hlines).2 _ hends
  exact ⟨hlines, hends, k, s, hs, hsplit, hagree⟩

end PhaseSplit
