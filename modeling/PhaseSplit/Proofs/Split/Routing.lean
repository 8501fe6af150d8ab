import Mathlib.Tactic
import PhaseSplit.Proofs.Split.Bookkeeping

/-!
# Routing over whole splits

How a split assigns the samples of a file to the phases, told without its state: by the timestamps
of the samples up to each of them.

* `stateAfter` is the state of a split after a number of lines;
* `splitLines_routes_by_running_least`: a sample is written to the warmup exactly when it lies at
  most the length of the warmup after the least timestamp so far, and the epoch is that least;
* `splitLines_against_twoPass`: seen from the end of the file, the measurement holds no sample of
  the warmup, and in the order of time nothing is assigned or ordered differently.
-/

namespace PhaseSplit

/-- The state of a split when it has taken `k` lines after the header, if it comes so far. -/
def stateAfter (config : SplitConfig) (lines : List Text) (k : Nat) : Option SplitState :=
  match SplitState.start config with
  | .error _ => none
  | .ok s =>
    match (s.readHeader lines).run config SplitState.firstRow (lines.tail.take k) with
    | (s, none) => some s
    | (_, some _) => none

variable {config : SplitConfig} {lines : List Text} {r : SplitResult}

theorem tail_take_succ (lines : List Text) (k : Nat) :
    (lines.take (k + 1)).tail = lines.tail.take k :=
  List.tail_take_eq_take_tail lines (k + 1)

theorem samplesOf_take {rs : List Reading}
    (h : config.readings SplitState.firstRow lines.tail = (rs, none)) (k : Nat) :
    samplesOf (rs.take k) = acceptedSamples config (lines.take (k + 1)) := by
  refine samplesOf_eq_acceptedSamples ?_
  rw [tail_take_succ]
  exact SplitConfig.readings_take h k

/-- A split with a result comes past every line, and the epoch is the least timestamp of the samples
up to there. -/
theorem exists_stateAfter (h : (splitLines config lines).result = .ok r) (k : Nat) :
    ∃ s, stateAfter config lines k = some s
      ∧ s.router.epoch = (timestamps (acceptedSamples config (lines.take (k + 1)))).min? := by
  unfold splitLines at h
  unfold stateAfter
  cases hs : SplitState.start config with
  | error e => simp [hs] at h
  | ok s =>
    obtain ⟨millis, -, -, rfl⟩ := SplitState.start_eq_ok_iff.1 hs
    simp only [hs, SplitState.run_eq] at h ⊢
    rcases hr : config.readings SplitState.firstRow lines.tail with ⟨rs, _ | e⟩
    · rw [SplitConfig.readings_take hr k]
      refine ⟨_, rfl, ?_⟩
      rw [SplitState.router_enterAll, Router.epoch_after, SplitState.router_readHeader,
        samplesOf_take hr k]
      rfl
    · simp [hr, SplitState.abort] at h

theorem acceptedSamples_subset {j k : Nat} (hjk : j ≤ k) :
    timestamps (acceptedSamples config (lines.take (j + 1)))
      ⊆ timestamps (acceptedSamples config (lines.take (k + 1))) := by
  intro t ht
  obtain ⟨x, hx, rfl⟩ := List.mem_map.1 ht
  refine List.mem_map.2 ⟨x, ?_, rfl⟩
  simp only [acceptedSamples, tail_take_succ, List.mem_filterMap] at hx ⊢
  obtain ⟨numbered, hmem, hat⟩ := hx
  refine ⟨numbered, ?_, hat⟩
  have hprefix : lines.tail.take j <+: lines.tail.take k := List.take_prefix_take_left hjk
  obtain ⟨rest, hrest⟩ := hprefix
  rw [← hrest, List.zipIdx_append]
  exact List.mem_append_left _ hmem

/-- **The routing law.**  The samples of the file, each with a phase, make up the outputs.  A sample
is in the warmup exactly when it starts at most `millis` after the least of the timestamps up to and
including its own.  After any number of lines the epoch is the least timestamp of the samples among
them; it never rises, and at the end it is the least of all. -/
theorem splitLines_routes_by_running_least (h : (splitLines config lines).result = .ok r) :
    ∃ (millis : Int) (routed : List (Sample × Phase)),
      durationMillis config.warmupDuration config.timeUnit = .ok millis
      ∧ routed.map Prod.fst = acceptedSamples config lines
      ∧ (∀ phase, (splitLines config lines).sheets.text phase
          = closeLines (headerOf lines ++ (ofPhase phase routed).map Sample.line))
      ∧ (∀ (i : Nat) (x : Sample) (phase : Phase), routed[i]? = some (x, phase) →
          ∃ least, ((timestamps (acceptedSamples config lines)).take (i + 1)).min? = some least
            ∧ (phase = .warmup ↔ x.timestamp - least ≤ millis))
      ∧ (∀ k, ∃ s, stateAfter config lines k = some s
          ∧ s.router.epoch = (timestamps (acceptedSamples config (lines.take (k + 1)))).min?)
      ∧ (∀ (j k : Nat) (s t : SplitState) (least : Int), j ≤ k →
          stateAfter config lines j = some s → stateAfter config lines k = some t →
          s.router.epoch = some least → ∃ lower, t.router.epoch = some lower ∧ lower ≤ least)
      ∧ r.epoch = (timestamps (acceptedSamples config lines)).min? := by
  obtain ⟨millis, rs, routed, books⟩ := exists_splitBooks h
  have hsamples := books.samplesOf_eq
  refine ⟨millis, routed, books.millis_eq, books.map_fst_routed, books.text_eq, ?law,
    exists_stateAfter h, ?falls, by rw [books.epoch_eq, hsamples]⟩
  case law =>
    intro i x phase hx
    rw [books.routed_eq] at hx
    obtain ⟨-, least, hleast, hphase⟩ := Router.getElem?_assign hx
    refine ⟨least, by rw [← hsamples]; exact hleast, ?_⟩
    rw [hphase, Epoch.phaseAt]
    split <;> simp_all [SplitState.fresh]
  case falls =>
    intro j k s t least hjk hs ht hleast
    obtain ⟨s', hs', hepoch⟩ := exists_stateAfter h j
    obtain ⟨t', ht', hepoch'⟩ := exists_stateAfter h k
    obtain rfl : s' = s := Option.some.inj (hs'.symm.trans hs)
    obtain rfl : t' = t := Option.some.inj (ht'.symm.trans ht)
    rw [hepoch] at hleast
    rw [hepoch']
    exact min?_le_of_subset hleast (acceptedSamples_subset hjk)

theorem splitLines_routes_mixedLines :
    (splitLines mixedConfig mixedLines).result = .ok mixedResult
      ∧ mixedResult.epoch = (timestamps (acceptedSamples mixedConfig mixedLines)).min?
      ∧ timestamps (acceptedSamples mixedConfig mixedLines) = [5000, 9000, 3000, 5000, 5001] := by
  obtain ⟨_, _, -, -, -, -, -, -, hepoch⟩ :=
    splitLines_routes_by_running_least splitLines_mixedLines
  exact ⟨splitLines_mixedLines, hepoch, by decide +kernel⟩

/-- **The measurement is clean.**  No sample of the measurement starts within the warmup of the
earliest sample of the whole file.  If the first sample is the earliest, the assignment is that of
two passes.  If the samples are in the order of time, the warmup precedes the measurement, and the
two outputs one after the other are the samples in the order of the file. -/
theorem splitLines_against_twoPass (h : (splitLines config lines).result = .ok r) :
    ∃ (millis : Int) (routed : List (Sample × Phase)),
      durationMillis config.warmupDuration config.timeUnit = .ok millis
      ∧ routed.map Prod.fst = acceptedSamples config lines
      ∧ (∀ phase, (splitLines config lines).sheets.text phase
          = closeLines (headerOf lines ++ (ofPhase phase routed).map Sample.line))
      ∧ (∀ x, (x, Phase.measurement) ∈ routed →
          ∃ epoch, r.epoch = some epoch ∧ epoch + millis < x.timestamp)
      ∧ ((∀ first, (acceptedSamples config lines).head? = some first →
            ∀ x ∈ acceptedSamples config lines, first.timestamp ≤ x.timestamp) →
          routed = twoPass millis (acceptedSamples config lines))
      ∧ ((timestamps (acceptedSamples config lines)).Pairwise (· ≤ ·) →
          (∀ x y, (x, Phase.warmup) ∈ routed → (y, Phase.measurement) ∈ routed →
            x.lineNumber < y.lineNumber)
          ∧ (ofPhase .warmup routed).map Sample.line
              ++ (ofPhase .measurement routed).map Sample.line
            = (acceptedSamples config lines).map Sample.line) := by
  obtain ⟨millis, rs, routed, books⟩ := exists_splitBooks h
  have hsamples := books.samplesOf_eq
  refine ⟨millis, routed, books.millis_eq, books.map_fst_routed, books.text_eq, ?clean, ?agree,
    ?order⟩
  case clean =>
    intro x hx
    rw [books.routed_eq] at hx
    rw [books.epoch_eq]
    exact Router.lt_of_mem_assign_measurement rfl hx
  case agree =>
    intro hfirst
    rw [books.routed_eq, hsamples]
    exact Router.assign_eq_twoPass rfl hfirst
  case order =>
    intro hsorted
    have hphases : routed.Pairwise fun a b => a.2 = .measurement → b.2 = .measurement := by
      rw [books.routed_eq, hsamples]
      exact Router.pairwise_assign_of_sorted rfl hsorted
    refine ⟨?_, by rw [← List.map_append, warmup_append_measurement hphases, books.map_fst_routed]⟩
    intro x y hx hy
    have hnumbers : routed.Pairwise fun a b => a.1.lineNumber < b.1.lineNumber := by
      rw [← List.pairwise_map (f := Prod.fst)
          (R := fun x y : Sample => x.lineNumber < y.lineNumber),
        books.map_fst_routed]
      exact pairwise_lineNumber_acceptedSamples config lines
    obtain ⟨i, hi, hix⟩ := List.mem_iff_getElem.1 hx
    obtain ⟨j, hj, hjy⟩ := List.mem_iff_getElem.1 hy
    rcases lt_trichotomy i j with hij | rfl | hji
    · have := List.pairwise_iff_getElem.1 hnumbers i j hi hj hij
      rwa [hix, hjy] at this
    · rw [hix] at hjy
      cases hjy
    · have := List.pairwise_iff_getElem.1 hphases j i hj hi hji
      rw [hix, hjy] at this
      cases this rfl

/-- Samples in the order of time, one on the edge of the warmup and one just after it. -/
def sortedLines : List Text :=
  [Text.lit "timeStamp,elapsed,label",
    Text.lit "1000,10,a,b,c,d,e,true,f,100,20",
    Text.lit "3000,12,a,b,c,d,e,FALSE,f,100,20",
    Text.lit "0,1x,a,b,c,d,e,true,f,100,20",
    Text.lit "3001,12,a,b,c,d,e,True,f,100,20"]

theorem splitLines_against_twoPass_sortedLines :
    ∃ r, (splitLines mixedConfig sortedLines).result = .ok r
      ∧ ∃ routed, routed = twoPass 2000 (acceptedSamples mixedConfig sortedLines)
        ∧ (∀ x, (x, Phase.measurement) ∈ routed →
            ∃ epoch, r.epoch = some epoch ∧ epoch + 2000 < x.timestamp)
        ∧ (ofPhase .warmup routed).map Sample.line ++ (ofPhase .measurement routed).map Sample.line
          = (acceptedSamples mixedConfig sortedLines).map Sample.line := by
  have hresult : (splitLines mixedConfig sortedLines).result
      = .ok ⟨⟨2, 1⟩, [], [4], some 1000, none⟩ := by decide +kernel
  have hsorted : (timestamps (acceptedSamples mixedConfig sortedLines)).Pairwise (· ≤ ·) := by
    decide +kernel
  obtain ⟨millis, routed, hmillis, -, -, hclean, hagree, horder⟩ :=
    splitLines_against_twoPass hresult
  have h2000 : durationMillis mixedConfig.warmupDuration mixedConfig.timeUnit = .ok 2000 := by
    decide +kernel
  obtain rfl : millis = 2000 := Except.ok.inj (hmillis.symm.trans h2000)
  have hfirst : ∀ first, (acceptedSamples mixedConfig sortedLines).head? = some first →
      ∀ x ∈ acceptedSamples mixedConfig sortedLines, first.timestamp ≤ x.timestamp := by
    decide +kernel
  exact ⟨_, hresult, routed, hagree hfirst, hclean, (horder hsorted).2⟩

end PhaseSplit
