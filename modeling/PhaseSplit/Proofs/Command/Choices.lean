import Mathlib.Tactic
import PhaseSplit.Proofs.Command.Ending

/-!
# Choices with which no line can be split

A split with choices that cannot be used always fails.  Three of the four conditions on the choices
are checked before anything else is done.  The fourth, that there is a unit of time of the name, is
not known before the outputs have been opened, and opening empties them.

* `SplitChoices.Usable`: the conditions;
* `outputsEmptied`, `splitFile_of_noUnit`: the split of a file without a unit of time;
* `splitChosen_unusable`: what a split with unusable choices leaves.
-/

namespace PhaseSplit

/-- Choices with which lines can be split. -/
structure SplitChoices.Usable (choices : SplitChoices) : Prop where
  warmup_pos : 0 < choices.warmupDuration
  precision_nonneg : 0 ≤ choices.precision
  interval_pos : 0 < choices.progressInterval
  unit : TimeUnit.ofText? choices.timeUnit ≠ none

/-- All but the unit is known of choices that make a configuration. -/
theorem SplitChoices.usable_of_check {choices : SplitChoices} {config : SplitConfig}
    (h : choices.check = .ok config) (hunit : TimeUnit.ofText? config.timeUnit ≠ none) :
    choices.Usable := by
  obtain rfl := Command.toSplitChoices_of_check h
  exact ⟨config.warmup_pos, config.precision_nonneg, config.interval_pos, hunit⟩

/-! ## A file without a unit of time -/

/-- Files that are written empty: each of them is empty afterwards, under whatever path, and nothing
else has changed. -/
theorem FileTree.emptied_of_writeAll {t t' : FileTree} {files : List (Text × List UInt8)}
    {outputs : List Text} (h : t.writeAll files = .ok t')
    (hmem : ∀ file, file ∈ files ↔ file.1 ∈ outputs ∧ file.2 = []) :
    (∀ other, t'.at? other
        = if ∃ output ∈ outputs, t.SamePlace output other then some (.file []) else t.at? other)
      ∧ (outputs = [] → t' = t) := by
  constructor
  · intro other
    have hplaces : (∃ file ∈ files, t.SamePlace file.1 other)
        ↔ ∃ output ∈ outputs, t.SamePlace output other := by
      constructor
      · rintro ⟨file, hfile, hplace⟩
        exact ⟨file.1, ((hmem file).1 hfile).1, hplace⟩
      · rintro ⟨output, houtput, hplace⟩
        exact ⟨(output, []), (hmem _).2 ⟨houtput, rfl⟩, hplace⟩
    rw [at?_writeAll_same h (fun file hfile => ((hmem file).1 hfile).2)]
    simp only [hplaces]
  · rintro rfl
    have hnone : files = [] := List.eq_nil_iff_forall_not_mem.2 fun file hfile => by
      simpa using (hmem file).1 hfile
    rw [hnone] at h
    exact (Except.ok.inj h).symm

/-- The outputs of samples, in the order in which they are opened. -/
def sampleOutputs (path : Text) : List Text :=
  [(OutputPaths.ofInput path).samples.get .warmup,
    (OutputPaths.ofInput path).samples.get .measurement]

/-- The outputs that the split of a file without a unit of time empties: none if it does not come to
open its input, and else those of samples up to the first that cannot be written. -/
def outputsEmptied (path : Text) (world : World) : List Text :=
  match Session.nextReading world, world.files.read path with
  | .seconds _, .ok _ => (sampleOutputs path).takeWhile world.files.canWrite
  | _, _ => []

section

variable {config : SplitConfig} {path : Text} {content : List UInt8} {world : World}

/-- Without a unit of time there is nothing to fill the outputs with. -/
theorem writesOf_of_noUnit (h : TimeUnit.ofText? config.timeUnit = none) :
    writesOf config path content
      = (sampleOutputs path ++ sampleOutputs path).map fun output => (output, []) := by
  have hcontent : splitContent config content
      = ⟨.empty, [], [], .error (.router (.unsupportedUnit ⟨config.timeUnit⟩))⟩ :=
    splitLines_of_noUnit h
  have hempty : ∀ phase, (Sheets.empty.text phase).encode = [] := by
    intro phase
    cases phase <;> rfl
  rw [writesOf_of_error (by rw [hcontent])]
  unfold sheetFiles
  rw [hcontent]
  simp only [hempty]
  rfl

/-- Of a list of outputs that are opened twice, those up to the first that is refused are opened. -/
theorem mem_takeWhile_twice {α : Type} {f : α → Bool} {l : List α} {a : α} :
    a ∈ (l ++ l).takeWhile f ↔ a ∈ l.takeWhile f := by
  rw [List.takeWhile_append]
  split
  · next hall =>
    have hself : l.takeWhile f = l := (List.takeWhile_sublist f).eq_of_length hall
    rw [hself, List.mem_append, or_self]
  · rfl

/-- **The split of a file without a unit of time** fails, and the outputs that it has opened are
empty. -/
theorem splitFile_of_noUnit (h : TimeUnit.ofText? config.timeUnit = none) (path : Text)
    (removeInput : Bool) (world : World) :
    ∃ e world', (splitFile config path removeInput).result world = (.error e, world')
      ∧ (∃ files, world.files.writeAll files = .ok world'.files
        ∧ ∀ file, file ∈ files ↔ file.1 ∈ outputsEmptied path world ∧ file.2 = [])
      ∧ (outputsEmptied path world = sampleOutputs path →
        e = .split (.router (.unsupportedUnit ⟨config.timeUnit⟩))) := by
  unfold outputsEmptied
  cases hclock : Session.nextReading world with
  | interrupt =>
    have hfiles := Session.files_afterReading world
    refine ⟨_, _, result_splitFile_of_interrupt hclock, ⟨[], ?_, by simp⟩, by rintro ⟨⟩⟩
    rw [hfiles]
    rfl
  | seconds start =>
    cases hread : world.files.read path with
    | error f =>
      have hfiles := files_worldOfLines config path world
      refine ⟨_, _, result_splitFile_of_unread hclock hread, ⟨[], ?_, by simp⟩, by rintro ⟨⟩⟩
      rw [hfiles]
      rfl
    | ok content =>
      have hresult : (splitContent config content).result
          = .error (.router (.unsupportedUnit ⟨config.timeUnit⟩)) := by
        unfold splitContent
        rw [splitLines_of_noUnit h]
      obtain ⟨world', hrun, hfiles⟩ :=
        @result_splitFile_of_fault config path content world _ _ hclock hread hresult removeInput
      have hwritten := FileTree.writeAll_takeWhile world.files (writesOf config path content)
      rw [← hfiles] at hwritten
      refine ⟨_, world', hrun, ⟨_, hwritten, ?_⟩, ?_⟩
      · rintro ⟨output, bytes⟩
        rw [writesOf_of_noUnit h, List.takeWhile_map, List.mem_map]
        constructor
        · rintro ⟨output', houtput', heq⟩
          cases heq
          exact ⟨mem_takeWhile_twice.1 houtput', rfl⟩
        · rintro ⟨houtput, hbytes⟩
          exact ⟨output, mem_takeWhile_twice.2 houtput, Prod.ext rfl hbytes.symm⟩
      · intro hall
        have htwice := List.takeWhile_eq_self_iff.1 hall
        have hopened : (writesOf config path content).takeWhile
            (fun file => world.files.canWrite file.1) = writesOf config path content := by
          rw [List.takeWhile_eq_self_iff, writesOf_of_noUnit h, List.forall_mem_map]
          intro output houtput
          exact htwice output (or_self_iff.1 (List.mem_append.1 houtput))
        rw [hopened] at hwritten
        rw [hwritten]

end

/-! ## Unusable choices -/

/-- The outputs that a split with unusable choices empties: none if the choices are refused or the
length of the warmup has no numeral. -/
def SplitChoices.emptied (choices : SplitChoices) (path : Text) (world : World) : List Text :=
  match choices.check with
  | .error _ => []
  | .ok config =>
    if config.warmupDuration.natAbs < Nat.pow 10 maxDigits then outputsEmptied path world else []

section

variable {choices : SplitChoices} {config : SplitConfig} {world : World}

/-- Choices that are refused leave everything as it was. -/
theorem splitChosen_of_refused {f : ChoiceFault} (h : choices.check = .error f) (path : Text)
    (removeInput : Bool) (world : World) :
    (splitChosen choices path removeInput).result world = (.error (.choice f), world)
      ∧ choices.emptied path world = [] := by
  unfold splitChosen SplitChoices.emptied
  rw [h]
  exact ⟨rfl, rfl⟩

/-- So does a warmup whose length has no numeral. -/
theorem splitChosen_of_long (h : choices.check = .ok config)
    (hlong : ¬config.warmupDuration.natAbs < Nat.pow 10 maxDigits) (path : Text)
    (removeInput : Bool) (world : World) :
    (splitChosen choices path removeInput).result world
        = (.error (.split (.split (.router .warmupTooLongToWrite))), world)
      ∧ choices.emptied path world = [] := by
  have hsay : sayChoices config = throw (.split (.split (.router .warmupTooLongToWrite))) :=
    if_neg hlong
  unfold splitChosen SplitChoices.emptied
  rw [h]
  refine ⟨?_, if_neg hlong⟩
  rw [Session.result_bind_of_ok (Session.ofExcept_eq_ok_iff.2 ⟨rfl, rfl⟩), hsay]
  rfl

/-- With other choices the file is split. -/
theorem splitChosen_of_check (h : choices.check = .ok config)
    (hshort : config.warmupDuration.natAbs < Nat.pow 10 maxDigits) (path : Text)
    (removeInput : Bool) (world : World) :
    (splitChosen choices path removeInput).result world
        = (Command.within .split (splitFile config path removeInput)).result
          { world with log := world.log ++ [config.setupRecord] }
      ∧ choices.emptied path world = outputsEmptied path world := by
  have hsay : sayChoices config = Session.say config.setupRecord := if_pos hshort
  unfold splitChosen SplitChoices.emptied
  rw [h]
  refine ⟨?_, if_pos hshort⟩
  rw [Session.result_bind_of_ok (Session.ofExcept_eq_ok_iff.2 ⟨rfl, rfl⟩), hsay,
    Session.result_bind_of_ok (Session.result_say _ _)]

/-- **A split with unusable choices fails.**  It changes nothing if the choices are refused.  But a
name of no unit of time is not refused before the outputs of samples have been opened: all of them
that are opened are empty afterwards, and nothing else has changed. -/
theorem splitChosen_unusable (h : ¬choices.Usable) (path : Text) (removeInput : Bool)
    (world : World) :
    ∃ e world', (splitChosen choices path removeInput).result world = (.error e, world')
      ∧ (∀ f, choices.check = .error f → e = .choice f ∧ world' = world)
      ∧ (∀ other, world'.files.at? other
          = if ∃ output ∈ choices.emptied path world, world.files.SamePlace output other
            then some (.file []) else world.files.at? other)
      ∧ (choices.emptied path world = [] → world'.files = world.files)
      ∧ (choices.emptied path world = sampleOutputs path →
        e = .split (.split (.router (.unsupportedUnit ⟨choices.timeUnit⟩)))) := by
  cases hcheck : choices.check with
  | error f =>
    obtain ⟨hrun, hnone⟩ := splitChosen_of_refused hcheck path removeInput world
    rw [hnone]
    refine ⟨.choice f, world, hrun, ?_, by simp, fun _ => rfl, by rintro ⟨⟩⟩
    rintro f' ⟨⟩
    exact ⟨rfl, rfl⟩
  | ok config =>
    by_cases hshort : config.warmupDuration.natAbs < Nat.pow 10 maxDigits
    · have hunit : TimeUnit.ofText? config.timeUnit = none := by
        by_contra hunit
        exact h (SplitChoices.usable_of_check hcheck hunit)
      have hname : config.timeUnit = choices.timeUnit :=
        congrArg SplitChoices.timeUnit (Command.toSplitChoices_of_check hcheck)
      set v : World := { world with log := world.log ++ [config.setupRecord] }
      have hsame : outputsEmptied path v = outputsEmptied path world := rfl
      obtain ⟨hrun, hemptied⟩ := splitChosen_of_check hcheck hshort path removeInput world
      obtain ⟨e, world', hsplit, ⟨files, hfiles, hmem⟩, hfault⟩ :=
        splitFile_of_noUnit hunit path removeInput v
      rw [hsame, ← hemptied] at hmem hfault
      obtain ⟨hat, hkept⟩ := FileTree.emptied_of_writeAll hfiles hmem
      refine ⟨.split e, world', ?_, by rintro f ⟨⟩, hat, hkept, ?_⟩
      · rw [hrun, Command.result_within, hsplit]
        rfl
      · intro hall
        rw [hfault hall, hname]
    · obtain ⟨hrun, hnone⟩ := splitChosen_of_long hcheck hshort path removeInput world
      rw [hnone]
      exact ⟨_, world, hrun, by rintro f ⟨⟩, by simp, fun _ => rfl, by rintro ⟨⟩⟩

end

/-- A warmup of one week. -/
def weekChoices : SplitChoices :=
  { SplitChoices.default plainSettings 1 with timeUnit := Text.lit "weeks" }

/-- A world in which the warmup is there from an earlier split. -/
def splitBeforeWorld : World :=
  .initial ⟨[([Text.lit "run.jtl"], .file runContent),
    ([Text.lit "run-warmup.jtl"], .file [0x61])], []⟩ []

theorem not_usable_weekChoices : ¬weekChoices.Usable :=
  fun h => h.unit (by decide +kernel)

/-- The earlier warmup is gone, and there is an empty measurement. -/
theorem splitChosen_unusable_week :
    ¬weekChoices.Usable
      ∧ ∃ world', (splitChosen weekChoices (Text.lit "run.jtl") true).result splitBeforeWorld
          = (.error (.split (.split (.router (.unsupportedUnit ⟨Text.lit "weeks"⟩)))), world')
        ∧ world'.files.at? (Text.lit "run-warmup.jtl") = some (.file [])
        ∧ world'.files.at? (Text.lit "run-measurement.jtl") = some (.file [])
        ∧ world'.files.at? (Text.lit "run.jtl") = some (.file runContent) := by
  obtain ⟨e, world', hrun, -, hat, -, hfault⟩ := splitChosen_unusable not_usable_weekChoices
    (Text.lit "run.jtl") true splitBeforeWorld
  have hemptied : weekChoices.emptied (Text.lit "run.jtl") splitBeforeWorld
      = [Text.lit "run-warmup.jtl", Text.lit "run-measurement.jtl"] := by decide +kernel
  have houtputs : sampleOutputs (Text.lit "run.jtl")
      = [Text.lit "run-warmup.jtl", Text.lit "run-measurement.jtl"] := by decide +kernel
  obtain rfl := hfault (hemptied.trans houtputs.symm)
  rw [hemptied] at hat
  refine ⟨not_usable_weekChoices, world', hrun, ?_, ?_, ?_⟩
  · rw [hat, if_pos (by decide +kernel)]
  · rw [hat, if_pos (by decide +kernel)]
  · rw [hat, if_neg (by decide +kernel)]
    decide +kernel

/-- Unusable choices do not leave every file as it was. -/
theorem splitChosen_unusable_empties :
    ¬weekChoices.Usable
      ∧ splitBeforeWorld.files.at? (Text.lit "run-warmup.jtl") = some (.file [0x61])
      ∧ ((splitChosen weekChoices (Text.lit "run.jtl") false).result splitBeforeWorld).2.files.at?
          (Text.lit "run-warmup.jtl") = some (.file []) :=
  ⟨not_usable_weekChoices, by decide +kernel, by decide +kernel⟩

end PhaseSplit
