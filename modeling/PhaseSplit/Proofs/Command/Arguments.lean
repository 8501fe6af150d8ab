import Mathlib.Tactic
import PhaseSplit.Command.Line
import PhaseSplit.Proofs.Except
import PhaseSplit.Proofs.Text.Integer

/-!
# What a command line has checked

Each value on a command line is checked when it is read, and a default is not: so a split that is
asked for has a positive warmup with a numeral and an input that is a file, but its unit and its
precision may be those of the settings, whatever they are.

* `OptionTable.parse_invariant`: what each option and operand keeps, a whole command line keeps;
* `SplitRequest.Checked`: what is known of a split that is asked for;
* `Invocation.checked_of_ofArguments`: of every split that a command line asks for.
-/

namespace PhaseSplit

/-- A command line keeps what each of its options and operands keeps. -/
theorem OptionTable.parse_invariant {κ α ε : Type} {table : OptionTable κ} {rule : OperandRule}
    {refuse : ArgumentFault → ε} {take : α → Occurrence κ → Except ε α} {start value : α}
    {arguments extras : List Text} {P : α → Prop} (hstart : P start)
    (htake : ∀ a o a', P a → take a o = .ok a' → P a')
    (h : table.parse rule refuse take start arguments = .ok (value, extras)) : P value := by
  unfold parse at h
  obtain ⟨items, -, h⟩ := bind_eq_ok_iff.1 h
  obtain ⟨value', hvalue, h⟩ := bind_eq_ok_iff.1 h
  split at h
  · cases h
  · cases h
    exact foldlM_invariant (fun a o a' _ => htake a o a') hstart hvalue

/-! ## Values -/

/-- The names of the units name these units, in any settings. -/
theorem TimeUnit.ofText?_name (unit : TimeUnit) : ofText? unit.name = some unit := by
  cases unit <;> decide +kernel

theorem exists_unit_of_readTimeUnit {t name : Text} (h : Invocation.readTimeUnit t = .ok name) :
    ∃ unit, TimeUnit.ofText? name = some unit := by
  unfold Invocation.readTimeUnit at h
  dsimp only at h
  split at h
  · next hmem =>
    cases h
    obtain ⟨unit, -, hunit⟩ := List.mem_map.1 (List.contains_iff_mem.1 hmem)
    rw [← hunit]
    exact ⟨unit, TimeUnit.ofText?_name unit⟩
  · cases h

theorem natAbs_lt_of_readWarmup {t : Text} {n : Int} (h : Invocation.readWarmup t = .ok n) :
    0 < n ∧ n.natAbs < 10 ^ maxDigits := by
  unfold Invocation.readWarmup at h
  split at h
  · cases h
  · next hread =>
    split at h <;> cases h
    exact ⟨by assumption, natAbs_lt_of_readInteger hread⟩

theorem natAbs_lt_of_readPrecision {t : Text} {n : Int} (h : Invocation.readPrecision t = .ok n) :
    0 ≤ n ∧ n.natAbs < 10 ^ maxDigits := by
  unfold Invocation.readPrecision at h
  split at h
  · cases h
  · next hread =>
    split at h <;> cases h
    exact ⟨by assumption, natAbs_lt_of_readInteger hread⟩

theorem exists_file_of_readFilePath {files : FileTree} {t path : Text}
    (h : Invocation.readFilePath files t = .ok path) :
    ∃ content, files.at? path = some (.file content) := by
  unfold Invocation.readFilePath at h
  split at h
  · cases h
  · cases h
  · next content hfile =>
    cases h
    exact ⟨content, hfile⟩

/-! ## Splits -/

/-- What is known of a precision and a unit that may be those of the settings. -/
structure Settings.Allows (settings : Settings) (precision : Int) (timeUnit : Text) : Prop where
  precision : precision = settings.precision ∨ 0 ≤ precision ∧ precision.natAbs < 10 ^ maxDigits
  timeUnit : timeUnit = settings.timeUnit ∨ ∃ unit, TimeUnit.ofText? timeUnit = some unit

/-- What is known of a split that is asked for. -/
structure SplitRequest.Checked (settings : Settings) (files : FileTree) (r : SplitRequest) :
    Prop where
  warmup_pos : 0 < r.warmupDuration
  warmup_short : r.warmupDuration.natAbs < 10 ^ maxDigits
  allowed : settings.Allows r.precision r.timeUnit
  input : ∃ content, files.at? r.path = some (.file content)

namespace Invocation

variable {settings : Settings} {files : FileTree} {arguments : List Text}

/-- What is known of a split as far as its options have been read. -/
structure SplitDraft.Checked (settings : Settings) (files : FileTree) (d : SplitDraft) : Prop where
  warmup : ∀ n, d.warmupDuration = some n → 0 < n ∧ n.natAbs < 10 ^ maxDigits
  allowed : settings.Allows d.precision d.timeUnit
  input : ∀ path, d.path = some path → ∃ content, files.at? path = some (.file content)

theorem SplitDraft.checked_start : (start settings).Checked settings files :=
  ⟨by rintro _ ⟨⟩, ⟨.inl rfl, .inl rfl⟩, by rintro _ ⟨⟩⟩

theorem SplitDraft.checked_take {d d' : SplitDraft} {o : OptionTable.Occurrence SplitOption}
    (hd : d.Checked settings files) (h : take files d o = .ok d') : d'.Checked settings files := by
  obtain ⟨hwarmup, hallowed, hinput⟩ := hd
  unfold take at h
  cases o with
  | flag spec =>
    dsimp only at h
    split at h <;> cases h <;> exact ⟨hwarmup, hallowed, hinput⟩
  | operands _ =>
    cases h
    exact ⟨hwarmup, hallowed, hinput⟩
  | value spec t =>
    dsimp only at h
    split at h
    · obtain ⟨n, hn, h⟩ := bind_eq_ok_iff.1 h
      cases h
      refine ⟨?_, hallowed, hinput⟩
      rintro _ ⟨⟩
      exact natAbs_lt_of_readWarmup (mapError_eq_ok_iff.1 hn)
    · obtain ⟨name, hname, h⟩ := bind_eq_ok_iff.1 h
      cases h
      have hunit := exists_unit_of_readTimeUnit (mapError_eq_ok_iff.1 hname)
      exact ⟨hwarmup, ⟨hallowed.precision, .inr hunit⟩, hinput⟩
    · obtain ⟨path, hpath, h⟩ := bind_eq_ok_iff.1 h
      cases h
      refine ⟨hwarmup, hallowed, ?_⟩
      rintro _ ⟨⟩
      exact exists_file_of_readFilePath (mapError_eq_ok_iff.1 hpath)
    · obtain ⟨n, hn, h⟩ := bind_eq_ok_iff.1 h
      cases h
      have hprecision := natAbs_lt_of_readPrecision (mapError_eq_ok_iff.1 hn)
      exact ⟨hwarmup, ⟨.inr hprecision, hallowed.timeUnit⟩, hinput⟩
    · cases h
      exact ⟨hwarmup, hallowed, hinput⟩

theorem checked_of_finish {d : SplitDraft} {r : SplitRequest} (hd : d.Checked settings files)
    (h : d.finish = .ok r) : r.Checked settings files := by
  unfold SplitDraft.finish at h
  split at h
  · next n path hn hpath =>
    cases h
    obtain ⟨hpos, hshort⟩ := hd.warmup n hn
    exact ⟨hpos, hshort, hd.allowed, hd.input path hpath⟩
  · cases h

theorem checked_of_parseSplit {command : Command} {extras : List Text}
    (h : parseSplit settings files arguments = .ok (command, extras)) :
    ∃ r, command = .split r ∧ r.Checked settings files := by
  unfold parseSplit at h
  obtain ⟨⟨draft, extras'⟩, hdraft, h⟩ := bind_eq_ok_iff.1 h
  obtain ⟨r, hr, h⟩ := bind_eq_ok_iff.1 h
  cases h
  have hchecked := OptionTable.parse_invariant SplitDraft.checked_start
    (fun _ _ _ => SplitDraft.checked_take) hdraft
  exact ⟨r, rfl, checked_of_finish hchecked hr⟩

/-! ## Whole command lines -/

theorem exists_report_of_parseReport {command : Command} {extras : List Text}
    (h : parseReport arguments = .ok (command, extras)) : ∃ r, command = .report r := by
  unfold parseReport at h
  obtain ⟨⟨draft, extras'⟩, -, h⟩ := bind_eq_ok_iff.1 h
  dsimp only at h
  split at h
  · cases h
  · cases h
    exact ⟨draft, rfl⟩

theorem exists_plot_of_parsePlot {command : Command} {extras : List Text}
    (h : parsePlot arguments = .ok (command, extras)) : ∃ r, command = .plot r := by
  unfold parsePlot at h
  obtain ⟨⟨draft, extras'⟩, -, h⟩ := bind_eq_ok_iff.1 h
  dsimp only at h
  split at h
  · cases h
    exact ⟨_, rfl⟩
  · cases h

theorem checked_of_parseCommand {name : Text} {r : SplitRequest} {extras : List Text}
    (h : parseCommand settings files name arguments = .ok (.split r, extras)) :
    r.Checked settings files := by
  unfold parseCommand at h
  split at h
  · obtain ⟨r', heq, hchecked⟩ := checked_of_parseSplit h
    cases heq
    exact hchecked
  · split at h
    · obtain ⟨r', heq⟩ := exists_report_of_parseReport h
      cases heq
    · split at h
      · obtain ⟨r', heq⟩ := exists_plot_of_parsePlot h
        cases heq
      · cases h

/-- What is known of the split of an invocation, if its command is one. -/
def SplitChecked (settings : Settings) (files : FileTree) (d : Invocation × List Text) : Prop :=
  ∀ r, d.1.command = some (.split r) → r.Checked settings files

theorem splitChecked_take {d d' : Invocation × List Text}
    {o : OptionTable.Occurrence ProgramOption} (hd : SplitChecked settings files d)
    (h : take settings files d o = .ok d') : SplitChecked settings files d' := by
  unfold take at h
  split at h
  · split at h <;> cases h
    exact hd
  · cases h
    exact hd
  · cases h
    exact hd
  · obtain ⟨⟨command, extras⟩, hcommand, h⟩ := bind_eq_ok_iff.1 h
    cases h
    rintro r ⟨⟩
    exact checked_of_parseCommand hcommand

/-- **A split that a command line asks for has been checked.** -/
theorem checked_of_ofArguments {verbose : Bool} {r : SplitRequest}
    (h : ofArguments settings files arguments = .ok ⟨verbose, some (.split r)⟩) :
    r.Checked settings files := by
  have hstart : SplitChecked settings files (⟨false, none⟩, []) := by rintro r ⟨⟩
  unfold ofArguments at h
  obtain ⟨⟨⟨invocation, after⟩, before⟩, hparse, h⟩ := bind_eq_ok_iff.1 h
  have hchecked := OptionTable.parse_invariant hstart (fun _ _ _ => splitChecked_take) hparse
  dsimp only at h
  split at h
  · cases h
    exact hchecked r rfl
  · cases h

end Invocation

end PhaseSplit
