import Mathlib.Tactic
import PhaseSplit.Proofs.Chart.Faults
import PhaseSplit.Proofs.Command.Arguments
import PhaseSplit.Proofs.Command.Help
import PhaseSplit.Proofs.Report.Faults
import PhaseSplit.Proofs.Split.Faults

/-!
# How the program ends

The program ends with a status, and a fault that it tells ends it with status 1.  Any other fault
leaves it: a default that nothing has checked, a page of help that cannot be shown, a number with
too many digits, a summary or an output that cannot be read, a value that cannot be written or
drawn, a directory below more missing ones than there is room for, or a fault of a library of the
machine that is not one of its system.  A malformed line never does, nor does a path that the system
refuses.

* `Command.result_within`: work with another kind of fault;
* `Command.Escapes`: the faults of a command that leave the program, and what makes them;
* `Command.escapes_of_work`: no other fault is left untold;
* `runProgram_ends`: how the program ends, on every command line.
-/

namespace PhaseSplit

/-! ## Faults that are not told -/

/-- What makes a fault of a command leave the program.  Of a split, it is a default of the settings
that is not checked, a number with too many digits, or a clock or a file beyond all measure. -/
inductive Command.Escapes (settings : Settings) (world : World) : Command → CommandFault → Prop
  | precision (r : SplitRequest) (h : settings.precision < 0) :
    Escapes settings world (.split r) (.choice (.refused (.precisionNegative settings.precision)))
  | interval (r : SplitRequest) (h : settings.progressInterval ≤ 0) :
    Escapes settings world (.split r)
      (.choice (.refused (.intervalNotPositive settings.progressInterval)))
  | unit (r : SplitRequest) (e : UnsupportedUnit)
      (h : TimeUnit.ofText? settings.timeUnit = none) :
    Escapes settings world (.split r) (.split (.split (.router (.unsupportedUnit e))))
  | warmup (r : SplitRequest) (unit : TimeUnit) (hunit : TimeUnit.ofText? r.timeUnit = some unit)
      (h : 10 ^ maxDigits ≤ (unit.toMillis r.warmupDuration).natAbs) :
    Escapes settings world (.split r) (.split (.split (.router .warmupTooLongToWrite)))
  | digits (r : SplitRequest) (content : List UInt8) (count : Nat)
      (hread : world.files.read r.path = .ok content)
      (h : ∃ line ∈ (linesOf content).tail, BreaksOff defaultColumnLimit line.stripTerminator) :
    Escapes settings world (.split r) (.split (.split (.line (.tooManyDigits count))))
  | lines (r : SplitRequest) (content : List UInt8) (e : SummaryFault)
      (hread : world.files.read r.path = .ok content)
      (h : 2 ^ 63 ≤ (linesOf content).length) :
    Escapes settings world (.split r) (.split (.split (.summary e)))
  | time (r : SplitRequest) (e : FileSplitFault)
      (h : ∃ start stop, Session.nextReading world = .seconds start
        ∧ Session.nextReading (Session.afterReading world) = .seconds stop
        ∧ wholeSeconds (stop.sub start) = .error e) :
    Escapes settings world (.split r) (.split e)
  | report (r : ReportRequest) (e : ReportFault) (h : e.Cause world.host world.files r)
      (hsilent : (CommandFault.report e).telling = none) :
    Escapes settings world (.report r) (.report e)
  | chart (r : PlotRequest) (e : ChartFault)
      (h : e.Cause world.host world.files r)
      (hsilent : (CommandFault.chart e).telling = none) :
    Escapes settings world (.plot r) (.chart e)

namespace Command

/-! ## Work -/

theorem result_within {ε ε' α : Type} (wrap : ε → ε') (work : Session ε α) (w : World) :
    (within wrap work).result w = ((work.result w).1.mapError wrap, (work.result w).2) := rfl

theorem within_eq_error_iff {ε ε' α : Type} {wrap : ε → ε'} {work : Session ε α} {w w' : World}
    {e : ε'} :
    (within wrap work).result w = (.error e, w')
      ↔ ∃ f, work.result w = (.error f, w') ∧ wrap f = e := by
  rw [result_within]
  rcases work.result w with ⟨_ | a, v⟩
  · simp [Except.mapError, and_comm]
  · simp [Except.mapError]

section

variable {settings : Settings} {world world' : World} {r : SplitRequest} {config : SplitConfig}
  {e : CommandFault}

/-- The choices of a split that has been checked are refused for a default of the settings. -/
theorem escapes_of_check {f : ChoiceFault} (hchecked : r.Checked settings world.files)
    (h : (splitChoices settings r).check = .error f) :
    Escapes settings world (.split r) (.choice (.refused f)) := by
  have hwarmup : 0 < (splitChoices settings r).warmupDuration := hchecked.warmup_pos
  unfold SplitChoices.check at h
  rw [dif_pos hwarmup] at h
  split at h
  · split at h
    · cases h
    · next hinterval =>
      cases h
      exact .interval r (Int.not_lt.1 hinterval)
  · next hprecision =>
    cases h
    have hprecision : ¬0 ≤ r.precision := hprecision
    rcases hchecked.allowed.precision with hdefault | ⟨hnonneg, -⟩
    · have hmessage : (splitChoices settings r).precision = settings.precision := hdefault
      rw [hmessage]
      rw [hdefault] at hprecision
      exact .precision r (Int.not_le.1 hprecision)
    · exact absurd hnonneg hprecision

/-- A configuration is made of the choices that have been checked. -/
theorem toSplitChoices_of_check {choices : SplitChoices} (h : choices.check = .ok config) :
    config.toSplitChoices = choices := by
  unfold SplitChoices.check at h
  split at h
  · split at h
    · split at h
      · cases h
        rfl
      · cases h
    · cases h
  · cases h

/-- The cause of a fault of a split, if the fault is not told. -/
theorem escapes_of_cause {content : List UInt8} {f : FileSplitFault}
    (hprecision : settings.precision.natAbs < 10 ^ maxDigits)
    (hchecked : r.Checked settings world.files)
    (hconfig : (splitChoices settings r).check = .ok config)
    (hread : world.files.read r.path = .ok content) (h : f.Cause config content world)
    (hsilent : (CommandFault.split f).telling = none) :
    Escapes settings world (.split r) (.split f) := by
  have hchoices := toSplitChoices_of_check hconfig
  have hunitName : config.timeUnit = r.timeUnit := congrArg SplitChoices.timeUnit hchoices
  have hwarmup : config.warmupDuration = r.warmupDuration :=
    congrArg SplitChoices.warmupDuration hchoices
  have hprecisions : config.precision = r.precision := congrArg SplitChoices.precision hchoices
  have hlimit : config.columnLimit = defaultColumnLimit :=
    congrArg SplitChoices.columnLimit hchoices
  cases h with
  | interrupted _ => cases hsilent
  | file f htold => exact absurd hsilent htold
  | time f htime => exact .time r f htime
  | split f hcause =>
    cases hcause with
    | noUnit f hunit =>
      rw [hunitName] at hunit
      rcases hchecked.allowed.timeUnit with hdefault | ⟨unit, hsome⟩
      · rw [hdefault] at hunit
        exact .unit r f hunit
      · rw [hunit] at hsome
        cases hsome
    | warmupTooLong unit hunit hlong =>
      rw [hunitName] at hunit
      rw [hwarmup] at hlong
      exact .warmup r unit hunit hlong
    | precisionTooLong hlong =>
      rw [hprecisions] at hlong
      have hshort : r.precision.natAbs < 10 ^ maxDigits := by
        rcases hchecked.allowed.precision with hdefault | ⟨-, hshort⟩
        · exact hdefault ▸ hprecision
        · exact hshort
      exact absurd hshort (Nat.not_lt.2 hlong)
    | malformed _ _ _ => cases hsilent
    | tooManyDigits count hbreaks =>
      rw [hlimit] at hbreaks
      exact .digits r content count hread hbreaks
    | tooManyLines f hlong => exact .lines r content f hread hlong

/-- **Why a split fails without telling.** -/
theorem escapes_of_splitWork (hprecision : settings.precision.natAbs < 10 ^ maxDigits)
    (hchecked : r.Checked settings world.files)
    (h : (splitWork settings r).result world = (.error e, world')) (hsilent : e.telling = none) :
    Escapes settings world (.split r) e := by
  have h : (splitChosen (splitChoices settings r) r.path r.removeInput).result world
      = (.error e, world') := by
    rcases Session.result_bind_eq_error_iff.1 h with h | ⟨_, _, -, h⟩
    · exact h
    · cases h
  unfold splitChosen at h
  rcases Session.result_bind_eq_error_iff.1 h with h | ⟨config, _, hcheck, h⟩
  · obtain ⟨⟨f, hf, rfl⟩, -⟩ := Session.ofExcept_eq_error_iff.1 h
    exact escapes_of_check hchecked hf
  obtain ⟨hconfig, hsame⟩ := Session.ofExcept_eq_ok_iff.1 hcheck
  have hwarmup : config.warmupDuration = r.warmupDuration :=
    congrArg SplitChoices.warmupDuration (toSplitChoices_of_check hconfig)
  -- the length of the warmup was written on the command line, so it has a numeral
  have hshort : config.warmupDuration.natAbs < Nat.pow 10 maxDigits := by
    simp [hwarmup, hchecked.warmup_short]
  have hsay : sayChoices config = Session.say config.setupRecord := if_pos hshort
  rw [hsame, hsay, Session.result_bind_of_ok (Session.result_say _ _)] at h
  obtain ⟨f, hf, rfl⟩ := within_eq_error_iff.1 h
  obtain ⟨content, hinput⟩ := hchecked.input
  have hread := FileTree.read_of_at? hinput
  set v : World := { world with log := world.log ++ [config.setupRecord] }
  have hcause : f.Cause config content v := splitFile_cause hread hf
  exact escapes_of_cause hprecision hchecked hconfig hread (hcause.of_clock rfl) hsilent

end

section

variable {settings : Settings} {world world' : World} {e : CommandFault}

/-- **Why a report fails without telling.** -/
theorem escapes_of_reportWork {r : ReportRequest}
    (h : (reportWork r).result world = (.error e, world')) (hsilent : e.telling = none) :
    Escapes settings world (.report r) e := by
  obtain ⟨f, hf, rfl⟩ := within_eq_error_iff.1 h
  exact .report r f (report_cause hf) hsilent

/-- **Why a plot fails without telling.** -/
theorem escapes_of_plotWork {r : PlotRequest}
    (h : (plotWork r).result world = (.error e, world')) (hsilent : e.telling = none) :
    Escapes settings world (.plot r) e := by
  unfold plotWork at h
  rcases Session.result_bind_eq_error_iff.1 h with h | ⟨plots, v, -, h⟩
  · obtain ⟨f, hf, rfl⟩ := within_eq_error_iff.1 h
    exact .chart r f (plotSplit_cause hf) hsilent
  · dsimp only at h
    split at h
    · cases h
      cases hsilent
    · cases h

/-- What is known of a command that is asked for. -/
def Checked (settings : Settings) (files : FileTree) (command : Command) : Prop :=
  ∀ r, command = .split r → r.Checked settings files

/-- **A command fails without telling only for these faults.** -/
theorem escapes_of_work {command : Command}
    (hprecision : settings.precision.natAbs < 10 ^ maxDigits)
    (hchecked : command.Checked settings world.files)
    (h : (command.work settings).result world = (.error e, world')) (hsilent : e.telling = none) :
    Escapes settings world command e := by
  cases command with
  | split r => exact escapes_of_splitWork hprecision (hchecked r rfl) h hsilent
  | report r => exact escapes_of_reportWork h hsilent
  | plot r => exact escapes_of_plotWork h hsilent

/-- A command comes to an end in one of three ways: it succeeds, its fault is told, or its fault is
not. -/
theorem run_cases (settings : Settings) (command : Command) (world : World) :
    (∃ v, (command.work settings).result world = (.ok (), v)
        ∧ command.run settings world = (.status 0, v))
      ∨ (∃ e v told, (command.work settings).result world = (.error e, v)
        ∧ e.telling = some told
        ∧ command.run settings world
          = (.status 1, { v with log := v.log ++ [told.record command e] }))
      ∨ ∃ e v, (command.work settings).result world = (.error e, v) ∧ e.telling = none
        ∧ command.run settings world = (.fault e, v) := by
  unfold run
  rcases (command.work settings).result world with ⟨e | _, v⟩
  · cases htelling : e.telling with
    | some told => exact .inr (.inl ⟨e, v, told, rfl, htelling, by simp only [htelling]⟩)
    | none => exact .inr (.inr ⟨e, v, rfl, htelling, by simp only [htelling]⟩)
  · exact .inl ⟨v, rfl, rfl⟩

end

end Command

/-! ## The program -/

/-- What a program run is, by what its command line asks for. -/
theorem runProgram_eq (settings : Settings) (arguments : List Text) (world : World) :
    runProgram settings arguments world
      = match Invocation.ofArguments settings world.files arguments with
        | .error (.help page) => showPage settings page 0 false world
        | .error (.refused page e) =>
          ⟨.status 2, [], refusalText world.host.columns page e, false, world⟩
        | .ok ⟨verbose, none⟩ => showPage settings .program 1 verbose world
        | .ok ⟨verbose, some command⟩ =>
          ⟨(command.run settings world).1, [], [], verbose, (command.run settings world).2⟩ := rfl

/-- The settings of an environment without variables. -/
def plainSettings : Settings := ⟨Text.lit "minutes", 2, 10000⟩

/-- The summary of a warmup that breaks off after its first character. -/
def braceSummary : Text := Text.lit "a-warmup-summary.json"

/-- The files of this summary. -/
def braceWorld : World := .initial ⟨[([braceSummary], .file [0x7B])], []⟩ []

/-- The command line that asks for a report of this summary. -/
def braceArguments : List Text := [Text.lit "report", braceSummary]

theorem ending_braceWorld :
    (runProgram plainSettings braceArguments braceWorld).ending
      = .fault (.report (.json (.fault .expectingName 1 1 2))) := by
  decide +kernel

end PhaseSplit
