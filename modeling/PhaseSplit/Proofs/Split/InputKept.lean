import Mathlib.Tactic
import PhaseSplit.Proofs.Split.File
import PhaseSplit.Proofs.Split.Rereading

/-!
# The input is never lost

The split of a file opens its outputs for writing before it reads a line, may fail at any line and
at any file, and removes its input at the end if it is told to.  The input is not lost by any of
this: until its outputs are complete, nothing is written or removed in its place.

* `keeps_untouched_writeOutputs`: up to the removal of the input, each step leaves the place of the
  input and all directories as they were, whether the step fails or not;
* `result_discardInput_cases`: what the removal of the input can come to;
* `splitFile_keeps_input`: after every outcome of a split, the input is there as it was or its
  outputs are complete.
-/

namespace PhaseSplit

/-- Whether a fault comes from the clock; nothing but the clock is asked after the input has been
removed. -/
def FileSplitFault.isOfClock : FileSplitFault → Bool
  | .interrupted => true
  | .endlessDuration => true
  | .noDuration => true
  | .file _ => false
  | .split _ => false
  | .range _ => false

section

variable {config : SplitConfig} {path : Text} {p : Place} {t : FileTree}

/-! ## The steps before the removal -/

/-- Writing to another place keeps a place untouched. -/
theorem keeps_untouched_writeFile {path' : Text} {content : List UInt8}
    (hne : t.resolve path' ≠ .ok p) :
    Session.Keeps (t.Untouched p) (Session.writeFile FileSplitFault.file path' content) := by
  refine Session.Keeps.changeFiles ?_
  intro t' t'' ht' hwrite
  exact ht'.write hne hwrite

theorem keeps_untouched_splitInto {paths : OutputPaths} {content : List UInt8}
    (hne : ∀ phase, t.resolve (paths.samples.get phase) ≠ .ok p) :
    Session.Keeps (t.Untouched p) (splitInto config paths content) := by
  have hwrite : ∀ (phase : Phase) (bytes : List UInt8), Session.Keeps (t.Untouched p)
      (Session.writeFile FileSplitFault.file (paths.samples.get phase) bytes) :=
    fun phase bytes => keeps_untouched_writeFile (hne phase)
  unfold splitInto
  refine (hwrite .warmup _).bind fun _ => (hwrite .measurement _).bind fun _ => ?_
  refine (Session.Keeps.sayAll _).bind fun _ => (Session.Keeps.announce _).bind fun _ => ?_
  exact (hwrite .warmup _).bind fun _ => (hwrite .measurement _).bind fun _ =>
    Session.Keeps.ofExcept _ _

theorem keeps_untouched_writeSummary {s : Summary} {path' : Text}
    (hne : t.resolve path' ≠ .ok p) :
    Session.Keeps (t.Untouched p) (writeSummary s path') := by
  unfold writeSummary
  refine (Session.Keeps.ofExcept _ _).bind fun text => ?_
  exact (keeps_untouched_writeFile hne).bind fun _ => Session.Keeps.say _

theorem keeps_untouched_writeSummaries {paths : OutputPaths}
    {summaries : Option (PerPhase Summary)}
    (hne : ∀ phase, t.resolve (paths.summaries.get phase) ≠ .ok p) :
    Session.Keeps (t.Untouched p) (writeSummaries paths summaries) := by
  cases summaries with
  | none => exact Session.Keeps.pure _
  | some summaries =>
    exact (keeps_untouched_writeSummary (hne .warmup)).bind fun _ =>
      keeps_untouched_writeSummary (hne .measurement)

/-- **Nothing is written in the place of the input**, whether the outputs are completed or not. -/
theorem keeps_untouched_writeOutputs (hp : t.resolve path = .ok p) :
    Session.Keeps (t.Untouched p) (writeOutputs config path) := by
  have hsamples : ∀ phase, t.resolve ((OutputPaths.ofInput path).samples.get phase) ≠ .ok p :=
    fun phase h => OutputPaths.resolve_input_ne h hp
  have hsummaries : ∀ phase, t.resolve ((OutputPaths.ofInput path).summaries.get phase) ≠ .ok p :=
    fun phase h => OutputPaths.resolve_input_ne_summary h hp
  unfold writeOutputs
  refine (Session.Keeps.readClock _).bind fun start => ?_
  refine (Session.Keeps.sayAll _).bind fun _ => ?_
  refine (Session.Keeps.readFile _ _).bind fun content => ?_
  refine (keeps_untouched_splitInto hsamples).bind fun result => ?_
  exact (keeps_untouched_writeSummaries hsummaries).bind fun _ => Session.Keeps.pure _

/-! ## The removal and what comes after it -/

/-- The input is left, or its removal is refused, or it is removed. -/
theorem result_discardInput_cases (path : Text) (removeInput : Bool) (w : World) :
    (∃ x w', (discardInput path removeInput).result w = (x, w') ∧ w'.files = w.files
        ∧ (x = .ok () ∨ ∃ e, x = .error (.file e)))
      ∨ ∃ w', removeInput = true ∧ (discardInput path removeInput).result w = (.ok (), w')
        ∧ w.files.remove path = .ok w'.files := by
  cases removeInput with
  | false => exact .inl ⟨.ok (), w, rfl, rfl, .inl rfl⟩
  | true =>
    rw [discardInput, Session.result_bind, Session.removeFile, Session.result_changeFiles]
    cases hremove : w.files.remove path with
    | error e => exact .inl ⟨.error (.file e), w, rfl, rfl, .inr ⟨e, rfl⟩⟩
    | ok files => exact .inr ⟨_, rfl, rfl, rfl⟩

/-- Telling the time can fail for an interruption, or where the time has no whole seconds. -/
theorem reportTime_eq_error {start : Binary64} {w w' : World} {e : FileSplitFault}
    (h : (reportTime start).result w = (.error e, w')) :
    (e = .interrupted ∧ Session.nextReading w = .interrupt)
      ∨ ∃ stop, Session.nextReading w = .seconds stop
        ∧ wholeSeconds (stop.sub start) = .error e := by
  unfold reportTime at h
  rw [Session.result_bind_eq_error_iff, Session.result_readClock] at h
  cases hstop : Session.nextReading w with
  | interrupt =>
    rw [hstop] at h
    rcases h with h | ⟨_, _, h, -⟩
    · cases h
      exact .inl ⟨rfl, rfl⟩
    · cases h
  | seconds stop =>
    rw [hstop] at h
    rcases h with h | ⟨_, v, h, h'⟩
    · cases h
    · cases h
      rcases Session.result_bind_eq_error_iff.1 h' with hwhole | ⟨_, _, -, h''⟩
      · obtain ⟨⟨e', he', rfl⟩, -⟩ := Session.ofExcept_eq_error_iff.1 hwhole
        exact .inr ⟨stop, rfl, he'⟩
      · cases h''

/-- Telling the time can fail only by the clock. -/
theorem isOfClock_of_reportTime {start : Binary64} {w w' : World} {e : FileSplitFault}
    (h : (reportTime start).result w = (.error e, w')) : e.isOfClock = true := by
  rcases reportTime_eq_error h with ⟨rfl, -⟩ | ⟨stop, -, hwhole⟩
  · rfl
  · unfold wholeSeconds at hwhole
    split at hwhole
    · cases hwhole
    · split at hwhole <;> cases hwhole <;> rfl

/-- A split that has nothing left but to tell the time leaves the files as they are, and only the
clock can still make it fail. -/
theorem result_reportTime_bind_pure {β : Type} (start : Binary64) (g : Binary64 → β) {w w' : World}
    {outcome : Except FileSplitFault β}
    (h : (reportTime start >>= fun seconds => pure (g seconds)).result w = (outcome, w')) :
    w'.files = w.files ∧ ∀ e, outcome = .error e → e.isOfClock = true := by
  have hfiles := files_reportTime start w
  rw [Session.result_bind] at h
  rcases htime : (reportTime start).result w with ⟨f | seconds, v⟩
  · rw [htime] at h hfiles
    cases h
    refine ⟨hfiles, ?_⟩
    rintro e ⟨⟩
    exact isOfClock_of_reportTime htime
  · rw [htime] at h hfiles
    cases h
    refine ⟨hfiles, ?_⟩
    rintro e ⟨⟩

/-! ## Whole splits -/

/-- **The input is never lost.**  Whatever comes of the split of a file, the file is there with all
its bytes, or its removal was asked for and the outputs are complete.  A split that fails for any
reason but the clock has left the file as it was. -/
theorem splitFile_keeps_input {removeInput : Bool} {world world' : World}
    {content : List UInt8} {outcome : Except FileSplitFault FileSplitResult}
    (hinput : world.files.read path = .ok content)
    (h : (splitFile config path removeInput).result world = (outcome, world')) :
    (world'.files.read path = .ok content
        ∨ removeInput = true ∧ OutputsComplete config path content world'.files)
      ∧ ∀ e, outcome = .error e → e.isOfClock = false →
        world'.files.read path = .ok content := by
  obtain ⟨p, hp, -⟩ := FileTree.read_eq_ok_iff.1 hinput
  rw [splitFile_eq, Session.result_bind] at h
  have hkeeps : Session.Keeps (world.files.Untouched p) (writeOutputs config path) :=
    keeps_untouched_writeOutputs hp
  have hkept := hkeeps world (.refl p world.files)
  rcases hwritten : (writeOutputs config path).result world with ⟨f | written, v⟩
  · -- the outputs are not complete
    rw [hwritten] at h hkept
    cases h
    have hread := hkept.read hp hinput
    exact ⟨.inl hread, fun _ _ _ => hread⟩
  · rw [hwritten] at h hkept
    dsimp only at h
    have hread := hkept.read hp hinput
    rw [Session.result_bind] at h
    rcases result_discardInput_cases path removeInput v with
      ⟨x, v', hdiscard, hfiles, hx⟩ | ⟨v', hremove, hdiscard, hfiles⟩
    · -- the input stays
      rw [← hfiles] at hread
      rw [hdiscard] at h
      rcases hx with rfl | ⟨f, rfl⟩
      · have hend := result_reportTime_bind_pure _ _ h
        rw [← hend.1] at hread
        exact ⟨.inl hread, fun _ _ _ => hread⟩
      · cases h
        exact ⟨.inl hread, fun _ _ _ => hread⟩
    · -- the input is removed, and only the clock is left
      rw [hdiscard] at h
      have hend := result_reportTime_bind_pure _ _ h
      obtain ⟨content', summaries, hread', hresult, hpaths, hsummaries, hfiles'⟩ :=
        files_of_writeOutputs hwritten
      obtain rfl : content' = content := Except.ok.inj (hread'.symm.trans hinput)
      rw [hpaths] at hsummaries hfiles'
      have hcomplete := (outputsComplete_of_writeAll hp hresult hsummaries hfiles').remove hfiles
      refine ⟨.inr ⟨hremove, ?_⟩, ?_⟩
      · rw [hend.1]
        exact hcomplete
      · intro e he hclock
        rw [hend.2 e he] at hclock
        cases hclock

end

/-- The warmup of two seconds, with summaries, without passing over faulty fields. -/
def strictConfig : SplitConfig := { summaryConfig with skipInvalidFields := false }

/-- A file with a faulty field behind a good line. -/
def faultyContent : List UInt8 :=
  Text.encode (Text.lit "timeStamp,elapsed\n1000,10,a,b,c,d,e,true,f,1,2\n2000,ten\n3000,10")

/-- A world with these bytes in one file, and the readings that its clock will give. -/
def fileWorld (content : List UInt8) (clock : List ClockReading) : World :=
  .initial ⟨[([Text.lit "run.jtl"], .file content)], []⟩ clock

/-- The input is to be removed both times: the first split fails at a line and leaves it, the second
is interrupted after the removal and leaves complete outputs. -/
theorem splitFile_keeps_input_fileWorld :
    (∃ e world', (splitFile strictConfig (Text.lit "run.jtl") true).result
          (fileWorld faultyContent []) = (.error e, world')
        ∧ e = .split (.line (.invalidField ⟨3, .elapsed, some (Text.lit "ten")⟩))
        ∧ world'.files.read (Text.lit "run.jtl") = .ok faultyContent)
      ∧ ∃ world', (splitFile summaryConfig (Text.lit "run.jtl") true).result
          (fileWorld runContent [.seconds .zero, .interrupt]) = (.error .interrupted, world')
        ∧ world'.files.read (Text.lit "run.jtl") = .error ⟨.notFound, Text.lit "run.jtl"⟩
        ∧ OutputsComplete summaryConfig (Text.lit "run.jtl") runContent world'.files := by
  have hinput : ∀ content clock,
      (fileWorld content clock).files.read (Text.lit "run.jtl") = .ok content := by
    intro content clock
    have hplace : (fileWorld content clock).files.resolve (Text.lit "run.jtl")
        = .ok [Text.lit "run.jtl"] := rfl
    exact FileTree.read_eq_ok_iff.2 ⟨_, hplace, rfl⟩
  constructor
  · have hrun : ((splitFile strictConfig (Text.lit "run.jtl") true).result
        (fileWorld faultyContent [])).1.map (fun _ => ())
          = .error (.split (.line (.invalidField ⟨3, .elapsed, some (Text.lit "ten")⟩))) := by
      decide +kernel
    rcases hresult : (splitFile strictConfig (Text.lit "run.jtl") true).result
      (fileWorld faultyContent []) with ⟨e | r, world'⟩
    · rw [hresult] at hrun
      obtain rfl := Except.error.inj hrun
      have hkept := (splitFile_keeps_input (hinput _ _) hresult).2 _ rfl rfl
      exact ⟨_, world', rfl, rfl, hkept⟩
    · rw [hresult] at hrun
      cases hrun
  · have hrun : ((splitFile summaryConfig (Text.lit "run.jtl") true).result
          (fileWorld runContent [.seconds .zero, .interrupt])).1.map (fun _ => ())
            = .error .interrupted
        ∧ ((splitFile summaryConfig (Text.lit "run.jtl") true).result
          (fileWorld runContent [.seconds .zero, .interrupt])).2.files.read (Text.lit "run.jtl")
            = .error ⟨.notFound, Text.lit "run.jtl"⟩ := by
      decide +kernel
    rcases hresult : (splitFile summaryConfig (Text.lit "run.jtl") true).result
      (fileWorld runContent [.seconds .zero, .interrupt]) with ⟨e | r, world'⟩
    · rw [hresult] at hrun
      obtain ⟨houtcome, hgone⟩ := hrun
      obtain rfl := Except.error.inj houtcome
      rcases (splitFile_keeps_input (hinput _ _) hresult).1 with hkept | ⟨-, hcomplete⟩
      · rw [hkept] at hgone
        cases hgone
      · exact ⟨world', rfl, hgone, hcomplete⟩
    · rw [hresult] at hrun
      cases hrun.1

end PhaseSplit
