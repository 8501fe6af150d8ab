import Mathlib.Tactic
import PhaseSplit.Proofs.Split.Writes

/-!
# What a split can change

A split changes its input and its outputs and nothing else.  Which of its outputs it opens shows
beforehand, because an output can be written unless it is too long or a directory, and what it
leaves in them does not depend on what they held.

* `OutputPaths.all`, `OutputPaths.canWrite_eq`: the outputs, and which of them can be written;
* `openedFiles`, `writeAll_openedFiles`: the files that are opened;
* `at?_writeSome_output`, `at?_sample_of_summary`: what is left in the outputs;
* `splitFile_frame`: the frame of a split.
-/

namespace PhaseSplit

/-! ## Outputs -/

/-- All outputs that the split of an input can have. -/
def OutputPaths.all (paths : OutputPaths) : List Text :=
  [paths.samples.get .warmup, paths.samples.get .measurement,
    paths.summaries.get .warmup, paths.summaries.get .measurement]

namespace OutputPaths

variable {path output output' : Text} {t : FileTree} {p : Place}

theorem mem_all_iff {paths : OutputPaths} :
    output ∈ paths.all ↔ (∃ phase, output = paths.samples.get phase)
      ∨ ∃ phase, output = paths.summaries.get phase := by
  simp only [all, List.mem_cons, List.not_mem_nil, or_false]
  constructor
  · rintro (h | h | h | h)
    · exact .inl ⟨.warmup, h⟩
    · exact .inl ⟨.measurement, h⟩
    · exact .inr ⟨.warmup, h⟩
    · exact .inr ⟨.measurement, h⟩
  · rintro (⟨_ | _, h⟩ | ⟨_ | _, h⟩)
    · exact .inl h
    · exact .inr (.inl h)
    · exact .inr (.inr (.inl h))
    · exact .inr (.inr (.inr h))

/-- No output of samples has the path of a summary. -/
theorem samples_ne_summaries (path : Text) (phase phase' : Phase) :
    (ofInput path).samples.get phase ≠ (ofInput path).summaries.get phase' := by
  rw [samples_get, summaries_get]
  intro h
  have hnames := congrArg Path.fileName h
  rw [Path.fileName_join (isName_sampleName path phase).no_slash,
    Path.fileName_join (isName_summaryName path phase').no_slash] at hnames
  exact sampleName_ne_summaryName path phase phase' hnames

/-- The outputs of an input that leads somewhere are in places of their own. -/
theorem not_samePlace_of_ne (hp : t.resolve path = .ok p) (h : output ∈ (ofInput path).all)
    (h' : output' ∈ (ofInput path).all) (hne : output ≠ output') :
    ¬t.SamePlace output output' := by
  rintro ⟨q, hq, hq'⟩
  rcases mem_all_iff.1 h with ⟨phase, rfl⟩ | ⟨phase, rfl⟩
  · rcases mem_all_iff.1 h' with ⟨phase', rfl⟩ | ⟨phase', rfl⟩
    · have hphase : phase ≠ phase' := fun heq => hne (by rw [heq])
      exact resolve_samples_ne hp hphase hq hq'
    · exact resolve_summaries_ne hp hq hq'
  · rcases mem_all_iff.1 h' with ⟨phase', rfl⟩ | ⟨phase', rfl⟩
    · exact resolve_summaries_ne hp hq' hq
    · have hphase : phase ≠ phase' := fun heq => hne (by rw [heq])
      exact resolve_summaries_ne_summaries hp hphase hq hq'

/-- No output is in the place of the input. -/
theorem not_samePlace_input (h : output ∈ (ofInput path).all) : ¬t.SamePlace output path := by
  rintro ⟨q, hq, hpath⟩
  rcases mem_all_iff.1 h with ⟨phase, rfl⟩ | ⟨phase, rfl⟩
  · exact resolve_input_ne hq hpath
  · exact resolve_input_ne_summary hq hpath

/-- An output that leads somewhere is not too long. -/
theorem fitsLimits_of_resolve {q : Place} (hp : t.resolve path = .ok p)
    (h : output ∈ (ofInput path).all) (hq : t.resolve output = .ok q) : FitsLimits output := by
  obtain ⟨above, hneighbours, -⟩ := FileTree.exists_above hp
  have hlimits : ∀ {name : Text}, FileTree.IsName name →
      t.resolve (Path.join (Path.directory path) name) = .ok q →
      FitsLimits (Path.join (Path.directory path) name) := by
    intro name hname hresolve
    obtain ⟨hpath, hshort, -⟩ := (hneighbours name q hname).1 hresolve
    refine ⟨?_, hpath.short⟩
    rw [Path.fileName_join hname.no_slash]
    exact hshort
  rcases mem_all_iff.1 h with ⟨phase, rfl⟩ | ⟨phase, rfl⟩
  · rw [samples_get] at hq ⊢
    exact hlimits (isName_sampleName path phase) hq
  · rw [summaries_get] at hq ⊢
    exact hlimits (isName_summaryName path phase) hq

/-- **An output can be written** unless it is too long or a directory. -/
theorem canWrite_eq (hp : t.resolve path = .ok p) (h : output ∈ (ofInput path).all) :
    t.canWrite output = (decide (FitsLimits output) && !t.isDirectory output) := by
  rw [Bool.eq_iff_iff, FileTree.canWrite_iff, Bool.and_eq_true, decide_eq_true_eq,
    Bool.not_eq_true']
  constructor
  · rintro ⟨q, hq, hnode⟩
    refine ⟨fitsLimits_of_resolve hp h hq, ?_⟩
    unfold FileTree.isDirectory
    rw [FileTree.at?_eq_of_resolve hq]
    exact decide_eq_false hnode
  · rintro ⟨hfits, hdirectory⟩
    have hresolve : ∃ q, t.resolve output = .ok q := by
      rcases mem_all_iff.1 h with ⟨phase, rfl⟩ | ⟨phase, rfl⟩
      · exact exists_resolve_sample hp hfits
      · exact exists_resolve_summary hp hfits
    obtain ⟨q, hq⟩ := hresolve
    exact ⟨q, hq, FileTree.node?_ne_of_isDirectory hq hdirectory⟩

end OutputPaths

/-- The files of a split that are opened: those before the first that is too long or a directory. -/
def openedFiles (config : SplitConfig) (path : Text) (content : List UInt8)
    (directories : List Text) : List (Text × List UInt8) :=
  (writesOf config path content).takeWhile fun file =>
    decide (OutputPaths.FitsLimits file.1) && !directories.contains file.1

section

variable {config : SplitConfig} {path : Text} {content : List UInt8} {file : Text × List UInt8}
  {t : FileTree} {p : Place}

theorem mem_all_of_mem_writesOf (h : file ∈ writesOf config path content) :
    file.1 ∈ (OutputPaths.ofInput path).all := by
  rw [OutputPaths.mem_all_iff]
  cases hresult : (splitContent config content).result with
  | error e =>
    rw [writesOf_of_error hresult] at h
    exact .inl (exists_of_mem_sheetFiles h)
  | ok r =>
    obtain ⟨files, hfiles⟩ := exists_summaryFiles (OutputPaths.ofInput path) hresult
    rw [writesOf_of_ok hresult hfiles] at h
    rcases List.mem_append.1 h with h | h
    · exact .inl (exists_of_mem_sheetFiles h)
    · exact .inr (exists_of_mem_summaryFiles hfiles h)

theorem mem_all_of_mem_openedFiles {directories : List Text}
    (h : file ∈ openedFiles config path content directories) :
    file.1 ∈ (OutputPaths.ofInput path).all :=
  mem_all_of_mem_writesOf ((List.takeWhile_sublist _).mem h)

theorem takeWhile_congr {α : Type} {f g : α → Bool} {l : List α} (h : ∀ a ∈ l, f a = g a) :
    l.takeWhile f = l.takeWhile g := by
  induction l with
  | nil => rfl
  | cons a l ih =>
    have hrest := ih fun b hb => h b (List.mem_cons_of_mem _ hb)
    rw [List.takeWhile_cons, List.takeWhile_cons, h a (List.mem_cons_self ..), hrest]

/-- **The files that are opened** are told by the outputs that are directories. -/
theorem writeAll_openedFiles (hp : t.resolve path = .ok p) (config : SplitConfig)
    (content : List UInt8) :
    t.writeAll (openedFiles config path content
        ((OutputPaths.ofInput path).all.filter t.isDirectory))
      = .ok (t.writeSome (writesOf config path content)) := by
  have hopened : openedFiles config path content
        ((OutputPaths.ofInput path).all.filter t.isDirectory)
      = (writesOf config path content).takeWhile fun file => t.canWrite file.1 := by
    unfold openedFiles
    apply takeWhile_congr
    intro file hfile
    have houtput := mem_all_of_mem_writesOf hfile
    have hdirectory : ((OutputPaths.ofInput path).all.filter t.isDirectory).contains file.1
        = t.isDirectory file.1 := by
      rw [Bool.eq_iff_iff, List.contains_iff_mem, List.mem_filter]
      exact and_iff_right houtput
    rw [OutputPaths.canWrite_eq hp houtput, hdirectory]
  rw [hopened]
  exact FileTree.writeAll_takeWhile t _

/-- A summary is opened only when the split has a result with summaries and the outputs of samples
have been written. -/
theorem openedFiles_of_summary {directories : List Text} {phase : Phase}
    (h : file ∈ openedFiles config path content directories)
    (hfile : file.1 = (OutputPaths.ofInput path).summaries.get phase) :
    config.summarize = true ∧ (∃ r, (splitContent config content).result = .ok r)
      ∧ ∃ files, openedFiles config path content directories
          = sheetFiles config (OutputPaths.ofInput path) content ++ files
        ∧ ∀ file ∈ files, ∃ phase, file.1 = (OutputPaths.ofInput path).summaries.get phase := by
  have hsheets : file ∉ sheetFiles config (OutputPaths.ofInput path) content := by
    intro hmem
    obtain ⟨phase', hphase'⟩ := exists_of_mem_sheetFiles hmem
    exact OutputPaths.samples_ne_summaries path phase' phase (hphase'.symm.trans hfile)
  have hwrites := (List.takeWhile_sublist _).mem h
  cases hresult : (splitContent config content).result with
  | error e =>
    rw [writesOf_of_error hresult] at hwrites
    exact absurd hwrites hsheets
  | ok r =>
    obtain ⟨files, hfiles⟩ := exists_summaryFiles (OutputPaths.ofInput path) hresult
    have hsummary : file ∈ files := by
      rw [writesOf_of_ok hresult hfiles] at hwrites
      exact (List.mem_append.1 hwrites).resolve_left hsheets
    refine ⟨?summarize, ⟨r, rfl⟩, ?_⟩
    case summarize =>
      cases hsummarize : config.summarize with
      | true => rfl
      | false =>
        rw [summaries_eq_none hresult hsummarize] at hfiles
        cases hfiles
        cases hsummary
    · unfold openedFiles at h ⊢
      rw [writesOf_of_ok hresult hfiles, List.takeWhile_append] at h ⊢
      split at h
      · next hall =>
        rw [if_pos hall]
        refine ⟨_, rfl, ?_⟩
        intro file' hfile'
        exact exists_of_mem_summaryFiles hfiles ((List.takeWhile_sublist _).mem hfile')
      · exact absurd ((List.takeWhile_sublist _).mem h) hsheets

end

section

variable {config : SplitConfig} {path : Text} {content : List UInt8} {t t' : FileTree} {p : Place}

/-- What is left in the outputs, whether or not the input is removed after them. -/
theorem at?_output (hp : t.resolve path = .ok p)
    (h : t' = t.writeSome (writesOf config path content)
      ∨ (t.writeSome (writesOf config path content)).remove path = .ok t')
    {other : Text} (hother : ¬t.SamePlace other path) :
    t'.at? other = (t.writeSome (writesOf config path content)).at? other := by
  rcases h with rfl | hremove
  · rfl
  · apply FileTree.at?_remove_of_elsewhere hremove
    rintro ⟨q, hq, hpath⟩
    obtain ⟨hsame, -⟩ := FileTree.node?_writeAll (writeAll_openedFiles hp config content)
    exact hother ⟨q, hsame.resolve_eq_ok_iff.1 hq, hsame.resolve_eq_ok_iff.1 hpath⟩

/-- The input is left as it was by all that is written. -/
theorem read_input_writeSome (config : SplitConfig) (hread : t.read path = .ok content) :
    (t.writeSome (writesOf config path content)).read path = .ok content := by
  apply FileTree.read_of_at?
  rw [FileTree.at?_writeAll_of_elsewhere
    (FileTree.writeAll_takeWhile t (writesOf config path content)) ?_]
  · exact FileTree.at?_eq_of_read hread
  · rintro file hfile ⟨q, hq, houtput⟩
    have hmem := mem_all_of_mem_writesOf ((List.takeWhile_sublist _).mem hfile)
    exact OutputPaths.not_samePlace_input hmem ⟨q, houtput, hq⟩

/-- **What is left in an output** was written to it last, and it is as it was if it was not
opened. -/
theorem at?_writeSome_output (hp : t.resolve path = .ok p) {output : Text}
    (houtput : output ∈ (OutputPaths.ofInput path).all) :
    (t.writeSome (writesOf config path content)).at? output
      = ((lastContent? (openedFiles config path content
          ((OutputPaths.ofInput path).all.filter t.isDirectory)) output).map Node.file).or
        (t.at? output) := by
  refine FileTree.at?_writeAll (writeAll_openedFiles hp config content) ?_
  intro file hfile hne
  exact OutputPaths.not_samePlace_of_ne hp houtput (mem_all_of_mem_openedFiles hfile) hne.symm

/-- A summary that has changed was opened after the outputs of samples had been written. -/
theorem at?_sample_of_summary (hp : t.resolve path = .ok p) {phase : Phase}
    (hne : (t.writeSome (writesOf config path content)).at?
        ((OutputPaths.ofInput path).summaries.get phase)
      ≠ t.at? ((OutputPaths.ofInput path).summaries.get phase)) :
    config.summarize = true ∧ (∃ r, (splitContent config content).result = .ok r)
      ∧ ∀ phase', (t.writeSome (writesOf config path content)).at?
          ((OutputPaths.ofInput path).samples.get phase')
        = some (.file ((splitContent config content).sheets.text phase').encode) := by
  have hwritten := writeAll_openedFiles hp config content
  have hsummary : (OutputPaths.ofInput path).summaries.get phase ∈ (OutputPaths.ofInput path).all :=
    OutputPaths.mem_all_iff.2 (.inr ⟨phase, rfl⟩)
  rw [at?_writeSome_output hp hsummary] at hne
  cases hlast : lastContent? (openedFiles config path content
      ((OutputPaths.ofInput path).all.filter t.isDirectory))
      ((OutputPaths.ofInput path).summaries.get phase) with
  | none =>
    rw [hlast] at hne
    exact absurd rfl hne
  | some bytes =>
    obtain ⟨before, after, hfiles, -⟩ := exists_of_lastContent?_eq_some hlast
    have hopened : ((OutputPaths.ofInput path).summaries.get phase, bytes) ∈ openedFiles config path
        content ((OutputPaths.ofInput path).all.filter t.isDirectory) := by
      rw [hfiles]
      exact List.mem_append_right _ (List.mem_cons_self ..)
    obtain ⟨hsummarize, hresult, files, hsplit, hsummaries⟩ := openedFiles_of_summary hopened rfl
    refine ⟨hsummarize, hresult, ?_⟩
    intro phase'
    rw [hsplit] at hwritten
    apply FileTree.at?_eq_of_read
    refine read_sheet hwritten (fun q => OutputPaths.resolve_samples_ne hp (by decide)) ?_ phase'
    intro phase'' file hfile q hq
    obtain ⟨phase₀, hphase₀⟩ := hsummaries file hfile
    rw [hphase₀]
    exact OutputPaths.resolve_summaries_ne hp hq

end

/-- **The frame of a split.**  Whatever its outcome, a split changes nothing but its input and its
outputs, and nothing at all if its input cannot be opened.  It changes a summary only if it
summarizes and has completely written the outputs of samples.  What it leaves in its outputs is told
by the bytes of the input, the configuration and the outputs that are directories. -/
theorem splitFile_frame {config : SplitConfig} {path : Text} {removeInput : Bool}
    {world world' : World} {outcome : Except FileSplitFault FileSplitResult}
    (h : (splitFile config path removeInput).result world = (outcome, world')) :
    (∀ other, (∀ named ∈ path :: (OutputPaths.ofInput path).all,
          ¬world.files.SamePlace other named) →
        world'.files.at? other = world.files.at? other)
      ∧ (∀ e, world.files.read path = .error e → world'.files = world.files)
      ∧ (∀ phase, world'.files.at? ((OutputPaths.ofInput path).summaries.get phase)
            ≠ world.files.at? ((OutputPaths.ofInput path).summaries.get phase) →
          config.summarize = true ∧ ∃ content, world.files.read path = .ok content
            ∧ (∃ r, (splitContent config content).result = .ok r)
            ∧ ∀ phase', world'.files.at? ((OutputPaths.ofInput path).samples.get phase')
              = some (.file ((splitContent config content).sheets.text phase').encode))
      ∧ ∀ content, world.files.read path = .ok content →
          Session.nextReading world = .interrupt ∧ world'.files = world.files
            ∨ ∀ output ∈ (OutputPaths.ofInput path).all, world'.files.at? output
              = ((lastContent? (openedFiles config path content
                  ((OutputPaths.ofInput path).all.filter world.files.isDirectory)) output).map
                  Node.file).or (world.files.at? output) := by
  obtain rfl : ((splitFile config path removeInput).result world).2 = world' := by rw [h]
  cases hclock : Session.nextReading world with
  | interrupt =>
    rw [files_splitFile_of_interrupt hclock]
    exact ⟨fun _ _ => rfl, fun _ _ => rfl, fun _ hne => absurd rfl hne, fun _ _ => .inl ⟨rfl, rfl⟩⟩
  | seconds start =>
    cases hread : world.files.read path with
    | error e =>
      rw [files_splitFile_of_unread hread]
      exact ⟨fun _ _ => rfl, fun _ _ => rfl, fun _ hne => absurd rfl hne, fun _ h => by cases h⟩
    | ok content =>
      obtain ⟨p, hp, -⟩ := FileTree.read_eq_ok_iff.1 hread
      have hat : ∀ {other : Text}, ¬world.files.SamePlace other path →
          ((splitFile config path removeInput).result world).2.files.at? other
            = (world.files.writeSome (writesOf config path content)).at? other :=
        at?_output hp (files_splitFile hclock hread)
      have hsummary : ∀ phase,
          (OutputPaths.ofInput path).summaries.get phase ∈ (OutputPaths.ofInput path).all :=
        fun phase => OutputPaths.mem_all_iff.2 (.inr ⟨phase, rfl⟩)
      have hsample : ∀ phase,
          (OutputPaths.ofInput path).samples.get phase ∈ (OutputPaths.ofInput path).all :=
        fun phase => OutputPaths.mem_all_iff.2 (.inl ⟨phase, rfl⟩)
      refine ⟨?others, fun e he => absurd he (by simp), ?summaries, ?outputs⟩
      case others =>
        intro other hother
        rw [hat (hother path (List.mem_cons_self ..))]
        apply FileTree.at?_writeAll_of_elsewhere (writeAll_openedFiles hp config content)
        intro file hfile
        exact hother file.1 (List.mem_cons_of_mem _ (mem_all_of_mem_openedFiles hfile))
      case summaries =>
        intro phase hne
        rw [hat (OutputPaths.not_samePlace_input (hsummary phase))] at hne
        obtain ⟨hsummarize, hresult, hsheets⟩ := at?_sample_of_summary hp hne
        refine ⟨hsummarize, content, rfl, hresult, ?_⟩
        intro phase'
        rw [hat (OutputPaths.not_samePlace_input (hsample phase'))]
        exact hsheets phase'
      case outputs =>
        intro content' hcontent'
        obtain rfl : content = content' := Except.ok.inj hcontent'
        right
        intro output houtput
        rw [hat (OutputPaths.not_samePlace_input houtput)]
        exact at?_writeSome_output hp houtput

/-- A world in which a directory stands in the place of the measurement; the output of the warmup
and its summary are there from before, and so is a file that has nothing to do with the split. -/
def blockedWorld : World :=
  .initial ⟨[([Text.lit "run.jtl"], .file runContent),
    ([Text.lit "run-warmup.jtl"], .file [0x61]),
    ([Text.lit "run-measurement.jtl"], .directory),
    ([Text.lit "run-warmup-summary.json"], .file [0x62]),
    ([Text.lit "notes.txt"], .file [0x63])], []⟩ []

/-- The warmup is opened before the measurement is refused, so it is empty afterwards. -/
theorem splitFile_frame_blockedWorld :
    ∃ outcome world',
      (splitFile summaryConfig (Text.lit "run.jtl") true).result blockedWorld = (outcome, world')
      ∧ world'.files.at? (Text.lit "notes.txt") = some (.file [0x63])
      ∧ world'.files.at? (Text.lit "run-warmup.jtl") = some (.file [])
      ∧ world'.files.at? (Text.lit "run-measurement.jtl") = some .directory
      ∧ world'.files.at? (Text.lit "run-warmup-summary.json") = some (.file [0x62])
      ∧ world'.files.at? (Text.lit "run-measurement-summary.json") = none := by
  rcases hresult : (splitFile summaryConfig (Text.lit "run.jtl") true).result blockedWorld
    with ⟨outcome, world'⟩
  have hfree : ∀ named ∈ Text.lit "run.jtl" :: (OutputPaths.ofInput (Text.lit "run.jtl")).all,
      ¬blockedWorld.files.SamePlace (Text.lit "notes.txt") named := by decide +kernel
  have hread : blockedWorld.files.read (Text.lit "run.jtl") = .ok runContent := rfl
  have hstart : Session.nextReading blockedWorld ≠ .interrupt := by decide
  have hnames : (OutputPaths.ofInput (Text.lit "run.jtl")).all
      = [Text.lit "run-warmup.jtl", Text.lit "run-measurement.jtl",
        Text.lit "run-warmup-summary.json", Text.lit "run-measurement-summary.json"] := by
    decide +kernel
  obtain ⟨hothers, -, -, houtputs⟩ := splitFile_frame hresult
  have hat := (houtputs runContent hread).resolve_left fun hleft => hstart hleft.1
  have hleft : (OutputPaths.ofInput (Text.lit "run.jtl")).all.map world'.files.at?
      = [some (.file []), some .directory, some (.file [0x62]), none] := by
    rw [List.map_congr_left hat]
    decide +kernel
  rw [hnames] at hleft
  simp only [List.map_cons, List.cons.injEq] at hleft
  obtain ⟨hwarmup, hmeasurement, hsummary, hsummary', -⟩ := hleft
  have hnotes : blockedWorld.files.at? (Text.lit "notes.txt") = some (.file [0x63]) := by
    decide +kernel
  exact ⟨outcome, world', rfl, (hothers _ hfree).trans hnotes, hwarmup, hmeasurement, hsummary,
    hsummary'⟩

end PhaseSplit
