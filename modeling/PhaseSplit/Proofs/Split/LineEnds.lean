import Mathlib.Tactic
import PhaseSplit.Proofs.Files.Alike
import PhaseSplit.Proofs.Split.Bytes
import PhaseSplit.Proofs.Split.Frame

/-!
# Line ends do not matter

A file stores its lines with one of three line ends, and after a last line that is not empty there
may be none.  A split sees the pieces between the line ends alone, so files that store the same
lines are split in the same way, also where the split fails.

* `Stores`: the files that store some lines;
* `piecesOf_of_stores`: the lines are found again, whatever ends them;
* `carries_splitRead`: a split comes to the same in worlds that are alike but for one file;
* `splitFile_lineEnds`: the splits of two files that store the same lines.
-/

namespace PhaseSplit

/-! ## Stored lines -/

/-- What can end a line: a line feed, a carriage return, or the two together. -/
inductive LineEnd
  | lineFeed
  | both
  | carriageReturn
  deriving DecidableEq

/-- The bytes of a line end. -/
def LineEnd.bytes : LineEnd → List UInt8
  | .lineFeed => [0x0A]
  | .both => [0x0D, 0x0A]
  | .carriageReturn => [0x0D]

/-- Lines one after another, each followed by a line end. -/
def endLines (ending : LineEnd) (lines : List (List UInt8)) : List UInt8 :=
  lines.flatMap (· ++ ending.bytes)

/-- The files that store some lines with one line end throughout: a last line that is not empty may
be left without its line end. -/
inductive Stores (ending : LineEnd) : List (List UInt8) → List UInt8 → Prop
  | closed (lines : List (List UInt8)) : Stores ending lines (endLines ending lines)
  | unclosed (lines : List (List UInt8)) (last : List UInt8) (h : last ≠ []) :
    Stores ending (lines ++ [last]) (endLines ending lines ++ last)

section

variable {ending : LineEnd} {lines : List (List UInt8)} {line rest content : List UInt8}

/-- What follows a line end does not start with a line feed. -/
theorem head?_endLines_append (hlines : ∀ line ∈ lines, 0x0D ∉ line ∧ 0x0A ∉ line)
    (hrest : 0x0A ∉ rest) : (endLines .carriageReturn lines ++ rest).head? ≠ some 0x0A := by
  intro hhead
  cases lines with
  | nil => exact hrest (List.mem_of_mem_head? hhead)
  | cons line lines =>
    obtain ⟨-, hfeed⟩ := hlines line List.mem_cons_self
    cases line with
    | nil => simp [endLines, LineEnd.bytes] at hhead
    | cons b line =>
      simp only [endLines, List.flatMap_cons, List.cons_append, List.head?_cons,
        Option.some.injEq] at hhead
      exact hfeed (hhead ▸ List.mem_cons_self)

/-- A line with its line end is the first piece. -/
theorem piecesOf_cons (hline : 0x0D ∉ line ∧ 0x0A ∉ line)
    (hrest : ending = .carriageReturn → rest.head? ≠ some 0x0A) :
    piecesOf (line ++ ending.bytes ++ rest) = line :: piecesOf rest := by
  have hne : (0x0D : UInt8) ≠ 0x0A := by decide
  rw [List.append_assoc]
  cases ending with
  | lineFeed => exact cutLines_append_lf hne hline.1 hline.2
  | both => exact cutLines_append_pair hne hline.1 hline.2
  | carriageReturn => exact cutLines_append_cr hline.1 hline.2 (hrest rfl)

/-- Lines with their line ends are the first pieces. -/
theorem piecesOf_endLines_append (hlines : ∀ line ∈ lines, 0x0D ∉ line ∧ 0x0A ∉ line)
    (hrest : 0x0A ∉ rest) : piecesOf (endLines ending lines ++ rest) = lines ++ piecesOf rest := by
  induction lines with
  | nil => rfl
  | cons line lines ih =>
    have htail : ∀ line ∈ lines, 0x0D ∉ line ∧ 0x0A ∉ line :=
      fun line hline => hlines line (List.mem_cons_of_mem _ hline)
    have hsplit : endLines ending (line :: lines) ++ rest
        = line ++ ending.bytes ++ (endLines ending lines ++ rest) := by
      simp [endLines]
    rw [hsplit, piecesOf_cons (hlines line List.mem_cons_self) ?_, ih htail, List.cons_append]
    rintro rfl
    exact head?_endLines_append htail hrest

/-- **The lines of a file are found again**, whatever ends them. -/
theorem piecesOf_of_stores (hlines : ∀ line ∈ lines, 0x0D ∉ line ∧ 0x0A ∉ line)
    (h : Stores ending lines content) : piecesOf content = lines := by
  cases h with
  | closed =>
    have hclosed : piecesOf (endLines ending lines ++ []) = lines ++ piecesOf [] :=
      piecesOf_endLines_append hlines (by simp)
    rw [List.append_nil] at hclosed
    rw [hclosed]
    exact List.append_nil lines
  | unclosed lines last hlast =>
    have hinit : ∀ line ∈ lines, 0x0D ∉ line ∧ 0x0A ∉ line :=
      fun line hline => hlines line (List.mem_append_left _ hline)
    obtain ⟨hreturn, hfeed⟩ := hlines last (by simp)
    rw [piecesOf_endLines_append hinit hfeed, piecesOf, cutLines_of_not_mem hreturn hfeed,
      if_neg hlast]

/-- The split of a file is told by the lines that it stores. -/
theorem splitContent_of_stores (config : SplitConfig)
    (hlines : ∀ line ∈ lines, 0x0D ∉ line ∧ 0x0A ∉ line) (h : Stores ending lines content) :
    splitContent config content = splitLines config (lines.map Text.decode) := by
  rw [splitContent_eq_splitLines, piecesOf_of_stores hlines h]

end

/-! ## Splits in two worlds -/

section

variable {config : SplitConfig} {path : Text} {content content' : List UInt8} {removeInput : Bool}

/-- **A split comes to the same in worlds that are alike** but for one file, and leaves them so. -/
theorem carries_splitRead (config : SplitConfig) (path : Text) (content : List UInt8)
    (removeInput : Bool) (p : Place) :
    Session.Carries (World.AlikeBut p) (splitRead config path content removeInput) := by
  have hdiscard : Session.Carries (World.AlikeBut p) (discardInput path removeInput) := by
    cases removeInput with
    | false => exact Session.Carries.pure ()
    | true =>
      exact (Session.carries_removeFile_alikeBut _ _).bind fun _ =>
        Session.carries_sayAll_alikeBut _
  have htime : ∀ start, Session.Carries (World.AlikeBut p) (reportTime start) := by
    intro start
    refine (Session.carries_readClock_alikeBut _).bind fun stop => ?_
    refine (Session.Carries.ofExcept _ _).bind fun whole => ?_
    exact (Session.carries_sayAll_alikeBut _).bind fun _ => Session.Carries.pure _
  unfold splitRead
  refine (Session.carries_readClock_alikeBut _).bind fun start => ?_
  refine (Session.carries_sayAll_alikeBut _).bind fun _ => ?_
  refine Session.Carries.bind ?lines fun result => ?_
  case lines =>
    exact carries_splitAndSummarize (Session.carries_sayAll_alikeBut ·)
      (Session.carries_announce_alikeBut ·)
      (fun phase bytes => Session.carries_writeFile_alikeBut _ _ bytes)
      (fun phase bytes => Session.carries_writeFile_alikeBut _ _ bytes)
  exact hdiscard.bind fun _ => (htime start).bind fun _ => Session.Carries.pure _

/-- A split sees of the bytes of its input no more than what the split of its lines leaves. -/
theorem splitRead_congr (h : splitContent config content' = splitContent config content) :
    splitRead config path content' removeInput = splitRead config path content removeInput := by
  unfold splitRead splitAndSummarize splitInto
  rw [h]

end

/-- **Line ends do not matter.**  In two worlds that differ in one file alone, which stores the same
lines in both with line ends of whatever kind, the split of this file has the same outcome, be it a
result or a fault, and leaves worlds that differ in that file alone; its outputs read the same. -/
theorem splitFile_lineEnds {config : SplitConfig} {path : Text} {removeInput : Bool}
    {world world' other : World} {outcome : Except FileSplitFault FileSplitResult} {p : Place}
    {ending ending' : LineEnd} {lines : List (List UInt8)} {content content' : List UInt8}
    (hlines : ∀ line ∈ lines, 0x0D ∉ line ∧ 0x0A ∉ line) (hstored : Stores ending lines content)
    (hstored' : Stores ending' lines content') (hp : world.files.resolve path = .ok p)
    (hworlds : world.AlikeBut p other) (hread : world.files.read path = .ok content)
    (hread' : other.files.read path = .ok content')
    (h : (splitFile config path removeInput).result world = (outcome, world')) :
    ∃ other', (splitFile config path removeInput).result other = (outcome, other')
      ∧ world'.AlikeBut p other'
      ∧ ∀ output ∈ (OutputPaths.ofInput path).all,
        other'.files.read output = world'.files.read output := by
  have hsame : splitContent config content' = splitContent config content := by
    rw [splitContent_of_stores config hlines hstored', splitContent_of_stores config hlines hstored]
  have hdirectories := sameDirectories_splitFile config path removeInput world
  rcases hrun : (splitFile config path removeInput).result other with ⟨outcome', other'⟩
  rw [h] at hdirectories
  rw [result_splitFile_of_read hread] at h
  rw [result_splitFile_of_read hread', splitRead_congr hsame] at hrun
  obtain ⟨houtcome, halike⟩ :=
    carries_splitRead config path content removeInput p world other hworlds
  rw [h, hrun] at houtcome halike
  obtain rfl : outcome' = outcome := houtcome
  refine ⟨other', rfl, halike, ?_⟩
  intro output houtput
  apply halike.files.read_eq
  intro hplace
  refine OutputPaths.not_samePlace_input houtput ⟨p, hplace, ?_⟩
  exact hdirectories.resolve_eq_ok_iff.2 hp

/-- Worlds with one file are alike but for what it holds. -/
theorem fileWorld_alikeBut (content content' : List UInt8) (clock : List ClockReading) :
    (fileWorld content clock).AlikeBut [Text.lit "run.jtl"] (fileWorld content' clock) := by
  have hnode : ∀ bytes, (fileWorld bytes clock).files.node? [Text.lit "run.jtl"]
      = some (.file bytes) := fun _ => rfl
  refine ⟨⟨rfl, ?_, ?_⟩, rfl, rfl, rfl, rfl⟩
  · rw [hnode, hnode]
    rfl
  · intro q hq
    simp [fileWorld, World.initial, FileTree.node?, Ne.symm hq]

/-- The first lines of a file: a header, a sample and an empty line. -/
def firstLines : List (List UInt8) :=
  [(Text.lit "timeStamp,elapsed").encode, (Text.lit "1000,10,a,b,c,d,e,true,f,1,2").encode, []]

/-- Its last line, another sample. -/
def lastLine : List UInt8 := (Text.lit "3000,10,a,b,c,d,e,true,f,1,2").encode

/-- Both splits fail at the empty line, after a line of the warmup has been written: one of a file
with carriage returns, and one of a file with both marks and an open end. -/
theorem splitFile_lineEnds_fileWorld :
    ∃ e world' other',
      (splitFile strictConfig (Text.lit "run.jtl") false).result
          (fileWorld (endLines .carriageReturn (firstLines ++ [lastLine])) []) = (.error e, world')
      ∧ (splitFile strictConfig (Text.lit "run.jtl") false).result
          (fileWorld (endLines .both firstLines ++ lastLine) []) = (.error e, other')
      ∧ e = .split (.line (.invalidField ⟨3, .timestamp, some []⟩))
      ∧ other'.files.read (Text.lit "run-warmup.jtl") = world'.files.read (Text.lit "run-warmup.jtl")
      ∧ world'.files.read (Text.lit "run-warmup.jtl")
        = .ok (endLines .lineFeed (firstLines.take 2)) := by
  have hlines : ∀ line ∈ firstLines ++ [lastLine], 0x0D ∉ line ∧ 0x0A ∉ line := by decide +kernel
  have hread : ∀ content, (fileWorld content []).files.read (Text.lit "run.jtl") = .ok content :=
    fun content => FileTree.read_eq_ok_iff.2 ⟨[Text.lit "run.jtl"], rfl, rfl⟩
  have hrun : ((splitFile strictConfig (Text.lit "run.jtl") false).result
        (fileWorld (endLines .carriageReturn (firstLines ++ [lastLine])) [])).1.map (fun _ => ())
          = .error (.split (.line (.invalidField ⟨3, .timestamp, some []⟩)))
      ∧ ((splitFile strictConfig (Text.lit "run.jtl") false).result
        (fileWorld (endLines .carriageReturn (firstLines ++ [lastLine])) [])).2.files.read
          (Text.lit "run-warmup.jtl") = .ok (endLines .lineFeed (firstLines.take 2)) := by
    decide +kernel
  have houtput : Text.lit "run-warmup.jtl" ∈ (OutputPaths.ofInput (Text.lit "run.jtl")).all := by
    decide +kernel
  rcases hresult : (splitFile strictConfig (Text.lit "run.jtl") false).result
    (fileWorld (endLines .carriageReturn (firstLines ++ [lastLine])) []) with ⟨e | r, world'⟩
  · rw [hresult] at hrun
    obtain ⟨other', hother, -, houtputs⟩ := splitFile_lineEnds hlines
      (.closed (firstLines ++ [lastLine])) (.unclosed firstLines lastLine (by decide +kernel)) rfl
      (fileWorld_alikeBut _ (endLines .both firstLines ++ lastLine) []) (hread _) (hread _) hresult
    exact ⟨e, world', other', rfl, hother, Except.error.inj hrun.1, houtputs _ houtput, hrun.2⟩
  · rw [hresult] at hrun
    cases hrun.1

end PhaseSplit
