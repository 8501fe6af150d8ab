import Mathlib.Tactic
import PhaseSplit.Chart.Session
import PhaseSplit.Proofs.Chart.Faults
import PhaseSplit.Proofs.Csv.Tables
import PhaseSplit.Proofs.Files.Writes
import PhaseSplit.Proofs.Sample.Columns
import PhaseSplit.Proofs.Split.Bytes

/-!
# Reading samples back for charts

What a split has written is read again for charts, by other rules: as a table, of which two columns
are wanted.  If no quote is in the input, the rows of the table are the lines of the output, and the
two columns are those from which the samples were read.

* `readWhole_of_readInt`: a field of a sample, read as a cell;
* `ofBytes_closeLines`: the samples of one output;
* `Host.StandsForFile`, `outputIn_of_read`: an output that is read as the file that it names;
* `ChartSamples.hasRows_ofRouted`, `SplitBooks.chartSamplesIn_eq`: the samples of both outputs;
* `splitFile_loads`: what is loaded after a split, and when nothing can be loaded;
* `splitFile_loads_nothing`: the outputs of an empty input cannot be loaded.
-/

namespace PhaseSplit

/-! ## Fields as cells -/

/-- The integers of a column fit a machine word. -/
theorem Field.signed_of_inRange {f : Field} {n : Int} (h : f.inRange n = true) :
    Csv.leastSigned ≤ n ∧ n ≤ Csv.greatestSigned := by
  unfold inRange at h
  rw [Bool.and_eq_true, decide_eq_true_eq, decide_eq_true_eq] at h
  have hlong : Int.pow 2 63 = 9223372036854775808 := by decide
  have hshort : Int.pow 2 31 = 2147483648 := by decide
  unfold Csv.leastSigned Csv.greatestSigned
  rw [hlong]
  cases f <;> simp only [bits, Nat.reduceSub, hlong, hshort] at h <;> omega

/-- **The value of a field is the value of its cell.** -/
theorem readWhole_of_readInt {f : Field} {n v : Int} {line : Text}
    (h : f.readInt n (Text.splitAt comma line) = .ok v) :
    Csv.isMissing ((Csv.cellsOf line).getD f.index []) = false
      ∧ Csv.readWhole Csv.leastSigned Csv.greatestSigned ((Csv.cellsOf line).getD f.index [])
        = .value v := by
  obtain ⟨numeral, hnumeral, -, hrange, rfl⟩ := readInt_eq_ok_iff.1 h
  obtain ⟨cell, hcell, hascii⟩ := Option.bind_eq_some_iff.1 hnumeral
  have hget : (Csv.cellsOf line).getD f.index [] = cell := by
    rw [List.getD_eq_getElem?_getD, Csv.cellsOf, List.getElem?_map]
    show ((Text.splitAt comma line)[f.index]?.map Csv.untilNull).getD [] = cell
    rw [hcell, Option.map_some, Option.getD_some, Csv.untilNull_of_ofAscii? hascii]
  obtain ⟨hleast, hgreatest⟩ := Field.signed_of_inRange hrange
  rw [hget]
  exact ⟨Csv.isMissing_of_ofAscii? hascii, Csv.readWhole_of_ofAscii? hascii hleast hgreatest⟩

/-- The first two fields of a line that is a sample, as cells. -/
theorem readWhole_of_readLine {limit n : Int} {line : Text} {x : Sample}
    (h : readLine limit n line = .ok (.sample x)) :
    (Csv.isMissing ((Csv.cellsOf line).getD 0 []) = false
        ∧ Csv.readWhole Csv.leastSigned Csv.greatestSigned ((Csv.cellsOf line).getD 0 [])
          = .value x.timestamp)
      ∧ Csv.isMissing ((Csv.cellsOf line).getD 1 []) = false
        ∧ Csv.readWhole Csv.leastSigned Csv.greatestSigned ((Csv.cellsOf line).getD 1 [])
          = .value x.elapsed := by
  obtain ⟨columns, hcut, hx⟩ := readLine_eq_sample_iff.1 h
  obtain ⟨htimestamp, helapsed, -⟩ := readSample_eq_ok_iff.1 hx
  rw [cutColumns_eq_splitAt hcut] at htimestamp helapsed
  exact ⟨readWhole_of_readInt htimestamp, readWhole_of_readInt helapsed⟩

/-- A line that is a sample has a comma. -/
theorem comma_mem_of_readLine {limit n : Int} {line : Text} {x : Sample}
    (h : readLine limit n line = .ok (.sample x)) : comma ∈ line := by
  obtain ⟨columns, hcut, hx⟩ := readLine_eq_sample_iff.1 h
  obtain ⟨-, helapsed, -⟩ := readSample_eq_ok_iff.1 hx
  rw [cutColumns_eq_splitAt hcut] at helapsed
  by_contra hcomma
  rw [Text.splitAt_of_not_mem hcomma] at helapsed
  obtain ⟨numeral, hnumeral, -⟩ := readInt_eq_ok_iff.1 helapsed
  cases hnumeral

/-! ## One output -/

/-- The names of the columns of an output with this first line: without a byte order mark, and each
up to its first null character. -/
def columnNames (header : Text) : List Text := Csv.cellsOf (Csv.dropByteOrderMark header)

/-- All names of columns consist of characters. -/
def NamesReadable (header : Text) : Prop :=
  ∀ name ∈ columnNames header, ∀ g ∈ name, g.isChar = true

instance (header : Text) : Decidable (NamesReadable header) :=
  inferInstanceAs (Decidable (∀ name ∈ columnNames header, ∀ g ∈ name, g.isChar = true))

/-- The samples of a chart that some samples of one phase make. -/
def ChartSamples.ofSamples (phase : Phase) (xs : List Sample) : ChartSamples :=
  ⟨.ofWords (xs.map Sample.timestamp), .ofWords (xs.map Sample.elapsed), xs.map fun _ => phase⟩

section

variable {header : Text} {xs : List Sample} {bs : List UInt8}

/-- The name of a column that has been read from bytes is read again from its own. -/
theorem decode_encode_of_mem_columnNames (hheader : Text.decode bs = header) {name : Text}
    (hname : name ∈ columnNames header) : Text.decode name.encode = name := by
  obtain ⟨piece, hpiece, rfl⟩ := List.mem_map.1 hname
  have hmark : Csv.dropByteOrderMark header <:+: header := by
    unfold Csv.dropByteOrderMark
    split
    · exact (List.suffix_cons _ _).isInfix
    · exact List.infix_rfl
  have hpart : Csv.untilNull piece <:+: Text.decode bs := by
    rw [hheader]
    exact ((List.takeWhile_prefix _).isInfix.trans (Text.isInfix_of_mem_splitAt hpiece)).trans hmark
  exact Text.decode_encode_of_isInfix hpart

/-- **The samples of an output** whose lines have commas and no quotes: one row for each line after
the first, if the names of the columns can be read. -/
theorem ofBytes_closeLines {limit : Int} (phase : Phase)
    (hfile : ∀ t ∈ header :: xs.map Sample.line, IsFileLine t)
    (hplain : ∀ t ∈ header :: xs.map Sample.line, Csv.IsPlainRow t)
    (hxs : ∀ x ∈ xs, readLine limit x.lineNumber x.line = .ok (.sample x)) :
    ChartSamples.ofBytes phase (closeLines (header :: xs.map Sample.line)).encode
      = ((columnNames header).mapM Csv.readText).mapError ChartFault.encoding
          >>= fun _ => .ok (.ofSamples phase xs) := by
  have hcomma : comma ∈ Csv.dropByteOrderMark header :=
    (hplain header List.mem_cons_self).dropByteOrderMark.comma_mem
  have hwidth : ¬(columnNames header).length < 2 := by
    rw [Nat.not_lt, columnNames, Csv.cellsOf, List.length_map]
    exact Text.two_le_length_splitAt hcomma
  have hcolumn : ∀ (index : Nat) (value : Sample → Int),
      (∀ x ∈ xs, Csv.isMissing ((Csv.cellsOf x.line).getD index []) = false
        ∧ Csv.readWhole Csv.leastSigned Csv.greatestSigned ((Csv.cellsOf x.line).getD index [])
          = .value (value x)) →
      Csv.Column.ofCells ((((xs.map Sample.line).map Csv.cellsOf)).map (·.getD index []))
        = .ok (.ofWords (xs.map value)) := by
    intro index value h
    rw [List.map_map, List.map_map]
    exact Csv.Column.ofCells_map h
  have htimes := hcolumn 0 Sample.timestamp fun x hx => (readWhole_of_readLine (hxs x hx)).1
  have hlatencies := hcolumn 1 Sample.elapsed fun x hx => (readWhole_of_readLine (hxs x hx)).2
  have hopen : ∀ t : Except ChartFault ChartSamples,
      (Except.ok () >>= fun _ : Unit => t) = t := fun _ => rfl
  unfold ChartSamples.ofBytes
  rw [decode_encode_closeLines hfile, Csv.read_closeLines hplain]
  unfold ChartSamples.ofRows
  rw [← columnNames]
  dsimp only
  rw [hopen, hopen, ite_self]
  cases hnames : (columnNames header).mapM Csv.readText with
  | error e => rfl
  | ok names =>
    dsimp only [Except.mapError]
    rw [if_neg hwidth, htimes, hlatencies]
    rw [List.map_map, List.map_map]
    rfl

/-- The names of the columns of a header that has been read from bytes. -/
theorem exists_readNames_iff (hheader : Text.decode bs = header) :
    (∃ names, (columnNames header).mapM Csv.readText = .ok names) ↔ NamesReadable header := by
  rw [exists_mapM_eq_ok_iff]
  refine forall₂_congr ?_
  intro name hname
  exact Csv.exists_readText_iff (decode_encode_of_mem_columnNames hheader hname)

end

/-! ## Outputs that are there -/

/-- A path that stands for the file that it names: it is ordinary, or the library of the machine
hands out what is in the file. -/
def Host.StandsForFile (host : Host) (t : FileTree) (path : Text) : Prop :=
  Path.isOrdinary path = true ∨ host.fetch t path = (t.read path).mapError .file

section

variable {host : Host} {t : FileTree} {path : Text} {phase : Phase} {content : List UInt8}

/-- What is read at a path that stands for its file is in the file. -/
theorem Host.read_of_standsForFile (h : host.StandsForFile t path)
    (hread : t.read path = .ok content) : host.read t path = .ok content := by
  have hfile : (t.read path).mapError AccessFault.file = .ok content := by
    rw [hread]
    rfl
  unfold Host.read
  split
  · exact hfile
  · next hordinary => rw [h.resolve_left hordinary, hfile]

theorem pathExists_of_read (hread : t.read path = .ok content) : t.pathExists path = true := by
  rw [FileTree.pathExists, FileTree.at?_eq_of_read hread]
  rfl

/-- The samples of an output that is there are those in the bytes that are read. -/
theorem outputIn_of_read {bs : List UInt8} (hthere : t.pathExists path = true)
    (hread : host.read t path = .ok bs) :
    outputIn host t phase path = (ChartSamples.ofBytes phase bs).map some := by
  unfold outputIn readOutput
  rw [if_pos hthere, hread]
  dsimp only [Except.mapError, bind, Except.bind]
  cases ChartSamples.ofBytes phase bs <;> rfl

/-- No samples are in an output that the machine does not open. -/
theorem outputIn_of_not_read {e : AccessFault} (hthere : t.pathExists path = true)
    (hread : host.read t path = .error e) :
    outputIn host t phase path = .error (.ofAccess e) := by
  unfold outputIn readOutput
  rw [if_pos hthere, hread]
  rfl

/-- **No samples are loaded** unless the machine opens both outputs. -/
theorem chartSamplesIn_of_not_read {e : AccessFault} (phase : Phase)
    (hthere : t.pathExists ((OutputPaths.ofInput path).samples.get phase) = true)
    (hread : host.read t ((OutputPaths.ofInput path).samples.get phase) = .error e) :
    ∃ e', chartSamplesIn host t path = .error e' := by
  have hfails : outputIn host t phase ((OutputPaths.ofInput path).samples.get phase)
      = .error (.ofAccess e) := outputIn_of_not_read hthere hread
  unfold chartSamplesIn
  dsimp only
  cases phase with
  | warmup =>
    dsimp only [PerPhase.get] at hfails
    rw [hfails]
    exact ⟨_, rfl⟩
  | measurement =>
    dsimp only [PerPhase.get] at hfails
    rw [hfails]
    cases outputIn host t .warmup (OutputPaths.ofInput path).samples.warmup with
    | error e' => exact ⟨e', rfl⟩
    | ok warmup => exact ⟨_, rfl⟩

/-- **No samples are loaded from outputs without a line**: they have no columns. -/
theorem chartSamplesIn_of_empty
    (hthere : t.pathExists (OutputPaths.ofInput path).samples.warmup = true)
    (hread : host.read t (OutputPaths.ofInput path).samples.warmup = .ok []) :
    chartSamplesIn host t path = .error .noColumns := by
  have hnone : ChartSamples.ofBytes .warmup [] = .error .noColumns := by decide +kernel
  unfold chartSamplesIn
  dsimp only
  rw [outputIn_of_read hthere hread, hnone]
  rfl

end

/-! ## Both outputs -/

/-- Samples in the order in which they are loaded: those of the warmup, then those of the
measurement. -/
def byPhase (routed : List (Sample × Phase)) : List (Sample × Phase) :=
  Phase.all.flatMap fun phase => routed.filter (·.2 = phase)

/-- Every sample is loaded once. -/
theorem byPhase_perm (routed : List (Sample × Phase)) : (byPhase routed).Perm routed := by
  have hmeasurement : routed.filter (fun row => !decide (row.2 = .warmup))
      = routed.filter (·.2 = .measurement) := by
    refine List.filter_congr ?_
    rintro ⟨x, phase⟩ -
    cases phase <;> rfl
  have hsplit :=
    List.filter_append_perm (fun row : Sample × Phase => decide (row.2 = .warmup)) routed
  rw [hmeasurement] at hsplit
  simpa [byPhase, Phase.all] using hsplit

theorem map_byPhase {α : Type} (f : Sample → α) (routed : List (Sample × Phase)) :
    (byPhase routed).map (fun row => f row.1)
      = (ofPhase .warmup routed ++ ofPhase .measurement routed).map f := by
  simp [byPhase, Phase.all, ofPhase, Function.comp_def]

namespace ChartSamples

/-- The samples of a chart that the samples of both phases make. -/
def ofRouted (routed : List (Sample × Phase)) : ChartSamples :=
  (ofSamples .warmup (ofPhase .warmup routed)).append
    (ofSamples .measurement (ofPhase .measurement routed))

/-- The rows of some samples of a chart: the timestamp, the elapsed time and the phase of each. -/
structure HasRows (chart : ChartSamples) (rows : List (Sample × Phase)) : Prop where
  phases_eq : chart.phases = rows.map Prod.snd
  times_eq : chart.times.values = rows.map fun row => .number (.whole row.1.timestamp)
  latencies_eq : chart.latencies.values = rows.map fun row => .number (.whole row.1.elapsed)

/-- **There is one row for each sample**, the warmup first. -/
theorem hasRows_ofRouted (routed : List (Sample × Phase)) :
    (ofRouted routed).HasRows (byPhase routed) := by
  refine ⟨?phases, ?times, ?latencies⟩
  case phases =>
    have hphase : ∀ phase, (ofSamples phase (ofPhase phase routed)).phases
        = (routed.filter (·.2 = phase)).map Prod.snd := by
      intro phase
      show ((routed.filter (·.2 = phase)).map Prod.fst).map (fun _ => phase) = _
      rw [List.map_map]
      refine List.map_congr_left ?_
      intro row hrow
      exact (of_decide_eq_true (List.mem_filter.1 hrow).2).symm
    unfold ofRouted append
    rw [hphase, hphase]
    simp [byPhase, Phase.all]
  case times =>
    unfold ofRouted append ofSamples
    rw [Csv.Column.values_append_ofWords, ← List.map_append, List.map_map]
    exact (map_byPhase (fun x => Csv.CellValue.number (.whole x.timestamp)) routed).symm
  case latencies =>
    unfold ofRouted append ofSamples
    rw [Csv.Column.values_append_ofWords, ← List.map_append, List.map_map]
    exact (map_byPhase (fun x => Csv.CellValue.number (.whole x.elapsed)) routed).symm

theorem count_ofRouted (routed : List (Sample × Phase)) :
    (ofRouted routed).count = routed.length := by
  rw [count, (hasRows_ofRouted routed).phases_eq, List.length_map,
    (byPhase_perm routed).length_eq]

end ChartSamples

section

variable {config : SplitConfig} {content bs : List UInt8} {s : SplitResult} {millis : Int}
  {readings : List Reading} {routed : List (Sample × Phase)}

/-- The header of a file is read from its first piece. -/
theorem headerOf_linesOf (content : List UInt8) :
    headerOf (linesOf content) = (piecesOf content).head?.toList.map Text.decode := by
  rw [headerOf, ← List.head?_map, map_stripTerminator_linesOf, List.head?_map]
  unfold piecesOf
  cases (cutLines 0x0D 0x0A content).head? <;> rfl

/-- A line with a comma of a file without quotes is a row of a table. -/
theorem isPlainRow_of_mem_piecesOf {piece : List UInt8} (hquotes : 0x22 ∉ content)
    (hpiece : piece ∈ piecesOf content) (hcomma : comma ∈ Text.decode piece) :
    Csv.IsPlainRow (Text.decode piece) := by
  have hmem : Text.decode piece
      ∈ cutLines Text.carriageReturn Text.lineFeed (Text.decode content) := by
    rw [Text.cutLines_decode]
    exact List.mem_map_of_mem hpiece
  obtain ⟨hreturn, hfeed⟩ := not_mem_of_mem_cutLines hmem
  refine ⟨hcomma, ?_, hreturn, hfeed⟩
  intro hquote
  have hbyte : (0x22 : UInt8) ∈ piece := (Text.char_mem_decode_iff (by decide)).1 hquote
  exact hquotes (mem_of_mem_cutLines hpiece hbyte)

/-- The lines of a sheet are rows of a table. -/
theorem SplitBooks.isPlainRow
    (books : SplitBooks config (linesOf content) s millis readings routed)
    (hquotes : 0x22 ∉ content)
    (hheader : ∀ header, (piecesOf content).head? = some header → 0x2C ∈ header) (phase : Phase) :
    ∀ t ∈ headerOf (linesOf content) ++ (ofPhase phase routed).map Sample.line,
      Csv.IsPlainRow t := by
  intro t ht
  rcases List.mem_append.1 ht with ht | ht
  · rw [headerOf_linesOf] at ht
    obtain ⟨piece, hpiece, rfl⟩ := List.mem_map.1 ht
    have hhead := Option.mem_toList.1 hpiece
    refine isPlainRow_of_mem_piecesOf hquotes (List.mem_of_mem_head? hhead) ?_
    exact (Text.char_mem_decode_iff (by decide)).2 (hheader piece hhead)
  · obtain ⟨x, hx, rfl⟩ := List.mem_map.1 ht
    obtain ⟨line, hline, heq, hread⟩ := books.exists_of_mem_ofPhase hx
    have hmem : x.line ∈ (linesOf content).map Text.stripTerminator := by
      rw [heq]
      exact List.mem_map_of_mem (List.mem_of_mem_tail hline)
    rw [map_stripTerminator_linesOf] at hmem
    obtain ⟨piece, hpiece, hdecode⟩ := List.mem_map.1 hmem
    have hcomma := comma_mem_of_readLine hread
    rw [← hdecode] at hcomma ⊢
    exact isPlainRow_of_mem_piecesOf hquotes hpiece hcomma

/-- The samples of a sheet of a file with a header. -/
theorem SplitBooks.ofBytes_sheet
    (books : SplitBooks config (linesOf content) s millis readings routed)
    (hquotes : 0x22 ∉ content)
    (hheader : ∀ header, (piecesOf content).head? = some header → 0x2C ∈ header) {header : Text}
    (hhead : headerOf (linesOf content) = [header]) (phase : Phase) :
    ChartSamples.ofBytes phase ((splitContent config content).sheets.text phase).encode
      = ((columnNames header).mapM Csv.readText).mapError ChartFault.encoding
          >>= fun _ => .ok (.ofSamples phase (ofPhase phase routed)) := by
  have hfile := books.isFileLine phase
  have hplain := books.isPlainRow hquotes hheader phase
  have hxs : ∀ x ∈ ofPhase phase routed,
      readLine config.columnLimit x.lineNumber x.line = .ok (.sample x) := by
    intro x hx
    obtain ⟨-, -, -, hread⟩ := books.exists_of_mem_ofPhase hx
    exact hread
  rw [splitContent, books.text_eq]
  rw [hhead] at hfile hplain ⊢
  exact ofBytes_closeLines phase hfile hplain hxs

/-- What is loaded from sheets with this header and these samples. -/
def loadedFrom (header : Text) (routed : List (Sample × Phase)) :
    Except ChartFault (Option ChartSamples) :=
  ((columnNames header).mapM Csv.readText).mapError ChartFault.encoding
    >>= fun _ => .ok ((some (ChartSamples.ofRouted routed)).filter (·.count ≠ 0))

/-- Sheets with readable names of columns are loaded. -/
theorem loadedFrom_of_readable (hnames : NamesReadable (Text.decode bs)) :
    loadedFrom (Text.decode bs) routed
      = .ok (if routed = [] then none else some (.ofRouted routed)) := by
  obtain ⟨names, hread⟩ := (exists_readNames_iff rfl).2 hnames
  unfold loadedFrom
  rw [hread]
  show Except.ok (Option.filter _ (some (ChartSamples.ofRouted routed))) = _
  by_cases hrouted : routed = [] <;>
    simp [Option.filter_some, ChartSamples.count_ofRouted, hrouted]

/-- Sheets with other names of columns are not. -/
theorem loadedFrom_of_not_readable (hnames : ¬NamesReadable (Text.decode bs)) :
    ∃ e, loadedFrom (Text.decode bs) routed = .error (.encoding e) := by
  unfold loadedFrom
  cases hread : (columnNames (Text.decode bs)).mapM Csv.readText with
  | error e => exact ⟨e, rfl⟩
  | ok names => exact absurd ((exists_readNames_iff rfl).1 ⟨names, hread⟩) hnames

/-- **What is loaded from the sheets of a file with a header.** -/
theorem SplitBooks.chartSamplesIn_eq {host : Host} {t : FileTree} {path : Text}
    (books : SplitBooks config (linesOf content) s millis readings routed)
    (hquotes : 0x22 ∉ content)
    (hheader : ∀ header, (piecesOf content).head? = some header → 0x2C ∈ header) {header : Text}
    (hhead : headerOf (linesOf content) = [header])
    (hplain : ∀ phase, host.StandsForFile t ((OutputPaths.ofInput path).samples.get phase))
    (hsheets : ∀ phase, t.read ((OutputPaths.ofInput path).samples.get phase)
      = .ok ((splitContent config content).sheets.text phase).encode) :
    chartSamplesIn host t path = loadedFrom header routed := by
  have houtput : ∀ phase, outputIn host t phase ((OutputPaths.ofInput path).samples.get phase)
      = ((columnNames header).mapM Csv.readText).mapError ChartFault.encoding
          >>= fun _ => .ok (some (.ofSamples phase (ofPhase phase routed))) := by
    intro phase
    have hread := Host.read_of_standsForFile (hplain phase) (hsheets phase)
    rw [outputIn_of_read (pathExists_of_read (hsheets phase)) hread,
      books.ofBytes_sheet hquotes hheader hhead phase]
    cases (columnNames header).mapM Csv.readText <;> rfl
  have hwarmup := houtput .warmup
  have hmeasurement := houtput .measurement
  dsimp only [PerPhase.get] at hwarmup hmeasurement
  unfold chartSamplesIn loadedFrom
  dsimp only
  rw [hwarmup, hmeasurement]
  cases (columnNames header).mapM Csv.readText <;> rfl

/-- The sheets of an empty input are empty. -/
theorem SplitBooks.text_of_empty (books : SplitBooks config (linesOf []) s millis readings routed)
    (phase : Phase) : ((splitContent config []).sheets.text phase).encode = [] := by
  have hlines : linesOf [] = [] := by rw [linesOf, Text.decode, Text.lines]; rfl
  rw [hlines] at books
  have hnone : routed = [] := List.map_eq_nil_iff.1 books.map_fst_routed
  rw [splitContent, hlines, books.text_eq, hnone]
  rfl

/-- An input that is not empty has a header. -/
theorem exists_headerOf (hcontent : content ≠ []) :
    ∃ bs, headerOf (linesOf content) = [Text.decode bs] := by
  rw [headerOf_linesOf]
  cases hpieces : piecesOf content with
  | nil => exact absurd (cutLines_eq_nil_iff.1 hpieces) hcontent
  | cons piece pieces => exact ⟨piece, rfl⟩

end

/-! ## After a split -/

/-- **What is loaded after a split.**  The input has no quotes, and if it has a first line, this
line has a comma.  Nothing is loaded if the machine does not open an output.  Where both outputs
stand for their files, as those with ordinary paths do, loading fails exactly if the input is empty,
or if a name of a column does not consist of characters.  Otherwise there is one row for each
accepted sample, those of the warmup first and each phase in the order of the input, with the phase
to whose output the sample was written; without a sample there is nothing to load, and no chart is
made. -/
theorem splitFile_loads {config : SplitConfig} {path : Text} {removeInput : Bool}
    {world world' : World} {r : FileSplitResult} {content : List UInt8}
    (hread : world.files.read path = .ok content) (hquotes : 0x22 ∉ content)
    (hheader : ∀ header, (piecesOf content).head? = some header → 0x2C ∈ header)
    (h : (splitFile config path removeInput).result world = (.ok r, world')) :
    ∃ routed, routed.map Prod.fst = acceptedSamples config (linesOf content)
      ∧ (∀ phase, world'.files.read (r.paths.samples.get phase)
          = .ok (closeLines (headerOf (linesOf content)
              ++ (ofPhase phase routed).map Sample.line)).encode)
      ∧ ∃ loaded world'', (loadSamples path).result world' = (loaded, world'')
      ∧ (∀ phase e, world'.host.read world'.files (r.paths.samples.get phase) = .error e →
          ∃ e', loaded = .error e')
      ∧ ((∀ phase, world'.host.StandsForFile world'.files (r.paths.samples.get phase)) →
        ((∃ e, loaded = .error e) ↔ content = []
            ∨ ∃ header ∈ headerOf (linesOf content), ¬NamesReadable header)
        ∧ (content = [] → loaded = .error .noColumns)
        ∧ ∀ samples, loaded = .ok samples →
          (samples = none ↔ acceptedSamples config (linesOf content) = [])
          ∧ (samples = none → ∀ directory w, ((plotSamples samples directory).result w).1 = .ok [])
          ∧ ∀ chart, samples = some chart → chart.HasRows (byPhase routed)) := by
  obtain ⟨content', hread', hresult, hpaths, hsheets⟩ := exists_read_sheet h
  obtain rfl : content' = content := Except.ok.inj (hread'.symm.trans hread)
  obtain ⟨millis, readings, routed, books⟩ := exists_splitBooks hresult
  obtain ⟨log, hload⟩ : ∃ log, (loadSamples path).result world'
      = (chartSamplesIn world'.host world'.files path, { world' with log := world'.log ++ log }) :=
    computes_loadSamples path world'
  have hfst := books.map_fst_routed
  refine ⟨routed, hfst, ?sheets, _, _, hload, ?closed, ?loaded⟩
  case sheets =>
    intro phase
    rw [hsheets, splitContent, books.text_eq]
  case closed =>
    rw [hpaths] at hsheets ⊢
    exact fun phase e he => chartSamplesIn_of_not_read phase (pathExists_of_read (hsheets phase)) he
  case loaded =>
    rw [hpaths] at hsheets ⊢
    intro hplain
    by_cases hcontent : content' = []
    · -- an empty input
      subst hcontent
      have hempty := hsheets .warmup
      rw [books.text_of_empty] at hempty
      rw [chartSamplesIn_of_empty (pathExists_of_read hempty)
        (Host.read_of_standsForFile (hplain .warmup) hempty)]
      simp
    · -- an input with a header
      obtain ⟨bs, hhead⟩ := exists_headerOf hcontent
      rw [books.chartSamplesIn_eq hquotes hheader hhead hplain hsheets]
      by_cases hnames : NamesReadable (Text.decode bs)
      · rw [loadedFrom_of_readable hnames, ← hfst]
        refine ⟨by simp [hhead, hcontent, hnames], by simp [hcontent], ?_⟩
        rintro samples ⟨⟩
        refine ⟨by simp, ?_, ?_⟩
        · rintro hnone directory w
          rw [hnone]
          rfl
        · intro chart hchart
          split at hchart
          · cases hchart
          · cases hchart
            exact ChartSamples.hasRows_ofRouted routed
      · obtain ⟨e, he⟩ := loadedFrom_of_not_readable hnames
        rw [he]
        simp [hhead, hcontent, hnames]

theorem splitFile_loads_runWorld :
    ∃ r world', (splitFile summaryConfig (Text.lit "run.jtl") true).result runWorld
        = (.ok r, world')
      ∧ 0x22 ∉ runContent ∧ (∀ header, (piecesOf runContent).head? = some header → 0x2C ∈ header)
      ∧ ∃ routed chart world'', routed.map Prod.fst
          = acceptedSamples summaryConfig (linesOf runContent)
        ∧ (loadSamples (Text.lit "run.jtl")).result world' = (.ok (some chart), world'')
        ∧ chart.HasRows (byPhase routed) := by
  have hrun : ((splitFile summaryConfig (Text.lit "run.jtl") true).result runWorld).1.map
      (·.paths.samples) = .ok ⟨Text.lit "run-warmup.jtl", Text.lit "run-measurement.jtl"⟩ := by
    decide +kernel
  have hread : runWorld.files.read (Text.lit "run.jtl") = .ok runContent := by decide +kernel
  have hcontent : runContent ≠ [] := by decide +kernel
  have hquotes : 0x22 ∉ runContent := by decide +kernel
  have hheader : ∀ header, (piecesOf runContent).head? = some header → 0x2C ∈ header := by
    decide +kernel
  have hsamples : (acceptedSamples summaryConfig (linesOf runContent)).length = 2 := by
    decide +kernel
  have hreadable : ∀ header ∈ headerOf (linesOf runContent), NamesReadable header := by
    decide +kernel
  rcases hresult : (splitFile summaryConfig (Text.lit "run.jtl") true).result runWorld
    with ⟨e | r, world'⟩
  · rw [hresult] at hrun
    cases hrun
  · rw [hresult] at hrun
    obtain ⟨routed, hfst, -, loaded, world'', hload, -, hloads⟩ :=
      splitFile_loads hread hquotes hheader hresult
    have hpaths : r.paths.samples = ⟨Text.lit "run-warmup.jtl", Text.lit "run-measurement.jtl"⟩ :=
      Except.ok.inj hrun
    have hordinary : ∀ phase, Path.isOrdinary (r.paths.samples.get phase) = true := by
      intro phase
      rw [hpaths]
      cases phase <;> decide +kernel
    obtain ⟨hfails, -, hrows⟩ := hloads fun phase => .inl (hordinary phase)
    cases loaded with
    | error e =>
      rcases hfails.1 ⟨e, rfl⟩ with hnil | ⟨header, hmem, hunreadable⟩
      · exact absurd hnil hcontent
      · exact absurd (hreadable header hmem) hunreadable
    | ok samples =>
      obtain ⟨hnone, -, hchart⟩ := hrows samples rfl
      cases samples with
      | none =>
        rw [hnone.1 rfl] at hsamples
        cases hsamples
      | some chart =>
        exact ⟨r, world', rfl, hquotes, hheader, routed, chart, world'', hfst, hload,
          hchart chart rfl⟩

/-- A world with an empty file and nothing else. -/
def emptyWorld : World := .initial ⟨[([Text.lit "run.jtl"], .file [])], []⟩ []

/-- **The outputs of an empty input cannot be loaded**, although its split has a result. -/
theorem splitFile_loads_nothing :
    ∃ r world', (splitFile summaryConfig (Text.lit "run.jtl") false).result emptyWorld
        = (.ok r, world')
      ∧ ((loadSamples (Text.lit "run.jtl")).result world').1 = .error .noColumns := by
  have hrun : ((splitFile summaryConfig (Text.lit "run.jtl") false).result emptyWorld).1.map
      (·.split.rows) = .ok ⟨0, 0⟩ := by decide +kernel
  have hload : ((loadSamples (Text.lit "run.jtl")).result
      ((splitFile summaryConfig (Text.lit "run.jtl") false).result emptyWorld).2).1
        = .error .noColumns := by decide +kernel
  rcases hresult : (splitFile summaryConfig (Text.lit "run.jtl") false).result emptyWorld
    with ⟨e | r, world'⟩
  · rw [hresult] at hrun
    cases hrun
  · rw [hresult] at hload
    exact ⟨r, world', rfl, hload⟩

end PhaseSplit
