import Mathlib.Tactic
import PhaseSplit.Proofs.Split.Bookkeeping
import PhaseSplit.Proofs.Split.File
import PhaseSplit.Proofs.Text.Utf8

/-!
# Reading the outputs again

The statistics of a split are kept while its outputs are written, from the same samples but by
another way.  Read again, line by line, the outputs give the samples back from which the statistics
were made.

* `IsFileLine`: the texts that a file can hold between two line ends;
* `map_stripTerminator_linesOf_closeLines`: such lines are found again in a file made of them;
* `SplitConfig.readings_of_samples`: lines that were samples are samples again, under new numbers;
* `splitFile_rereads`: the summaries of a split describe its outputs.
-/

namespace PhaseSplit

/-! ## Lines of files -/

/-- A text that is read from bytes without a line end. -/
def IsFileLine (t : Text) : Prop := ∃ bs, 0x0D ∉ bs ∧ 0x0A ∉ bs ∧ Text.decode bs = t

/-- The lines of a file are read from the pieces between its line ends. -/
theorem map_stripTerminator_linesOf (content : List UInt8) :
    (linesOf content).map Text.stripTerminator = (cutLines 0x0D 0x0A content).map Text.decode := by
  rw [linesOf, Text.map_stripTerminator_lines, Text.cutLines_decode]

theorem isFileLine_stripTerminator {content : List UInt8} {line : Text}
    (h : line ∈ linesOf content) : IsFileLine line.stripTerminator := by
  have hmem : line.stripTerminator ∈ (cutLines 0x0D 0x0A content).map Text.decode := by
    rw [← map_stripTerminator_linesOf]
    exact List.mem_map_of_mem h
  obtain ⟨bs, hbs, hdecode⟩ := List.mem_map.1 hmem
  obtain ⟨hcr, hlf⟩ := not_mem_of_mem_cutLines hbs
  exact ⟨bs, hcr, hlf, hdecode⟩

/-- Lines that are read from bytes are closed by adding a byte to each. -/
theorem encode_closeLines_decode (pieces : List (List UInt8)) :
    (closeLines (pieces.map Text.decode)).encode = pieces.flatMap (· ++ [0x0A]) := by
  induction pieces with
  | nil => rfl
  | cons bs pieces ih =>
    have hencode : ∀ s t : Text, (s ++ t).encode = s.encode ++ t.encode :=
      fun s t => List.flatMap_append
    rw [List.map_cons, closeLines, List.flatMap_cons, ← closeLines, hencode, hencode, ih,
      Text.encode_decode]
    rfl

/-- A text of lines of files is read again from its bytes. -/
theorem decode_encode_closeLines {ts : List Text} (h : ∀ t ∈ ts, IsFileLine t) :
    Text.decode (closeLines ts).encode = closeLines ts := by
  induction ts with
  | nil => exact Text.decode.eq_1
  | cons t ts ih =>
    obtain ⟨⟨bs, -, -, rfl⟩, hts⟩ := List.forall_mem_cons.1 h
    have hfeed : String.utf8EncodeChar '\n' = [0x0A] := by decide
    have hencode : (closeLines (Text.decode bs :: ts)).encode
        = bs ++ 0x0A :: (closeLines ts).encode := by
      conv_rhs => rw [← Text.encode_decode bs]
      simp [closeLines, Text.encode, Text.lineFeed, Glyph.encode, hfeed]
    rw [hencode, Text.decode_append_cons (by decide), ih hts]
    simp [closeLines, Text.lineFeed]

/-- **Lines of files are found again** in a file made of them. -/
theorem map_stripTerminator_linesOf_closeLines {ts : List Text} (h : ∀ t ∈ ts, IsFileLine t) :
    (linesOf (closeLines ts).encode).map Text.stripTerminator = ts := by
  obtain ⟨pieces, rfl, hpieces⟩ : ∃ pieces : List (List UInt8), pieces.map Text.decode = ts
      ∧ ∀ bs ∈ pieces, 0x0D ∉ bs ∧ 0x0A ∉ bs := by
    induction ts with
    | nil => exact ⟨[], rfl, by simp⟩
    | cons t ts ih =>
      obtain ⟨pieces, hpieces, hbreaks⟩ := ih fun s hs => h s (List.mem_cons_of_mem _ hs)
      obtain ⟨bs, hcr, hlf, hdecode⟩ := h t List.mem_cons_self
      refine ⟨bs :: pieces, by rw [List.map_cons, hdecode, hpieces], ?_⟩
      rw [List.forall_mem_cons]
      exact ⟨⟨hcr, hlf⟩, hbreaks⟩
  rw [map_stripTerminator_linesOf, encode_closeLines_decode, cutLines_flatMap (by decide) hpieces]

/-! ## Samples of lines -/

/-- What the lines after the first of a file come to, each read for itself. -/
def readBody (limit : Int) (content : List UInt8) : List (Except LineFault LineContent) :=
  ((linesOf content).tail.zipIdx 2).map fun numbered =>
    readLine limit numbered.2 numbered.1.stripTerminator

/-- A sample under the number of another line. -/
def Sample.renumber (x : Sample) (n : Nat) : Sample := { x with lineNumber := n }

/-- Samples under the numbers of lines one after another. -/
def renumberFrom (k : Nat) (xs : List Sample) : List Sample :=
  (xs.zipIdx k).map fun numbered => numbered.1.renumber numbered.2

@[simp] theorem renumberFrom_cons (k : Nat) (x : Sample) (xs : List Sample) :
    renumberFrom k (x :: xs) = x.renumber k :: renumberFrom (k + 1) xs := rfl

/-- Lines that are samples are these samples again, under the numbers that the lines have now. -/
theorem map_readLine_zipIdx {limit : Int} {xs : List Sample}
    (h : ∀ x ∈ xs, readLine limit x.lineNumber x.line = .ok (.sample x)) (k : Nat) :
    ((xs.map Sample.line).zipIdx k).map (fun numbered => readLine limit numbered.2 numbered.1)
      = (renumberFrom k xs).map fun x => .ok (.sample x) := by
  induction xs generalizing k with
  | nil => rfl
  | cons x xs ih =>
    rw [List.forall_mem_cons] at h
    rw [List.map_cons, List.zipIdx_cons, List.map_cons, ih h.2, renumberFrom_cons]
    dsimp only
    rw [readLine_renumber _ h.1]
    rfl

/-- The number of its line has no part in what a sample contributes. -/
theorem addAll_renumberFrom (s : PhaseStats) (k : Nat) (xs : List Sample) :
    s.addAll (renumberFrom k xs) = s.addAll xs := by
  induction xs generalizing s k with
  | nil => rfl
  | cons x xs ih => exact ih (s.add x.measured) (k + 1)

/-! ## Samples under new numbers -/

theorem timestamps_renumberFrom (k : Nat) (xs : List Sample) :
    timestamps (renumberFrom k xs) = timestamps xs := by
  induction xs generalizing k with
  | nil => rfl
  | cons x xs ih =>
    rw [renumberFrom_cons, timestamps_cons, timestamps_cons, ih]
    rfl

theorem map_line_renumberFrom (k : Nat) (xs : List Sample) :
    (renumberFrom k xs).map Sample.line = xs.map Sample.line := by
  induction xs generalizing k with
  | nil => rfl
  | cons x xs ih =>
    rw [renumberFrom_cons, List.map_cons, List.map_cons, ih]
    rfl

/-- Readings that are all samples. -/
theorem of_readings_samples (xs : List Sample) :
    samplesOf (xs.map .sample) = xs ∧ tooWideNumbers (xs.map .sample) = []
      ∧ invalidNumbers (xs.map .sample) = [] := by
  induction xs with
  | nil => exact ⟨rfl, rfl, rfl⟩
  | cons x xs ih =>
    obtain ⟨hsamples, hwide, hinvalid⟩ := ih
    rw [List.map_cons, samplesOf_sample, tooWideNumbers_sample, invalidNumbers_sample, hsamples]
    exact ⟨rfl, hwide, hinvalid⟩

/-- **Lines that were samples are samples again**, under the numbers that the lines have now. -/
theorem SplitConfig.readings_of_samples {config : SplitConfig} {lines : List Text}
    {xs : List Sample} {n : Nat}
    (hlines : lines.map Text.stripTerminator = xs.map Sample.line)
    (hxs : ∀ x ∈ xs, readLine config.columnLimit x.lineNumber x.line = .ok (.sample x)) :
    config.readings n lines = ((renumberFrom n xs).map .sample, none) := by
  induction xs generalizing lines n with
  | nil =>
    have hnil : lines = [] := by simpa using hlines
    rw [hnil]
    rfl
  | cons x xs ih =>
    cases lines with
    | nil => simp at hlines
    | cons line lines =>
      obtain ⟨hline, hrest⟩ := List.cons.inj hlines
      obtain ⟨hx, hxs⟩ := List.forall_mem_cons.1 hxs
      have hreading : config.reading n line = .ok (.sample (x.renumber n)) := by
        rw [reading_eq_sample_iff, hline]
        exact readLine_renumber n hx
      have hnext : config.readings ((n : Int) + 1) lines
          = ((renumberFrom (n + 1) xs).map .sample, none) := ih hrest hxs
      rw [readings_cons_of_ok hreading, hnext]
      rfl

/-! ## Outputs read again -/

section

variable {config : SplitConfig} {content : List UInt8} {r : SplitResult} {millis : Int}
  {readings : List Reading} {routed : List (Sample × Phase)}

/-- The samples of a sheet are samples of the input. -/
theorem SplitBooks.exists_of_mem_ofPhase {lines : List Text}
    (books : SplitBooks config lines r millis readings routed) {phase : Phase} {x : Sample}
    (hx : x ∈ ofPhase phase routed) :
    ∃ line ∈ lines.tail, x.line = line.stripTerminator
      ∧ readLine config.columnLimit x.lineNumber x.line = .ok (.sample x) := by
  have hmem : x ∈ routed.map Prod.fst := List.mem_map_of_mem (mem_ofPhase.1 hx)
  rw [books.map_fst_routed] at hmem
  exact exists_of_mem_acceptedSamples hmem

/-- The lines of a sheet are lines of a file. -/
theorem SplitBooks.isFileLine
    (books : SplitBooks config (linesOf content) r millis readings routed) (phase : Phase) :
    ∀ t ∈ headerOf (linesOf content) ++ (ofPhase phase routed).map Sample.line, IsFileLine t := by
  intro t ht
  rcases List.mem_append.1 ht with ht | ht
  · obtain ⟨line, hline, rfl⟩ : ∃ line, (linesOf content).head? = some line
        ∧ line.stripTerminator = t := by simpa [headerOf] using ht
    exact isFileLine_stripTerminator (List.mem_of_mem_head? hline)
  · obtain ⟨x, hx, rfl⟩ := List.mem_map.1 ht
    obtain ⟨line, hline, heq, -⟩ := books.exists_of_mem_ofPhase hx
    rw [heq]
    exact isFileLine_stripTerminator (List.mem_of_mem_tail hline)

/-- After its first line, a sheet holds the lines of the samples of its phase. -/
theorem SplitBooks.map_stripTerminator_tail
    (books : SplitBooks config (linesOf content) r millis readings routed) (phase : Phase) :
    (linesOf ((splitContent config content).sheets.text phase).encode).tail.map
        Text.stripTerminator
      = (ofPhase phase routed).map Sample.line := by
  rw [List.map_tail, splitContent, books.text_eq,
    map_stripTerminator_linesOf_closeLines (books.isFileLine phase)]
  cases hlines : linesOf content with
  | nil =>
    -- without a header there is no sample either
    have hnone : ofPhase phase routed = [] := by
      rw [List.eq_nil_iff_forall_not_mem]
      intro x hx
      obtain ⟨line, hline, -⟩ := books.exists_of_mem_ofPhase hx
      rw [hlines] at hline
      cases hline
    rw [hnone]
    rfl
  | cons header rest => rfl

/-- **A sheet read again** gives the samples of its phase back, under the numbers that their lines
have there. -/
theorem SplitBooks.readBody_sheet
    (books : SplitBooks config (linesOf content) r millis readings routed) (phase : Phase) :
    readBody config.columnLimit ((splitContent config content).sheets.text phase).encode
      = (renumberFrom 2 (ofPhase phase routed)).map fun x => .ok (.sample x) := by
  have hread : ∀ x ∈ ofPhase phase routed,
      readLine config.columnLimit x.lineNumber x.line = .ok (.sample x) := by
    intro x hx
    obtain ⟨-, -, -, hx⟩ := books.exists_of_mem_ofPhase hx
    exact hx
  rw [← map_readLine_zipIdx hread, ← books.map_stripTerminator_tail phase, List.zipIdx_map,
    List.map_map]
  rfl

end

/-- **The summaries describe the outputs.**  After a split with a result and summaries, every line
after the first of each output is a sample, and the statistics of these samples, made anew, give the
summary of the phase; their number is the number of samples that the result reports. -/
theorem splitFile_rereads {config : SplitConfig} {path : Text} {removeInput : Bool}
    {world world' : World} {r : FileSplitResult} (hsummarize : config.summarize = true)
    (h : (splitFile config path removeInput).result world = (.ok r, world')) :
    r.paths = OutputPaths.ofInput path
      ∧ ∃ summaries, r.split.summaries = some summaries
        ∧ ∀ phase, ∃ content xs,
          world'.files.read (r.paths.samples.get phase) = .ok content
          ∧ readBody config.columnLimit content = xs.map (fun x => .ok (.sample x))
          ∧ ((PhaseStats.empty config.precision).addAll xs).summary = .ok (summaries.get phase)
          ∧ (linesOf content).tail.length = r.split.rows.get phase := by
  obtain ⟨input, -, hresult, hpaths, hsheets⟩ := exists_read_sheet h
  obtain ⟨millis, readings, routed, books⟩ := exists_splitBooks hresult
  obtain ⟨summaries, hsome, hsummary⟩ := books.summaries_eq hsummarize
  refine ⟨hpaths, summaries, hsome, ?_⟩
  intro phase
  refine ⟨_, _, hsheets phase, books.readBody_sheet phase, ?summary, ?rows⟩
  case summary =>
    rw [addAll_renumberFrom]
    exact hsummary phase
  case rows =>
    have hlength := congrArg List.length (books.map_stripTerminator_tail phase)
    rw [List.length_map, List.length_map] at hlength
    rw [hlength, books.rows_eq]

/-- The warmup of two seconds, with summaries. -/
def summaryConfig : SplitConfig := { mixedConfig with summarize := true }

/-- A file of two samples, its lines ended in different ways or not at all, with a stray byte, a
sign, a leading zero and empty columns. -/
def runContent : List UInt8 :=
  Text.encode (Text.lit "timeStamp,elapsed,label\r\n1000,10,a,b,c,d,e,true,f,+100,020\r9000,12,"
    ++ .raw 0xFF :: Text.lit ",b,c,d,e,FALSE,f,100,20,,")

/-- A world with this file and nothing else. -/
def runWorld : World := .initial ⟨[([Text.lit "run.jtl"], .file runContent)], []⟩ []

theorem splitFile_rereads_runWorld :
    ∃ r world', (splitFile summaryConfig (Text.lit "run.jtl") true).result runWorld
        = (.ok r, world')
      ∧ r.split.rows = ⟨1, 1⟩
      ∧ ∃ summaries, r.split.summaries = some summaries
        ∧ ∀ phase, ∃ content xs,
          world'.files.read (r.paths.samples.get phase) = .ok content
          ∧ readBody summaryConfig.columnLimit content = xs.map (fun x => .ok (.sample x))
          ∧ ((PhaseStats.empty summaryConfig.precision).addAll xs).summary
            = .ok (summaries.get phase)
          ∧ (linesOf content).tail.length = r.split.rows.get phase := by
  have hrun : ((splitFile summaryConfig (Text.lit "run.jtl") true).result runWorld).1.map
      (·.split.rows) = .ok ⟨1, 1⟩ := by decide +kernel
  rcases hresult : (splitFile summaryConfig (Text.lit "run.jtl") true).result runWorld
    with ⟨e | r, world'⟩
  · rw [hresult] at hrun
    cases hrun
  · rw [hresult] at hrun
    obtain ⟨-, hsummaries⟩ := splitFile_rereads rfl hresult
    exact ⟨r, world', rfl, Except.ok.inj hrun, hsummaries⟩

end PhaseSplit
