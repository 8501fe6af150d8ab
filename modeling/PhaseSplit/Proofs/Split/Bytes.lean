import Mathlib.Tactic
import PhaseSplit.Proofs.Split.Partition
import PhaseSplit.Proofs.Split.Rereading
import PhaseSplit.Proofs.Split.Routing

/-!
# The bytes of the outputs

A file is read as a text, cut into lines and written again as bytes.  None of this can be seen in
the outputs: they consist of the bytes that stand between the line ends of the input, also where
these bytes spell no characters.

* `piecesOf` are the bytes between the line ends of a file;
* `splitLines_congr`, `splitContent_eq_splitLines`: a split sees of its lines only what stands in
  front of their line ends, so the split of a file is the split of its pieces, each read for itself;
* `exists_sample_of_written`: the routing law for the fate of a line;
* `splitFile_keeps_bytes`: the outputs of the split of a file, byte by byte.
-/

namespace PhaseSplit

/-! ## Lines without their line ends -/

theorem Text.dropLastIf_of_not_mem {g : Glyph} {t : Text} (h : g ∉ t) : dropLastIf g t = t := by
  unfold dropLastIf
  rw [if_neg]
  intro hlast
  exact h (List.mem_of_getLast? hlast)

/-- A line without a line end stays as it is. -/
theorem Text.stripTerminator_of_not_mem {t : Text} (hcr : carriageReturn ∉ t)
    (hlf : lineFeed ∉ t) : t.stripTerminator = t := by
  rw [stripTerminator, dropLastIf_of_not_mem hlf, dropLastIf_of_not_mem hcr]

section

variable {config : SplitConfig} {lines lines' : List Text}

/-- A run sees of its lines only what stands in front of their line ends. -/
theorem SplitState.run_congr {s : SplitState} (n : Int)
    (h : lines.map Text.stripTerminator = lines'.map Text.stripTerminator) :
    run config s n lines = run config s n lines' := by
  induction lines generalizing s n lines' with
  | nil =>
    have hnil : lines' = [] := by simpa using h.symm
    rw [hnil]
  | cons line lines ih =>
    cases lines' with
    | nil => simp at h
    | cons line' lines' =>
      obtain ⟨hline, hlines⟩ := List.cons.inj h
      have hstep : s.step config n line = s.step config n line' := by
        unfold step
        rw [hline]
      rw [run, run, hstep]
      cases s.step config n line' with
      | error e => rfl
      | ok s' => exact ih (n + 1) hlines

/-- **A split sees of its lines only what stands in front of their line ends.** -/
theorem splitLines_congr (h : lines.map Text.stripTerminator = lines'.map Text.stripTerminator) :
    splitLines config lines = splitLines config lines' := by
  have htail : lines.tail.map Text.stripTerminator = lines'.tail.map Text.stripTerminator := by
    rw [List.map_tail, List.map_tail, h]
  have hheader : ∀ s : SplitState, s.readHeader lines = s.readHeader lines' := by
    intro s
    cases lines with
    | nil =>
      have hnil : lines' = [] := by simpa using h.symm
      rw [hnil]
    | cons line lines =>
      cases lines' with
      | nil => simp at h
      | cons line' lines' =>
        have hline : line.stripTerminator = line'.stripTerminator := (List.cons.inj h).1
        rw [SplitState.readHeader, SplitState.readHeader, hline]
  unfold splitLines
  cases SplitState.start config with
  | error e => rfl
  | ok s =>
    dsimp only
    rw [hheader, SplitState.run_congr _ htail]

end

/-! ## The pieces of a file -/

/-- The bytes between the line ends of a file. -/
def piecesOf (content : List UInt8) : List (List UInt8) := cutLines 0x0D 0x0A content

/-- Pieces one after another, each followed by a line feed. -/
def closePieces (pieces : List (List UInt8)) : List UInt8 := pieces.flatMap (· ++ [0x0A])

/-- The pieces of one fate. -/
def piecesWith (fate : Fate) (pieces : List (List UInt8)) (fates : List Fate) :
    List (List UInt8) :=
  ((pieces.zip fates).filter (·.2 = fate)).map Prod.fst

theorem stripTerminator_decode {content piece : List UInt8} (h : piece ∈ piecesOf content) :
    (Text.decode piece).stripTerminator = Text.decode piece := by
  have hmem : Text.decode piece
      ∈ cutLines Text.carriageReturn Text.lineFeed (Text.decode content) := by
    rw [Text.cutLines_decode]
    exact List.mem_map_of_mem h
  obtain ⟨hcr, hlf⟩ := not_mem_of_mem_cutLines hmem
  exact Text.stripTerminator_of_not_mem hcr hlf

theorem map_stripTerminator_map_decode (content : List UInt8) :
    ((piecesOf content).map Text.decode).map Text.stripTerminator
      = (piecesOf content).map Text.decode := by
  rw [List.map_map]
  refine List.map_congr_left ?_
  intro piece hpiece
  exact stripTerminator_decode hpiece

/-- **The split of a file is the split of its pieces**, each read for itself. -/
theorem splitContent_eq_splitLines (config : SplitConfig) (content : List UInt8) :
    splitContent config content = splitLines config ((piecesOf content).map Text.decode) := by
  refine splitLines_congr ?_
  rw [map_stripTerminator_linesOf, map_stripTerminator_map_decode]
  rfl

/-- The lines of one fate are read from the pieces of this fate. -/
theorem linesWith_map_decode (fate : Fate) {pieces : List (List UInt8)} (fates : List Fate)
    (h : ∀ piece ∈ pieces, (Text.decode piece).stripTerminator = Text.decode piece) :
    linesWith fate (pieces.map Text.decode) fates
      = (piecesWith fate pieces fates).map Text.decode := by
  induction pieces generalizing fates with
  | nil => rfl
  | cons piece pieces ih =>
    cases fates with
    | nil => rfl
    | cons f fates =>
      rw [List.forall_mem_cons] at h
      have hpieces := ih fates h.2
      rw [List.map_cons, linesWith_cons, h.1, hpieces]
      by_cases hf : f = fate <;> simp [piecesWith, hf]

/-- The header of a file is read from the first piece. -/
theorem headerOf_map_decode (content : List UInt8) :
    headerOf ((piecesOf content).map Text.decode)
      = (piecesOf content).head?.toList.map Text.decode := by
  have hstrip := map_stripTerminator_map_decode content
  unfold headerOf
  cases hpieces : piecesOf content with
  | nil => rfl
  | cons header pieces =>
    rw [hpieces] at hstrip
    have hheader : (Text.decode header).stripTerminator = Text.decode header :=
      (List.cons.inj hstrip).1
    rw [List.map_cons, List.head?_cons, Option.map_some, hheader]
    rfl

/-! ## The fate of a sample -/

section

variable {config : SplitConfig} {lines : List Text} {rs : List Reading} {n : Int}

theorem samplesOf_append (rs rs' : List Reading) :
    samplesOf (rs ++ rs') = samplesOf rs ++ samplesOf rs' :=
  List.filterMap_append

theorem Router.after_append (r : Router) (xs ys : List Sample) :
    r.after (xs ++ ys) = (r.after xs).after ys :=
  List.foldl_append

/-- Only samples are written, each to the phase that the router gives to it after the samples in
front of it. -/
theorem exists_of_getElem?_fatesOf {router : Router} {i : Nat} {phase : Phase}
    (h : (fatesOf router rs)[i]? = some (.written phase)) :
    ∃ x, rs[i]? = some (.sample x)
      ∧ phase = ((router.after (samplesOf (rs.take i))).route x.timestamp).1 := by
  induction rs generalizing router i with
  | nil => simp [fatesOf] at h
  | cons r rs ih =>
    rw [fatesOf] at h
    cases i with
    | zero =>
      rw [List.getElem?_cons_zero, Option.some.injEq] at h
      cases r with
      | sample x => exact ⟨x, rfl, (Fate.written.inj h).symm⟩
      | tooWide m l => cases h
      | invalid e => cases h
    | succ i =>
      rw [List.getElem?_cons_succ] at h
      obtain ⟨x, hx, hphase⟩ := ih h
      refine ⟨x, by rw [List.getElem?_cons_succ, hx], ?_⟩
      rw [hphase, List.take_succ_cons]
      cases r <;> rfl

/-- **The routing law for the fate of a line.**  A line that is written holds a sample, and its
phase is decided by the least timestamp of the samples up to this line. -/
theorem exists_sample_of_written {router : Router} {i : Nat} {phase : Phase}
    (hreadings : config.readings SplitState.firstRow lines.tail = (rs, none))
    (hrouter : router.epoch = none) (h : (fatesOf router rs)[i]? = some (.written phase)) :
    ∃ x line least, lines.tail[i]? = some line
      ∧ readLine config.columnLimit (i + 2) line.stripTerminator = .ok (.sample x)
      ∧ (timestamps (acceptedSamples config (lines.take (i + 2)))).min? = some least
      ∧ (phase = .warmup ↔ x.timestamp - least ≤ router.warmupMillis) := by
  obtain ⟨x, hx, hphase⟩ := exists_of_getElem?_fatesOf h
  obtain ⟨line, hline, hread⟩ := SplitConfig.exists_line_of_getElem? hreadings hx
  obtain ⟨least, hleast, hat⟩ :=
    (router.after (samplesOf (rs.take i))).route_fst x.timestamp
  refine ⟨x, line, least, hline, ?read, ?least, ?law⟩
  case read =>
    rw [add_comm]
    exact SplitConfig.reading_eq_sample_iff.1 hread
  case least =>
    have htake : samplesOf (rs.take (i + 1)) = samplesOf (rs.take i) ++ [x] := by
      rw [List.take_add_one, hx, samplesOf_append]
      rfl
    rw [← samplesOf_take hreadings (i + 1), htake, ← hleast]
    have hafter : ((router.after (samplesOf (rs.take i))).route x.timestamp).2
        = router.after (samplesOf (rs.take i) ++ [x]) := by
      rw [Router.after_append]
      rfl
    rw [hafter, Router.epoch_after, hrouter, Option.toList_none, List.nil_append]
  case law =>
    rw [hphase, hat, Router.warmupMillis_after, Epoch.phaseAt]
    split <;> simp_all

end

/-! ## The outputs -/

/-- **No byte is changed.**  The pieces of the input after the first have one fate each, fit for
what the piece holds; a piece that is written holds a sample, and it goes to the warmup exactly when
this sample starts at most `millis` after the least timestamp of the samples so far.  The bytes of
each output are those of the first piece and of the pieces written to its phase, in the order of the
input, each followed by a line feed; an empty input has empty outputs. -/
theorem splitFile_keeps_bytes {config : SplitConfig} {path : Text} {removeInput : Bool}
    {world world' : World} {r : FileSplitResult}
    (h : (splitFile config path removeInput).result world = (.ok r, world')) :
    r.paths = OutputPaths.ofInput path
      ∧ ∃ content millis, world.files.read path = .ok content
      ∧ durationMillis config.warmupDuration config.timeUnit = .ok millis
      ∧ ∃ fates : List Fate, fates.length = (piecesOf content).tail.length
      ∧ (∀ (i : Nat) (piece : List UInt8) (fate : Fate), (piecesOf content).tail[i]? = some piece →
          fates[i]? = some fate →
          fate.Fits (readLine config.columnLimit (i + 2) (Text.decode piece)))
      ∧ (∀ (i : Nat) (phase : Phase), fates[i]? = some (.written phase) →
          ∃ x piece least, (piecesOf content).tail[i]? = some piece
            ∧ readLine config.columnLimit (i + 2) (Text.decode piece) = .ok (.sample x)
            ∧ (timestamps (acceptedSamples config
                (((piecesOf content).take (i + 2)).map Text.decode))).min? = some least
            ∧ (phase = .warmup ↔ x.timestamp - least ≤ millis))
      ∧ (∀ phase, world'.files.read (r.paths.samples.get phase)
          = .ok (closePieces ((piecesOf content).head?.toList
              ++ piecesWith (.written phase) (piecesOf content).tail fates)))
      ∧ (content = [] → ∀ phase, world'.files.read (r.paths.samples.get phase) = .ok []) := by
  obtain ⟨content, hread, hresult, hpaths, hsheets⟩ := exists_read_sheet h
  rw [splitContent_eq_splitLines] at hresult
  obtain ⟨millis, rs, routed, books⟩ := exists_splitBooks hresult
  have hstrip : ∀ piece ∈ (piecesOf content).tail,
      (Text.decode piece).stripTerminator = Text.decode piece := by
    intro piece hpiece
    exact stripTerminator_decode (List.mem_of_mem_tail hpiece)
  have htail : ∀ (i : Nat) (piece : List UInt8), (piecesOf content).tail[i]? = some piece →
      ((piecesOf content).map Text.decode).tail[i]? = some (Text.decode piece) := by
    intro i piece hpiece
    rw [← List.map_tail, List.getElem?_map, hpiece, Option.map_some]
  have hreadings := books.readings_eq
  obtain ⟨fates, hfates⟩ : ∃ fates, fates = fatesOf (SplitState.fresh config millis).router rs :=
    ⟨_, rfl⟩
  have hlength : fates.length = (piecesOf content).tail.length := by
    rw [hfates, length_fatesOf, SplitConfig.length_readings hreadings, ← List.map_tail,
      List.length_map]
  have hbytes : ∀ phase, world'.files.read (r.paths.samples.get phase)
      = .ok (closePieces ((piecesOf content).head?.toList
          ++ piecesWith (.written phase) (piecesOf content).tail fates)) := by
    intro phase
    have hwritten : (ofPhase phase routed).map Sample.line
        = (piecesWith (.written phase) (piecesOf content).tail fates).map Text.decode := by
      rw [books.routed_eq, ← linesWith_written hreadings, ← hfates, ← List.map_tail,
        linesWith_map_decode _ _ hstrip]
    rw [hsheets phase, splitContent_eq_splitLines, books.text_eq, headerOf_map_decode, hwritten,
      ← List.map_append, encode_closeLines_decode]
    rfl
  refine ⟨hpaths, content, millis, hread, books.millis_eq, fates, hlength, ?fits, ?law, hbytes,
    ?empty⟩
  case fits =>
    intro i piece fate hpiece hfate
    have hfits := fits_fatesOf hreadings _ (htail i piece hpiece) (hfates ▸ hfate)
    rw [hstrip piece (List.mem_of_getElem? hpiece)] at hfits
    rw [add_comm]
    exact hfits
  case law =>
    intro i phase hphase
    obtain ⟨x, line, least, hline, hx, hleast, hlaw⟩ :=
      exists_sample_of_written hreadings rfl (hfates ▸ hphase)
    rw [← List.map_tail, List.getElem?_map] at hline
    obtain ⟨piece, hpiece, rfl⟩ := Option.map_eq_some_iff.1 hline
    rw [hstrip piece (List.mem_of_getElem? hpiece)] at hx
    rw [← List.map_take] at hleast
    exact ⟨x, piece, least, hpiece, hx, hleast, hlaw⟩
  case empty =>
    rintro rfl phase
    rw [hbytes]
    rfl

/-- The pieces of a file: a header with an overlong spelling, a sample with the spelling of half of
a pair, a sample and a rejected line that end within a spelling, and a sample that ends within one
at the end of the file. -/
def brokenPieces : List (List UInt8) :=
  [[0x74, 0xC0, 0x80],
    (Text.lit "5000,10,").encode ++ [0xED, 0xA0, 0x80]
      ++ (Text.lit ",b,c,d,e,true,f,1,2").encode,
    (Text.lit "9000,10,a,b,c,d,e,true,f,1,2,").encode ++ [0xE2, 0x82],
    (Text.lit "100,x").encode ++ [0xFF, 0xC3],
    (Text.lit "3000,10,a,b,c,d,e,false,f,1,2,").encode ++ [0xF0, 0x9F, 0x98]]

/-- A file of these pieces, with all three line ends and none at the end. -/
def brokenContent : List UInt8 :=
  match brokenPieces with
  | [header, first, second, third, fourth] =>
    header ++ [0x0D, 0x0A] ++ first ++ [0x0D] ++ second ++ [0x0A] ++ third ++ [0x0D] ++ fourth
  | _ => []

/-- A world with this file and nothing else. -/
def brokenWorld : World := .initial ⟨[([Text.lit "run.jtl"], .file brokenContent)], []⟩ []

theorem splitFile_keeps_bytes_brokenWorld :
    ∃ r world', (splitFile mixedConfig (Text.lit "run.jtl") false).result brokenWorld
        = (.ok r, world')
      ∧ piecesOf brokenContent = brokenPieces
      ∧ r.split.rows = ⟨2, 1⟩
      ∧ ∃ fates : List Fate, fates.length = 4
        ∧ ∀ phase, world'.files.read (r.paths.samples.get phase)
          = .ok (closePieces (brokenPieces.head?.toList
              ++ piecesWith (.written phase) brokenPieces.tail fates)) := by
  have hrun : ((splitFile mixedConfig (Text.lit "run.jtl") false).result brokenWorld).1.map
      (·.split.rows) = .ok ⟨2, 1⟩ := by decide +kernel
  have hpieces : piecesOf brokenContent = brokenPieces := by decide +kernel
  rcases hresult : (splitFile mixedConfig (Text.lit "run.jtl") false).result brokenWorld
    with ⟨e | r, world'⟩
  · rw [hresult] at hrun
    cases hrun
  · rw [hresult] at hrun
    obtain ⟨-, content, millis, hread, -, fates, hlength, -, -, hbytes, -⟩ :=
      splitFile_keeps_bytes hresult
    have hcontent : brokenWorld.files.read (Text.lit "run.jtl") = .ok brokenContent := by
      decide +kernel
    obtain rfl : brokenContent = content := Except.ok.inj (hcontent.symm.trans hread)
    rw [hpieces] at hlength hbytes
    exact ⟨r, world', rfl, hpieces, Except.ok.inj hrun, fates, hlength, hbytes⟩

end PhaseSplit
