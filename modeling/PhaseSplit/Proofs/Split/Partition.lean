import Mathlib.Tactic
import PhaseSplit.Proofs.Split.Bookkeeping

/-!
# The partition of the lines

A split gives every line after the header exactly one fate: it is written to the output of one of
the phases, or rejected for its number of columns, or rejected for a faulty field.

* `Fate` is the fate of a line, `linesWith` and `numbersWith` are the lines and the line numbers of
  one fate;
* `length_by_fate`: the lines of the four fates add up to all lines;
* `splitLines_partition`: the outputs hold exactly the lines written to their phase, the result
  names exactly the rejected ones, and the fate of a line fits what the line holds.
-/

namespace PhaseSplit

/-- What becomes of a line after the header. -/
inductive Fate
  | written (phase : Phase)
  | tooWide
  | invalid
  deriving DecidableEq

/-- Whether a fate fits what a line holds. -/
def Fate.Fits : Fate → Except LineFault LineContent → Prop
  | .written _, .ok (.sample _) => True
  | .tooWide, .ok (.tooManyColumns _ _) => True
  | .invalid, .error (.invalidField _) => True
  | _, _ => False

/-- The lines of one fate, without their line ends. -/
def linesWith (fate : Fate) (lines : List Text) (fates : List Fate) : List Text :=
  ((lines.zip fates).filter (·.2 = fate)).map (·.1.stripTerminator)

/-- The numbers of the lines of one fate when the first line has the number `first`. -/
def numbersWith (fate : Fate) (first : Nat) (fates : List Fate) : List Int :=
  ((fates.zipIdx first).filter (·.1 = fate)).map fun fi => (fi.2 : Int)

/-! ## Lists of fates -/

theorem linesWith_cons (fate : Fate) (line : Text) (lines : List Text) (f : Fate)
    (fates : List Fate) :
    linesWith fate (line :: lines) (f :: fates)
      = if f = fate then line.stripTerminator :: linesWith fate lines fates
        else linesWith fate lines fates := by
  by_cases h : f = fate <;> simp [linesWith, h]

theorem numbersWith_cons (fate : Fate) (first : Nat) (f : Fate) (fates : List Fate) :
    numbersWith fate first (f :: fates)
      = if f = fate then (first : Int) :: numbersWith fate (first + 1) fates
        else numbersWith fate (first + 1) fates := by
  by_cases h : f = fate <;> simp [numbersWith, h]

theorem length_linesWith (fate : Fate) {lines : List Text} {fates : List Fate}
    (h : fates.length = lines.length) : (linesWith fate lines fates).length = fates.count fate := by
  induction fates generalizing lines with
  | nil => simp [linesWith]
  | cons f fates ih =>
    cases lines with
    | nil => simp at h
    | cons line lines =>
      have := ih (by simpa using h)
      rw [linesWith_cons, List.count_cons]
      by_cases hf : f = fate <;> simp [hf, this]

theorem length_numbersWith (fate : Fate) (first : Nat) (fates : List Fate) :
    (numbersWith fate first fates).length = fates.count fate := by
  induction fates generalizing first with
  | nil => rfl
  | cons f fates ih =>
    rw [numbersWith_cons, List.count_cons]
    by_cases hf : f = fate <;> simp [hf, ih]

/-- The lines of the four fates are all lines. -/
theorem length_by_fate (fates : List Fate) :
    fates.count (.written .warmup) + fates.count (.written .measurement) + fates.count .tooWide
      + fates.count .invalid = fates.length := by
  induction fates with
  | nil => rfl
  | cons f fates ih =>
    simp only [List.count_cons, List.length_cons]
    rcases f with ⟨_ | _⟩ | _ | _ <;> simp <;> omega

/-- A line is listed by its number under its own fate and no other. -/
theorem mem_numbersWith_iff {fate : Fate} {first i : Nat} {fates : List Fate} :
    ((first + i : Nat) : Int) ∈ numbersWith fate first fates ↔ fates[i]? = some fate := by
  unfold numbersWith
  simp only [List.mem_map, List.mem_filter, decide_eq_true_eq, Prod.exists]
  constructor
  · rintro ⟨f, j, ⟨hmem, rfl⟩, hj⟩
    rw [List.mk_mem_zipIdx_iff_le_and_getElem?_sub] at hmem
    obtain rfl : j = first + i := by exact_mod_cast hj
    rw [Nat.add_sub_cancel_left] at hmem
    exact hmem.2
  · intro h
    refine ⟨fate, first + i, ⟨?_, rfl⟩, rfl⟩
    rw [List.mk_mem_zipIdx_iff_le_and_getElem?_sub, Nat.add_sub_cancel_left]
    exact ⟨Nat.le_add_right first i, h⟩

/-- The numbers of one fate are strictly increasing. -/
theorem pairwise_numbersWith (fate : Fate) (first : Nat) (fates : List Fate) :
    (numbersWith fate first fates).Pairwise (· < ·) := by
  refine List.pairwise_map.2 (((pairwise_zipIdx fates first).filter _).imp ?_)
  intro a b hab
  exact_mod_cast hab

/-- No number has two fates. -/
theorem disjoint_numbersWith {fate other : Fate} (hne : fate ≠ other) (first : Nat)
    (fates : List Fate) :
    (numbersWith fate first fates).Disjoint (numbersWith other first fates) := by
  intro n hn hn'
  obtain ⟨⟨f, i⟩, hf, rfl⟩ := List.mem_map.1 hn
  obtain ⟨⟨g, j⟩, hg, hij⟩ := List.mem_map.1 hn'
  obtain ⟨hfi, hfate⟩ := List.mem_filter.1 hf
  obtain ⟨hgj, hother⟩ := List.mem_filter.1 hg
  have hji : j = i := by simpa using hij
  subst hji
  rw [List.mk_mem_zipIdx_iff_le_and_getElem?_sub] at hfi hgj
  have hfg : f = g := Option.some.inj (hfi.2.symm.trans hgj.2)
  simp only [decide_eq_true_eq] at hfate hother
  exact hne (hfate.symm.trans (hfg.trans hother))

/-! ## The fates that a split gives -/

/-- The fate of a line by its reading, when a router decides on the samples. -/
def Reading.fate (router : Router) : Reading → Fate
  | .sample x => .written (router.route x.timestamp).1
  | .tooWide _ _ => .tooWide
  | .invalid _ => .invalid

/-- The router after a reading. -/
def Reading.routerAfter (router : Router) : Reading → Router
  | .sample x => (router.route x.timestamp).2
  | .tooWide _ _ => router
  | .invalid _ => router

/-- The fates of the lines of some readings when a router decides on the samples among them. -/
def fatesOf (router : Router) : List Reading → List Fate
  | [] => []
  | r :: rs => r.fate router :: fatesOf (r.routerAfter router) rs

theorem length_fatesOf (router : Router) (rs : List Reading) :
    (fatesOf router rs).length = rs.length := by
  induction rs generalizing router with
  | nil => rfl
  | cons r rs ih => rw [fatesOf, List.length_cons, ih, List.length_cons]

variable {config : SplitConfig} {lines : List Text} {rs : List Reading}

/-- The lines written to a phase are those of the samples that the router gave to it. -/
theorem linesWith_written {n : Int} (h : config.readings n lines = (rs, none)) (router : Router)
    (p : Phase) :
    linesWith (.written p) lines (fatesOf router rs)
      = (ofPhase p (router.assign (samplesOf rs))).map Sample.line := by
  induction lines generalizing n rs router with
  | nil => cases h; rfl
  | cons line lines ih =>
    obtain ⟨r, rest, hr, hrest, rfl⟩ := SplitConfig.readings_cons_eq_none h
    rw [fatesOf, linesWith_cons, ih hrest]
    cases r with
    | sample x =>
      have hline := (line_of_readLine_sample (SplitConfig.reading_eq_sample_iff.1 hr)).1
      rw [samplesOf_sample, Router.assign, ofPhase_cons]
      by_cases hp : (router.route x.timestamp).1 = p
      · simp [Reading.fate, Reading.routerAfter, hp, hline]
      · simp [Reading.fate, Reading.routerAfter, hp]
    | tooWide m l => rfl
    | invalid e => rfl

/-- The numbers of the lines of one fate are those that the readings of this fate name. -/
theorem numbersWith_fatesOf {fate : Fate} {number? : Reading → Option Int}
    (hnumber : ∀ {n : Int} {line : Text} {r : Reading}, config.reading n line = .ok r →
      ∀ router, number? r = if r.fate router = fate then some n else none)
    {first : Nat} (h : config.readings first lines = (rs, none)) (router : Router) :
    numbersWith fate first (fatesOf router rs) = rs.filterMap number? := by
  induction lines generalizing first rs router with
  | nil => cases h; rfl
  | cons line lines ih =>
    obtain ⟨r, rest, hr, hrest, rfl⟩ := SplitConfig.readings_cons_eq_none h
    rw [fatesOf, numbersWith_cons, ih hrest, List.filterMap_cons, hnumber hr router]
    by_cases hfate : r.fate router = fate
    · rw [if_pos hfate, if_pos hfate]
    · rw [if_neg hfate, if_neg hfate]

theorem numbersWith_tooWide {first : Nat} (h : config.readings first lines = (rs, none))
    (router : Router) : numbersWith .tooWide first (fatesOf router rs) = tooWideNumbers rs := by
  refine numbersWith_fatesOf ?_ h router
  intro n line r hr router
  cases r with
  | sample x => rfl
  | tooWide m l =>
    have hm := (readLine_eq_tooManyColumns (SplitConfig.reading_eq_tooWide_iff.1 hr)).1
    rw [hm]
    rfl
  | invalid e => rfl

theorem numbersWith_invalid {first : Nat} (h : config.readings first lines = (rs, none))
    (router : Router) : numbersWith .invalid first (fatesOf router rs) = invalidNumbers rs := by
  refine numbersWith_fatesOf ?_ h router
  intro n line r hr router
  cases r with
  | sample x => rfl
  | tooWide m l => rfl
  | invalid e =>
    have hn := lineNumber_of_readLine_invalid (SplitConfig.reading_eq_invalid_iff.1 hr).2
    rw [← hn]
    rfl

/-- A line that has a reading meets the fate that its content calls for. -/
theorem Reading.fits_fate {n : Int} {line : Text} {r : Reading} (h : config.reading n line = .ok r)
    (router : Router) :
    (r.fate router).Fits (readLine config.columnLimit n line.stripTerminator) := by
  cases r with
  | sample x =>
    rw [SplitConfig.reading_eq_sample_iff.1 h]
    trivial
  | tooWide m l =>
    rw [SplitConfig.reading_eq_tooWide_iff.1 h]
    trivial
  | invalid e =>
    rw [(SplitConfig.reading_eq_invalid_iff.1 h).2]
    trivial

theorem fits_fatesOf {n : Int} (h : config.readings n lines = (rs, none)) (router : Router)
    {i : Nat} {line : Text} {fate : Fate} (hline : lines[i]? = some line)
    (hfate : (fatesOf router rs)[i]? = some fate) :
    fate.Fits (readLine config.columnLimit (n + i) line.stripTerminator) := by
  induction lines generalizing n rs router i with
  | nil => simp at hline
  | cons first lines ih =>
    obtain ⟨r, rest, hr, hrest, rfl⟩ := SplitConfig.readings_cons_eq_none h
    cases i with
    | zero =>
      obtain rfl : first = line := by simpa using hline
      obtain rfl : r.fate router = fate := by simpa [fatesOf] using hfate
      rw [Int.natCast_zero, add_zero]
      exact r.fits_fate hr router
    | succ i =>
      have hnumber : n + ((i + 1 : Nat) : Int) = n + 1 + i := by push_cast; ring
      rw [hnumber]
      exact ih hrest _ (by simpa using hline) (by simpa [fatesOf] using hfate)

/-! ## The partition -/

/-- **Every line after the header has exactly one fate.**  There is one fate for each of these
lines, fit for what the line holds.  Each output is the header and then the lines written to its
phase, in the order of the input and each closed by a line feed; the result counts these lines and
names the rejected ones, the first line after the header being line 2. -/
theorem splitLines_partition {config : SplitConfig} {lines : List Text} {r : SplitResult}
    (h : (splitLines config lines).result = .ok r) :
    ∃ fates : List Fate, fates.length = lines.tail.length
      ∧ (∀ (i : Nat) (line : Text) (fate : Fate), lines.tail[i]? = some line →
          fates[i]? = some fate →
          fate.Fits (readLine config.columnLimit (i + 2) line.stripTerminator))
      ∧ (∀ phase, (splitLines config lines).sheets.text phase
          = closeLines (headerOf lines ++ linesWith (.written phase) lines.tail fates))
      ∧ (∀ phase, r.rows.get phase = (linesWith (.written phase) lines.tail fates).length)
      ∧ r.tooWide = numbersWith .tooWide 2 fates
      ∧ r.invalid = numbersWith .invalid 2 fates
      ∧ r.tooWide.Pairwise (· < ·) ∧ r.invalid.Pairwise (· < ·) ∧ r.tooWide.Disjoint r.invalid
      ∧ r.rows.get .warmup + r.rows.get .measurement + r.tooWide.length + r.invalid.length
        = lines.tail.length := by
  obtain ⟨millis, rs, routed, books⟩ := exists_splitBooks h
  obtain ⟨fates, hfates⟩ : ∃ fates, fates = fatesOf (SplitState.fresh config millis).router rs :=
    ⟨_, rfl⟩
  have hreadings : config.readings (2 : Nat) lines.tail = (rs, none) := books.readings_eq
  have hlength : fates.length = lines.tail.length := by
    rw [hfates, length_fatesOf, SplitConfig.length_readings hreadings]
  have hwritten : ∀ phase, linesWith (.written phase) lines.tail fates
      = (ofPhase phase routed).map Sample.line := by
    intro phase
    rw [hfates, linesWith_written hreadings, books.routed_eq]
  have hwide : r.tooWide = numbersWith .tooWide 2 fates := by
    rw [hfates, numbersWith_tooWide hreadings, books.tooWide_eq]
  have hinvalid : r.invalid = numbersWith .invalid 2 fates := by
    rw [hfates, numbersWith_invalid hreadings, books.invalid_eq]
  have hrows : ∀ phase, r.rows.get phase
      = (linesWith (.written phase) lines.tail fates).length := by
    intro phase
    rw [hwritten, List.length_map, books.rows_eq]
  refine ⟨fates, hlength, ?fits, ?texts, hrows, hwide, hinvalid, ?_, ?_, ?_, ?total⟩
  case fits =>
    intro i line fate hline hfate
    rw [add_comm]
    exact fits_fatesOf hreadings _ hline (hfates ▸ hfate)
  case texts =>
    intro phase
    rw [hwritten, books.text_eq]
  · rw [hwide]
    exact pairwise_numbersWith _ _ _
  · rw [hinvalid]
    exact pairwise_numbersWith _ _ _
  · rw [hwide, hinvalid]
    exact disjoint_numbersWith (by simp) _ _
  case total =>
    rw [hrows, hrows, hwide, hinvalid, length_linesWith _ hlength, length_linesWith _ hlength,
      length_numbersWith, length_numbersWith, length_by_fate, hlength]

theorem splitLines_partition_mixedLines :
    (splitLines mixedConfig mixedLines).result = .ok mixedResult
      ∧ ∃ fates : List Fate, fates.length = 7 ∧ mixedResult.tooWide = numbersWith .tooWide 2 fates
        ∧ mixedResult.invalid = numbersWith .invalid 2 fates := by
  obtain ⟨fates, hlength, -, -, -, hwide, hinvalid, -⟩ := splitLines_partition splitLines_mixedLines
  exact ⟨splitLines_mixedLines, fates, hlength, hwide, hinvalid⟩

end PhaseSplit
