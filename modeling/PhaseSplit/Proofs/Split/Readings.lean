import Mathlib.Tactic
import PhaseSplit.Proofs.Phase.Assignment
import PhaseSplit.Proofs.Sample.Reading
import PhaseSplit.Split.Stream

/-!
# The readings of a split

A split does two things to a line: it reads it, for which it needs the line, its number and the
configuration but no state, and it brings the reading into the state.  This file separates the two.

* `SplitConfig.reading` is what a line comes to and `SplitConfig.readings` what the lines before the
  first fault come to;
* `SplitConfig.reading_eq_ok_iff`, `SplitConfig.reading_eq_error_iff`: how a line is brought to a
  reading, or ends the split;
* `SplitConfig.getElem?_readings`: without a fault there is one reading for each line, made of that
  line and its number alone;
* `SplitConfig.exists_of_readings_error`: a fault comes from the first line that ends the split;
* `SplitState.run_eq`: a run is a fold over the readings and ends where they end.
-/

namespace PhaseSplit

/-- What a line after the header comes to when it does not end the split. -/
inductive Reading
  | sample (x : Sample)
  | tooWide (lineNumber : Int) (line : Text)
  | invalid (e : FieldFault)

namespace Reading

/-- The sample of a line that holds one. -/
def sample? : Reading → Option Sample
  | sample x => some x
  | _ => none

/-- The number of a line with too many columns. -/
def tooWideNumber? : Reading → Option Int
  | tooWide n _ => some n
  | _ => none

/-- The number of a line that is rejected for a faulty field. -/
def invalidNumber? : Reading → Option Int
  | invalid e => some e.lineNumber
  | _ => none

/-- What was found in the line that came to this reading. -/
def content : Reading → Except LineFault LineContent
  | sample x => .ok (.sample x)
  | tooWide n line => .ok (.tooManyColumns n line)
  | invalid e => .error (.invalidField e)

end Reading

/-- The samples among readings. -/
def samplesOf (rs : List Reading) : List Sample := rs.filterMap Reading.sample?

/-- The numbers of the lines with too many columns among readings. -/
def tooWideNumbers (rs : List Reading) : List Int := rs.filterMap Reading.tooWideNumber?

/-- The numbers of the lines rejected for a faulty field among readings. -/
def invalidNumbers (rs : List Reading) : List Int := rs.filterMap Reading.invalidNumber?

section

variable (x : Sample) (n : Int) (line : Text) (e : FieldFault) (rs : List Reading)

@[simp] theorem samplesOf_nil : samplesOf [] = [] := rfl

@[simp] theorem samplesOf_sample : samplesOf (.sample x :: rs) = x :: samplesOf rs := rfl

@[simp] theorem samplesOf_tooWide : samplesOf (.tooWide n line :: rs) = samplesOf rs := rfl

@[simp] theorem samplesOf_invalid : samplesOf (.invalid e :: rs) = samplesOf rs := rfl

@[simp] theorem tooWideNumbers_nil : tooWideNumbers [] = [] := rfl

@[simp] theorem tooWideNumbers_sample : tooWideNumbers (.sample x :: rs) = tooWideNumbers rs := rfl

@[simp] theorem tooWideNumbers_tooWide :
    tooWideNumbers (.tooWide n line :: rs) = n :: tooWideNumbers rs := rfl

@[simp] theorem tooWideNumbers_invalid :
    tooWideNumbers (.invalid e :: rs) = tooWideNumbers rs := rfl

@[simp] theorem invalidNumbers_nil : invalidNumbers [] = [] := rfl

@[simp] theorem invalidNumbers_sample : invalidNumbers (.sample x :: rs) = invalidNumbers rs := rfl

@[simp] theorem invalidNumbers_tooWide :
    invalidNumbers (.tooWide n line :: rs) = invalidNumbers rs := rfl

@[simp] theorem invalidNumbers_invalid :
    invalidNumbers (.invalid e :: rs) = e.lineNumber :: invalidNumbers rs := rfl

end

namespace SplitConfig

/-- What a line comes to, or the fault that ends the split. -/
def reading (config : SplitConfig) (lineNumber : Int) (line : Text) : Except LineFault Reading :=
  match readLine config.columnLimit lineNumber line.stripTerminator with
  | .ok (.sample x) => .ok (.sample x)
  | .ok (.tooManyColumns n l) => .ok (.tooWide n l)
  | .error (.invalidField e) =>
    if config.skipInvalidFields then .ok (.invalid e) else .error (.invalidField e)
  | .error (.tooManyDigits count) => .error (.tooManyDigits count)

/-- Whether a line with this fault is passed over. -/
def skips (config : SplitConfig) : LineFault → Bool
  | .invalidField _ => config.skipInvalidFields
  | .tooManyDigits _ => false

/-- What the lines before the first fault come to, and that fault. -/
def readings (config : SplitConfig) : (lineNumber : Int) → List Text →
    List Reading × Option LineFault
  | _, [] => ([], none)
  | n, line :: lines =>
    match config.reading n line with
    | .ok r => (r :: (config.readings (n + 1) lines).1, (config.readings (n + 1) lines).2)
    | .error e => ([], some e)

variable {config : SplitConfig} {n m : Int} {line l : Text} {lines : List Text} {x : Sample}
  {e : FieldFault}

/-- A line comes to the reading of what is found in it; if that is a fault, it has to be passed
over. -/
theorem reading_eq_ok_iff {r : Reading} :
    config.reading n line = .ok r
      ↔ readLine config.columnLimit n line.stripTerminator = r.content
      ∧ ∀ f, r.content = .error f → config.skips f = true := by
  unfold reading
  rcases readLine config.columnLimit n line.stripTerminator with (e | c) | (y | ⟨m, l⟩)
  · cases hskip : config.skipInvalidFields <;> cases r <;> simp [Reading.content, skips, hskip]
  · cases r <;> simp [Reading.content]
  · cases r <;> simp [Reading.content]
  · cases r <;> simp [Reading.content]

theorem reading_eq_sample_iff :
    config.reading n line = .ok (.sample x)
      ↔ readLine config.columnLimit n line.stripTerminator = .ok (.sample x) := by
  simp [reading_eq_ok_iff, Reading.content]

theorem reading_eq_tooWide_iff :
    config.reading n line = .ok (.tooWide m l)
      ↔ readLine config.columnLimit n line.stripTerminator = .ok (.tooManyColumns m l) := by
  simp [reading_eq_ok_iff, Reading.content]

theorem reading_eq_invalid_iff :
    config.reading n line = .ok (.invalid e) ↔ config.skipInvalidFields = true
      ∧ readLine config.columnLimit n line.stripTerminator = .error (.invalidField e) := by
  simp [reading_eq_ok_iff, Reading.content, skips, and_comm]

/-- A line ends the split with the fault that reading it gives, unless that fault is passed over. -/
theorem reading_eq_error_iff {e : LineFault} :
    config.reading n line = .error e
      ↔ readLine config.columnLimit n line.stripTerminator = .error e ∧ config.skips e = false := by
  unfold reading
  rcases readLine config.columnLimit n line.stripTerminator with (e' | c) | (y | ⟨m, l⟩)
  · cases hskip : config.skipInvalidFields
    · constructor
      · rintro ⟨⟩
        exact ⟨rfl, hskip⟩
      · rintro ⟨⟨⟩, -⟩
        rfl
    · constructor
      · rintro ⟨⟩
      · rintro ⟨⟨⟩, h⟩
        rw [skips, hskip] at h
        cases h
  · constructor
    · rintro ⟨⟩
      exact ⟨rfl, rfl⟩
    · rintro ⟨⟨⟩, -⟩
      rfl
  · simp
  · simp

theorem readings_cons_of_ok {r : Reading} (h : config.reading n line = .ok r) :
    config.readings n (line :: lines)
      = (r :: (config.readings (n + 1) lines).1, (config.readings (n + 1) lines).2) := by
  rw [readings, h]

theorem readings_cons_of_error {e : LineFault} (h : config.reading n line = .error e) :
    config.readings n (line :: lines) = ([], some e) := by
  rw [readings, h]

/-- A run of readings without a fault begins with that of the first line. -/
theorem readings_cons_eq_none {rs : List Reading}
    (h : config.readings n (line :: lines) = (rs, none)) :
    ∃ r rest, config.reading n line = .ok r ∧ config.readings (n + 1) lines = (rest, none)
      ∧ rs = r :: rest := by
  cases hr : config.reading n line with
  | error e => rw [readings_cons_of_error hr] at h; simp at h
  | ok r =>
    rw [readings_cons_of_ok hr, Prod.mk.injEq] at h
    exact ⟨r, (config.readings (n + 1) lines).1, rfl, Prod.ext rfl h.2, h.1.symm⟩

/-- Without a fault there is one reading for each line, made of that line and its number alone. -/
theorem getElem?_readings {rs : List Reading} (h : config.readings n lines = (rs, none)) (i : Nat) :
    (rs[i]?).map .ok = (lines[i]?).map (config.reading (n + i)) := by
  induction lines generalizing n rs i with
  | nil => cases h; simp
  | cons line lines ih =>
    obtain ⟨r, rest, hr, hrest, rfl⟩ := readings_cons_eq_none h
    cases i with
    | zero => simp [hr]
    | succ i =>
      have := ih hrest i
      rw [Int.add_assoc, Int.add_comm 1 (i : Int)] at this
      simpa using this

theorem exists_reading_of_getElem? {rs : List Reading} {i : Nat}
    (h : config.readings n lines = (rs, none)) (hline : lines[i]? = some line) :
    ∃ r, rs[i]? = some r ∧ config.reading (n + i) line = .ok r := by
  have hreading := getElem?_readings h i
  rw [hline, Option.map_some] at hreading
  obtain ⟨r, hr, heq⟩ := Option.map_eq_some_iff.1 hreading
  exact ⟨r, hr, heq.symm⟩

theorem exists_line_of_getElem? {rs : List Reading} {i : Nat} {r : Reading}
    (h : config.readings n lines = (rs, none)) (hr : rs[i]? = some r) :
    ∃ line, lines[i]? = some line ∧ config.reading (n + i) line = .ok r := by
  have hreading := getElem?_readings h i
  rw [hr, Option.map_some] at hreading
  exact Option.map_eq_some_iff.1 hreading.symm

theorem length_readings {rs : List Reading} (h : config.readings n lines = (rs, none)) :
    rs.length = lines.length := by
  induction lines generalizing n rs with
  | nil => cases h; rfl
  | cons line lines ih =>
    obtain ⟨r, rest, -, hrest, rfl⟩ := readings_cons_eq_none h
    simp [ih hrest]

/-- Reading more lines adds to the readings of the first ones and changes none of them. -/
theorem readings_append {rs : List Reading} {as : List Text} (h : config.readings n as = (rs, none))
    (bs : List Text) :
    config.readings n (as ++ bs) = (rs ++ (config.readings (n + as.length) bs).1,
      (config.readings (n + as.length) bs).2) := by
  induction as generalizing n rs with
  | nil => cases h; simp
  | cons line as ih =>
    obtain ⟨r, rest, hr, hrest, rfl⟩ := readings_cons_eq_none h
    rw [List.cons_append, readings_cons_of_ok hr, ih hrest, List.length_cons, List.cons_append]
    have : n + 1 + (as.length : Int) = n + ((as.length + 1 : Nat) : Int) := by omega
    rw [this]

/-- **A fault comes from one line**: the lines before it have readings, and those after it are not
read. -/
theorem exists_of_readings_error {rs : List Reading} {e : LineFault}
    (h : config.readings n lines = (rs, some e)) :
    ∃ before bad later, lines = before ++ bad :: later
      ∧ config.readings n before = (rs, none)
      ∧ config.reading (n + before.length) bad = .error e := by
  induction lines generalizing n rs with
  | nil => cases h
  | cons line lines ih =>
    cases hr : config.reading n line with
    | error e' =>
      rw [readings_cons_of_error hr] at h
      cases h
      exact ⟨[], line, lines, rfl, rfl, by simpa using hr⟩
    | ok r =>
      rw [readings_cons_of_ok hr, Prod.mk.injEq] at h
      obtain ⟨rfl, hfault⟩ := h
      obtain ⟨before, bad, later, rfl, hbefore, hbad⟩ := ih (Prod.ext rfl hfault)
      refine ⟨line :: before, bad, later, rfl, ?_, ?_⟩
      · rw [readings_cons_of_ok hr, hbefore]
      · have hnumber : n + ((line :: before).length : Int) = n + 1 + before.length := by
          rw [List.length_cons]
          omega
        rw [hnumber]
        exact hbad

theorem readings_take {rs : List Reading} (h : config.readings n lines = (rs, none)) (k : Nat) :
    config.readings n (lines.take k) = (rs.take k, none) := by
  induction lines generalizing n rs k with
  | nil => cases h; simp [readings]
  | cons line lines ih =>
    obtain ⟨r, rest, hr, hrest, rfl⟩ := readings_cons_eq_none h
    cases k with
    | zero => rfl
    | succ k =>
      rw [List.take_succ_cons, readings_cons_of_ok hr, ih hrest k]
      rfl

end SplitConfig

/-! ## The samples of a file -/

/-- The sample that a line holds, if it holds one. -/
def sampleAt? (config : SplitConfig) (lineNumber : Int) (line : Text) : Option Sample :=
  match readLine config.columnLimit lineNumber line.stripTerminator with
  | .ok (.sample x) => some x
  | _ => none

/-- The samples of a file: those of the lines after the header, which is line 1. -/
def acceptedSamples (config : SplitConfig) (lines : List Text) : List Sample :=
  (lines.tail.zipIdx 2).filterMap fun numbered => sampleAt? config numbered.2 numbered.1

theorem sampleAt?_eq_some_iff {config : SplitConfig} {n : Int} {line : Text} {x : Sample} :
    sampleAt? config n line = some x
      ↔ readLine config.columnLimit n line.stripTerminator = .ok (.sample x) := by
  unfold sampleAt?
  rcases readLine config.columnLimit n line.stripTerminator with e | (y | ⟨m, l⟩)
  · simp
  · simp
  · simp

/-- A sample of a file was read from one of its lines. -/
theorem exists_of_mem_acceptedSamples {config : SplitConfig} {lines : List Text} {x : Sample}
    (h : x ∈ acceptedSamples config lines) :
    ∃ line ∈ lines.tail, x.line = line.stripTerminator
      ∧ readLine config.columnLimit x.lineNumber x.line = .ok (.sample x) := by
  obtain ⟨⟨line, n⟩, hmem, hat⟩ := List.mem_filterMap.1 h
  have hread := sampleAt?_eq_some_iff.1 hat
  obtain ⟨hline, hnumber⟩ := line_of_readLine_sample hread
  refine ⟨line, List.fst_mem_of_mem_zipIdx hmem, hline, ?_⟩
  rw [hline, hnumber]
  exact hread

theorem sampleAt?_of_reading {config : SplitConfig} {n : Int} {line : Text} {r : Reading}
    (h : config.reading n line = .ok r) : sampleAt? config n line = r.sample? := by
  unfold sampleAt?
  cases r with
  | sample x => rw [SplitConfig.reading_eq_sample_iff.1 h]; rfl
  | tooWide m l => rw [SplitConfig.reading_eq_tooWide_iff.1 h]; rfl
  | invalid e => rw [(SplitConfig.reading_eq_invalid_iff.1 h).2]; rfl

/-- What readings tell of their lines is what the lines tell of themselves, in the same order. -/
theorem filterMap_readings {α : Type} {config : SplitConfig} {ofReading : Reading → Option α}
    {ofLine : Int → Text → Option α}
    (hagree : ∀ {n : Int} {line : Text} {r : Reading}, config.reading n line = .ok r →
      ofLine n line = ofReading r)
    {first : Nat} {lines : List Text} {rs : List Reading}
    (h : config.readings first lines = (rs, none)) :
    rs.filterMap ofReading
      = (lines.zipIdx first).filterMap fun numbered => ofLine numbered.2 numbered.1 := by
  induction lines generalizing first rs with
  | nil => cases h; rfl
  | cons line lines ih =>
    obtain ⟨r, rest, hr, hrest, rfl⟩ := SplitConfig.readings_cons_eq_none h
    have hnext : config.readings (first + 1 : Nat) lines = (rest, none) := hrest
    rw [List.zipIdx_cons, List.filterMap_cons, List.filterMap_cons, ih hnext, hagree hr]

/-- The samples among the readings of the lines after the header are those of the file. -/
theorem samplesOf_eq_acceptedSamples {config : SplitConfig} {lines : List Text} {rs : List Reading}
    (h : config.readings SplitState.firstRow lines.tail = (rs, none)) :
    samplesOf rs = acceptedSamples config lines := by
  have hnumber : config.readings (2 : Nat) lines.tail = (rs, none) := h
  exact filterMap_readings sampleAt?_of_reading hnumber

theorem pairwise_zipIdx {α : Type} (l : List α) (k : Nat) :
    (l.zipIdx k).Pairwise fun a b => a.2 < b.2 := by
  induction l generalizing k with
  | nil => exact List.Pairwise.nil
  | cons a l ih =>
    rw [List.zipIdx_cons, List.pairwise_cons]
    refine ⟨?_, ih (k + 1)⟩
    intro b hb
    exact List.le_snd_of_mem_zipIdx hb

/-- Samples keep the order of their lines. -/
theorem pairwise_lineNumber_acceptedSamples (config : SplitConfig) (lines : List Text) :
    (acceptedSamples config lines).Pairwise fun x y => x.lineNumber < y.lineNumber := by
  refine List.Pairwise.filterMap _ ?_ (pairwise_zipIdx lines.tail 2)
  intro a b hab x hx y hy
  have hnumber : ∀ {a : Text × Nat} {x : Sample}, sampleAt? config a.2 a.1 = some x →
      x.lineNumber = a.2 := by
    intro a x hx
    exact (line_of_readLine_sample (sampleAt?_eq_some_iff.1 hx)).2
  rw [hnumber hx, hnumber hy]
  exact_mod_cast hab

/-! ## Runs -/

namespace SplitState

/-- The state after a reading has been brought into it. -/
def enter (config : SplitConfig) (s : SplitState) : Reading → SplitState
  | .sample x => s.accept config x
  | .tooWide n l => s.rejectTooWide n l
  | .invalid e => s.rejectInvalid e

/-- The state after the readings of a list. -/
def enterAll (config : SplitConfig) (s : SplitState) (rs : List Reading) : SplitState :=
  rs.foldl (enter config) s

variable {config : SplitConfig} {s : SplitState}

@[simp] theorem enterAll_nil : s.enterAll config [] = s := rfl

@[simp] theorem enterAll_cons (r : Reading) (rs : List Reading) :
    s.enterAll config (r :: rs) = (s.enter config r).enterAll config rs := rfl

theorem enterAll_append (rs rs' : List Reading) :
    s.enterAll config (rs ++ rs') = (s.enterAll config rs).enterAll config rs' :=
  List.foldl_append

/-- One step reads the line and enters the reading. -/
theorem step_eq (n : Int) (line : Text) :
    s.step config n line = (config.reading n line).map (s.enter config) := by
  unfold step SplitConfig.reading
  cases readLine config.columnLimit n line.stripTerminator with
  | ok content => cases content <;> rfl
  | error e =>
    cases e with
    | invalidField e => cases config.skipInvalidFields <;> rfl
    | tooManyDigits count => rfl

/-- **A run is a fold over the readings** and ends where they end. -/
theorem run_eq (n : Int) (lines : List Text) :
    run config s n lines
      = (s.enterAll config (config.readings n lines).1, (config.readings n lines).2) := by
  induction lines generalizing s n with
  | nil => rfl
  | cons line lines ih =>
    rw [run, step_eq]
    cases hr : config.reading n line with
    | ok r =>
      rw [SplitConfig.readings_cons_of_ok hr]
      exact ih (n + 1)
    | error e =>
      rw [SplitConfig.readings_cons_of_error hr]
      rfl

end SplitState

end PhaseSplit
