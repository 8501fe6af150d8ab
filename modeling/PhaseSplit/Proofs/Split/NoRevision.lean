import Mathlib.Tactic
import PhaseSplit.Proofs.Split.Completion

/-!
# Nothing is taken back

A split works from the first line to the last.  What it has written and announced after some lines
stays written and announced whatever lines follow, and a line that ends the split has no effect of
its own: the split leaves what it would have left had the input stopped before that line.

* `SplitState.text_prefix_enterAll`, `SplitState.progress_prefix_enterAll`: more readings add to the
  outputs and to the announcements and change neither;
* `SplitState.atEnd_append`: the state after more lines comes from the state after the first ones;
* `SplitState.atEnd_of_fault`: the line that ends a split and the lines after it leave no trace in
  the state;
* `splitLines_takes_nothing_back`: both for whole splits.
-/

namespace PhaseSplit

namespace SplitState

variable {config : SplitConfig} {s : SplitState} {millis : Int} {lines : List Text}

theorem text_prefix_enterAll (rs : List Reading) (p : Phase) :
    s.sheets.text p <+: (s.enterAll config rs).sheets.text p := by
  show Sheet.text (s.sheets.sheets.get p)
    <+: Sheet.text ((s.enterAll config rs).sheets.sheets.get p)
  unfold Sheet.text
  rw [sheet_enterAll, List.flatMap_append]
  exact List.prefix_append _ _

theorem progress_prefix_enterAll (rs : List Reading) :
    s.progress.toList <+: (s.enterAll config rs).progress.toList := by
  rw [progress_enterAll]
  exact List.prefix_append _ _

/-- The state after more lines comes from the state after the first ones, of which the first is the
header. -/
theorem atEnd_append {header : Text} {as : List Text} {rs : List Reading}
    (h : config.readings firstRow as = (rs, none)) (bs : List Text) :
    atEnd config millis (header :: as ++ bs)
      = (atEnd config millis (header :: as)).enterAll config
        (config.readings (firstRow + as.length) bs).1 := by
  unfold atEnd
  show (((fresh config millis).readHeader (header :: as)).enterAll config
    (config.readings firstRow (as ++ bs)).1) = _
  rw [SplitConfig.readings_append h, enterAll_append]
  show _ = (((fresh config millis).readHeader (header :: as)).enterAll config
    (config.readings firstRow as).1).enterAll config _
  rw [h]

theorem text_atEnd_nil (p : Phase) : (atEnd config millis []).sheets.text p = [] := by
  cases p <;> rfl

theorem progress_atEnd_nil : (atEnd config millis []).progress.toList = [] := rfl

/-- What was written and announced stays whatever lines follow. -/
theorem atEnd_prefix {as : List Text} {rs : List Reading}
    (h : config.readings firstRow as.tail = (rs, none)) (bs : List Text) :
    (∀ p, (atEnd config millis as).sheets.text p <+: (atEnd config millis (as ++ bs)).sheets.text p)
      ∧ (atEnd config millis as).progress.toList
        <+: (atEnd config millis (as ++ bs)).progress.toList := by
  cases as with
  | nil =>
    constructor
    · intro p
      rw [text_atEnd_nil]
      exact List.nil_prefix
    · rw [progress_atEnd_nil]
      exact List.nil_prefix
  | cons header as =>
    have hrs : config.readings firstRow as = (rs, none) := h
    rw [atEnd_append hrs bs]
    exact ⟨text_prefix_enterAll _, progress_prefix_enterAll _⟩

/-- A line that ends a split has no effect on the state, and neither have the lines after it. -/
theorem atEnd_of_fault {bad : Text} {before : List Text} {rs : List Reading} {e : LineFault}
    (millis : Int) (header : Text) (hbefore : config.readings firstRow before = (rs, none))
    (hbad : config.reading (firstRow + before.length) bad = .error e) (later : List Text) :
    atEnd config millis (header :: before ++ bad :: later) = atEnd config millis (header :: before)
      ∧ (config.readings firstRow (header :: before ++ bad :: later).tail).2 = some e := by
  have hnone : config.readings (firstRow + before.length) (bad :: later) = ([], some e) :=
    SplitConfig.readings_cons_of_error hbad
  constructor
  · rw [atEnd_append hbefore, hnone]
    rfl
  · show (config.readings firstRow (before ++ bad :: later)).2 = some e
    rw [SplitConfig.readings_append hbefore, hnone]

end SplitState

/-- The line `bad` ends a split after the lines `before`: reading it gives the fault `e`, which is
not passed over, and no line before it does the like.  The header is not read. -/
structure SplitConfig.EndsAt (config : SplitConfig) (before : List Text) (bad : Text)
    (e : LineFault) : Prop where
  header : before ≠ []
  fault : readLine config.columnLimit (before.length + 1) bad.stripTerminator = .error e
  not_skipped : config.skips e = false
  first : ∀ (i : Nat) (line : Text) (e' : LineFault), 1 ≤ i → before[i]? = some line →
    readLine config.columnLimit (i + 1) line.stripTerminator = .error e' → config.skips e' = true

/-- A fault after readings ends the split. -/
theorem endsAt_of_reading {config : SplitConfig} {header bad : Text} {before : List Text}
    {rs : List Reading} {e : LineFault}
    (hbefore : config.readings SplitState.firstRow before = (rs, none))
    (hbad : config.reading (SplitState.firstRow + before.length) bad = .error e) :
    config.EndsAt (header :: before) bad e := by
  obtain ⟨hfault, hskips⟩ := SplitConfig.reading_eq_error_iff.1 hbad
  refine ⟨List.cons_ne_nil _ _, ?_, hskips, ?_⟩
  · have hnumber : (((header :: before).length : Nat) : Int) + 1
        = SplitState.firstRow + before.length := by
      rw [List.length_cons]
      unfold SplitState.firstRow
      omega
    rw [hnumber]
    exact hfault
  · intro i line e' hi hline herror
    obtain ⟨k, rfl⟩ : ∃ k, i = k + 1 := ⟨i - 1, by omega⟩
    rw [List.getElem?_cons_succ] at hline
    obtain ⟨r, -, hr⟩ := SplitConfig.exists_reading_of_getElem? hbefore hline
    have hnumber : SplitState.firstRow + (k : Int) = ((k + 1 : Nat) : Int) + 1 := by
      unfold SplitState.firstRow
      omega
    rw [hnumber] at hr
    by_contra hskips'
    rw [Bool.not_eq_true] at hskips'
    have hends := SplitConfig.reading_eq_error_iff.2 ⟨herror, hskips'⟩
    rw [hends] at hr
    cases hr

/-! ## Whole splits -/

section

variable {config : SplitConfig} {millis : Int}

/-- A split with a result has only made a beginning of what it makes of more lines. -/
theorem splitLines_append {as : List Text} {r : SplitResult}
    (h : (splitLines config as).result = .ok r) (bs : List Text) :
    (∀ p, (splitLines config as).sheets.text p <+: (splitLines config (as ++ bs)).sheets.text p)
      ∧ (splitLines config as).progress <+: (splitLines config (as ++ bs)).progress := by
  rcases splitLines_cases config with ⟨e₀, log, -, hall⟩ | ⟨millis, -, hall⟩
  · rw [hall] at h
    cases h
  · rw [hall] at h
    have hnone := SplitState.result_close_eq_ok h
    have hrs : config.readings SplitState.firstRow as.tail
        = ((config.readings SplitState.firstRow as.tail).1, none) := Prod.ext rfl hnone
    rw [hall, hall]
    simp only [SplitState.sheets_close, SplitState.progress_close]
    exact SplitState.atEnd_prefix hrs bs

/-- A split that has started and comes to a faulty line is the split of the lines before it, up to
the fault that it reports. -/
theorem splitLines_of_fault {bad : Text} {before : List Text} {rs : List Reading} {e : LineFault}
    (header : Text)
    (hall : ∀ lines, splitLines config lines = (SplitState.atEnd config millis lines).close
      (config.readings SplitState.firstRow lines.tail).2)
    (hbefore : config.readings SplitState.firstRow before = (rs, none))
    (hbad : config.reading (SplitState.firstRow + before.length) bad = .error e) :
    splitLines config (header :: before)
        = (SplitState.atEnd config millis (header :: before)).finish
      ∧ ∀ later, splitLines config (header :: before ++ bad :: later)
        = (SplitState.atEnd config millis (header :: before)).abort e := by
  constructor
  · rw [hall, List.tail_cons, hbefore]
    rfl
  · intro later
    obtain ⟨hstate, hend⟩ := SplitState.atEnd_of_fault millis header hbefore hbad later
    rw [hall, hstate, hend]
    rfl

end

/-- **Nothing is taken back.**  The outputs and the announcements of a split with a result are a
beginning of those of every split that starts with the same lines.  And where a line ends a split,
the split leaves what the lines before it make, which by themselves have a result; its fault is the
one of that line, and the lines after it have no influence. -/
theorem splitLines_takes_nothing_back (config : SplitConfig) :
    (∀ as bs r, (splitLines config as).result = .ok r →
      (∀ p, (splitLines config as).sheets.text p <+: (splitLines config (as ++ bs)).sheets.text p)
        ∧ (splitLines config as).progress <+: (splitLines config (as ++ bs)).progress)
      ∧ ∀ lines e, lines.length < 2 ^ 63 → (splitLines config lines).result = .error (.line e) →
        ∃ before bad later, lines = before ++ bad :: later ∧ config.EndsAt before bad e
          ∧ (∃ r, (splitLines config before).result = .ok r)
          ∧ (∀ p, (splitLines config lines).sheets.text p
            = (splitLines config before).sheets.text p)
          ∧ (splitLines config lines).progress = (splitLines config before).progress
          ∧ ∀ later', splitLines config (before ++ bad :: later') = splitLines config lines := by
  refine ⟨fun as bs r h => splitLines_append h bs, ?_⟩
  intro lines e hlength h
  rcases splitLines_cases config with ⟨e₀, log, hnoLine, hall⟩ | ⟨millis, -, hall⟩
  · -- the split does not start, so it blames no line
    rw [hall] at h
    have heq : e₀ = .line e := by
      injection h
    exact absurd heq (hnoLine e)
  · have hfault : (config.readings SplitState.firstRow lines.tail).2 = some e := by
      rw [hall] at h
      exact SplitState.result_close_eq_line h
    cases lines with
    | nil => cases hfault
    | cons header rest =>
      have hrest : config.readings SplitState.firstRow rest
          = ((config.readings SplitState.firstRow rest).1, some e) := Prod.ext rfl hfault
      obtain ⟨before, bad, later, rfl, hbefore, hbad⟩ := SplitConfig.exists_of_readings_error hrest
      obtain ⟨hshort, hlong⟩ := splitLines_of_fault header hall hbefore hbad
      refine ⟨header :: before, bad, later, rfl, endsAt_of_reading hbefore hbad, ?_, ?_, ?_, ?_⟩
      · rw [hshort]
        refine exists_result ?_ hbefore
        simp only [List.length_cons, List.length_append] at hlength ⊢
        omega
      · intro p
        show (splitLines config (header :: before ++ bad :: later)).sheets.text p = _
        rw [hlong, hshort]
        exact congrArg (Sheets.text · p) SplitState.sheets_finish.symm
      · show (splitLines config (header :: before ++ bad :: later)).progress = _
        rw [hlong, hshort]
        exact SplitState.progress_finish.symm
      · intro later'
        show _ = splitLines config (header :: before ++ bad :: later)
        rw [hlong, hlong]

/-- The same choices, with no line passed over for a faulty field. -/
def haltingConfig : SplitConfig := { mixedConfig with skipInvalidFields := false }

/-- The fifth of these lines ends the split. -/
theorem splitLines_takes_nothing_back_mixedLines :
    (splitLines haltingConfig (mixedLines.take 4)).result = .ok ⟨⟨1, 1⟩, [3], [], some 5000, none⟩
      ∧ ((∀ p, (splitLines haltingConfig (mixedLines.take 4)).sheets.text p
          <+: (splitLines haltingConfig (mixedLines.take 4 ++ mixedLines.drop 4)).sheets.text p)
        ∧ (splitLines haltingConfig (mixedLines.take 4)).progress
          <+: (splitLines haltingConfig (mixedLines.take 4 ++ mixedLines.drop 4)).progress)
      ∧ mixedLines.length < 2 ^ 63
      ∧ (splitLines haltingConfig mixedLines).result
        = .error (.line (.invalidField ⟨5, .elapsed, some (Text.lit "1x")⟩))
      ∧ ∃ before bad later, mixedLines = before ++ bad :: later
        ∧ haltingConfig.EndsAt before bad (.invalidField ⟨5, .elapsed, some (Text.lit "1x")⟩)
        ∧ (∃ r, (splitLines haltingConfig before).result = .ok r)
        ∧ (∀ p, (splitLines haltingConfig mixedLines).sheets.text p
          = (splitLines haltingConfig before).sheets.text p)
        ∧ (splitLines haltingConfig mixedLines).progress
          = (splitLines haltingConfig before).progress
        ∧ ∀ later', splitLines haltingConfig (before ++ bad :: later')
          = splitLines haltingConfig mixedLines := by
  have hfirst : (splitLines haltingConfig (mixedLines.take 4)).result
      = .ok ⟨⟨1, 1⟩, [3], [], some 5000, none⟩ := by decide +kernel
  have hlast : (splitLines haltingConfig mixedLines).result
      = .error (.line (.invalidField ⟨5, .elapsed, some (Text.lit "1x")⟩)) := by decide +kernel
  have hlength : mixedLines.length < 2 ^ 63 := by decide
  obtain ⟨hbegin, hends⟩ := splitLines_takes_nothing_back haltingConfig
  exact ⟨hfirst, hbegin _ _ _ hfirst, hlength, hlast, hends _ _ hlength hlast⟩

end PhaseSplit
