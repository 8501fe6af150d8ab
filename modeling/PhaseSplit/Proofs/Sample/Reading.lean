import Mathlib.Tactic
import PhaseSplit.Proofs.Except
import PhaseSplit.Sample.Basic

/-!
# What a line is read as

The reading of a line as a sample, taken apart into its five fields.

* `readInt_eq_ok_iff`, `readBool_eq_ok_iff`: when a field has a value;
* `readSample_eq_ok_iff`: a line is a sample when its five fields have values;
* `readLine_eq_sample_iff`, `readLine_eq_tooManyColumns_iff`, `readLine_eq_error_iff`: what a line
  comes to;
* `lineNumber_of_readLine_invalid`, `readLine_eq_tooManyColumns`: a line that is no sample is
  reported under its own number;
* `readLine_renumber`: the number of a line has no part in whether it is a sample.
-/

namespace PhaseSplit

variable {f : Field} {n m : Int} {columns : List Text} {e : FieldFault} {limit : Int} {line : Text}
  {x : Sample}

/-! ## Fields -/

theorem readInt_eq_ok_iff {v : Int} :
    f.readInt n columns = .ok v
      ↔ ∃ numeral, (columns[f.index]?).bind Numeral.ofAscii? = some numeral
      ∧ numeral.digits.length ≤ maxDigits ∧ f.inRange numeral.value = true ∧ numeral.value = v := by
  unfold Field.readInt
  cases hv : (columns[f.index]?).bind Numeral.ofAscii? with
  | none => simp [hv]
  | some numeral =>
    by_cases hlong : maxDigits < numeral.digits.length
    · simp [hv, hlong]
    · by_cases hrange : f.inRange numeral.value = true
      · simp [hv, hlong, hrange, Nat.not_lt.1 hlong]
      · simp [hv, hlong, hrange]

theorem readBool_eq_ok_iff {b : Bool} :
    f.readBool n columns = .ok b ↔ (columns[f.index]?).bind Field.truth? = some b := by
  unfold Field.readBool
  cases hv : (columns[f.index]?).bind Field.truth? <;> simp [hv]

/-- A field that is refused is named with the line and with what stands there. -/
theorem eq_of_readInt_invalid (h : f.readInt n columns = .error (.invalidField e)) :
    e = ⟨n, f, columns[f.index]?⟩ := by
  unfold Field.readInt at h
  cases hv : (columns[f.index]?).bind Numeral.ofAscii? with
  | none => simpa [hv, eq_comm] using h
  | some numeral =>
    simp only [hv] at h
    split at h
    · cases h
    · split at h
      · cases h
      · simpa [eq_comm] using h

theorem eq_of_readBool_invalid (h : f.readBool n columns = .error (.invalidField e)) :
    e = ⟨n, f, columns[f.index]?⟩ := by
  unfold Field.readBool at h
  cases hv : (columns[f.index]?).bind Field.truth? with
  | none => simpa [hv, eq_comm] using h
  | some b => simp [hv] at h

/-- The number of a line has no part in the value of a field. -/
theorem readInt_renumber {v : Int} (m : Int) (h : f.readInt n columns = .ok v) :
    f.readInt m columns = .ok v :=
  readInt_eq_ok_iff.2 (readInt_eq_ok_iff.1 h)

theorem readBool_renumber {b : Bool} (m : Int) (h : f.readBool n columns = .ok b) :
    f.readBool m columns = .ok b :=
  readBool_eq_ok_iff.2 (readBool_eq_ok_iff.1 h)

/-! ## Samples -/

theorem readSample_eq_ok_iff :
    readSample line n columns = .ok x ↔ Field.timestamp.readInt n columns = .ok x.timestamp
      ∧ Field.elapsed.readInt n columns = .ok x.elapsed
      ∧ Field.success.readBool n columns = .ok x.success
      ∧ Field.received.readInt n columns = .ok x.received
      ∧ Field.sent.readInt n columns = .ok x.sent ∧ x.line = line ∧ x.lineNumber = n := by
  unfold readSample
  simp only [bind_eq_ok_iff]
  constructor
  · rintro ⟨timestamp, ht, elapsed, he, success, hs, received, hr, sent, hb, hx⟩
    cases hx
    exact ⟨ht, he, hs, hr, hb, rfl, rfl⟩
  · rintro ⟨ht, he, hs, hr, hb, rfl, rfl⟩
    exact ⟨_, ht, _, he, _, hs, _, hr, _, hb, rfl⟩

/-- A line that is refused for a field is reported under its own number. -/
theorem lineNumber_of_readSample_invalid
    (h : readSample line n columns = .error (.invalidField e)) : e.lineNumber = n := by
  unfold readSample at h
  simp only [bind_eq_error_iff] at h
  rcases h with h | ⟨_, -, h | ⟨_, -, h | ⟨_, -, h | ⟨_, -, h | ⟨_, -, h⟩⟩⟩⟩⟩
  · rw [eq_of_readInt_invalid h]
  · rw [eq_of_readInt_invalid h]
  · rw [eq_of_readBool_invalid h]
  · rw [eq_of_readInt_invalid h]
  · rw [eq_of_readInt_invalid h]
  · cases h

/-! ## Lines -/

theorem readLine_eq_sample_iff :
    readLine limit n line = .ok (.sample x)
      ↔ ∃ columns, splitColumns limit line = some columns ∧ readSample line n columns = .ok x := by
  unfold readLine
  cases splitColumns limit line with
  | none => simp
  | some columns => simp [map_eq_ok_iff]

/-- A line is too wide when it cannot be cut into columns, and is reported as it is. -/
theorem readLine_eq_tooManyColumns_iff {l : Text} :
    readLine limit n line = .ok (.tooManyColumns m l)
      ↔ splitColumns limit line = none ∧ m = n ∧ l = line := by
  unfold readLine
  cases splitColumns limit line with
  | none => simp [eq_comm]
  | some columns => simp [map_eq_ok_iff]

theorem readLine_eq_error_iff {e : LineFault} :
    readLine limit n line = .error e
      ↔ ∃ columns, splitColumns limit line = some columns
      ∧ readSample line n columns = .error e := by
  unfold readLine
  cases splitColumns limit line with
  | none => simp
  | some columns => simp [map_eq_error_iff]

/-- A sample keeps the line that it was read from and the number of that line. -/
theorem line_of_readLine_sample (h : readLine limit n line = .ok (.sample x)) :
    x.line = line ∧ x.lineNumber = n := by
  obtain ⟨columns, -, hx⟩ := readLine_eq_sample_iff.1 h
  obtain ⟨-, -, -, -, -, hline, hnumber⟩ := readSample_eq_ok_iff.1 hx
  exact ⟨hline, hnumber⟩

theorem readLine_eq_tooManyColumns {l : Text}
    (h : readLine limit n line = .ok (.tooManyColumns m l)) : m = n ∧ l = line :=
  (readLine_eq_tooManyColumns_iff.1 h).2

theorem lineNumber_of_readLine_invalid (h : readLine limit n line = .error (.invalidField e)) :
    e.lineNumber = n := by
  obtain ⟨columns, -, hsample⟩ := readLine_eq_error_iff.1 h
  exact lineNumber_of_readSample_invalid hsample

/-- **A line is a sample under every number.**  Only the number that the sample keeps changes. -/
theorem readLine_renumber (m : Int) (h : readLine limit n line = .ok (.sample x)) :
    readLine limit m line = .ok (.sample { x with lineNumber := m }) := by
  obtain ⟨columns, hcolumns, hx⟩ := readLine_eq_sample_iff.1 h
  obtain ⟨ht, he, hs, hr, hb, hline, -⟩ := readSample_eq_ok_iff.1 hx
  refine readLine_eq_sample_iff.2 ⟨columns, hcolumns, readSample_eq_ok_iff.2 ?_⟩
  exact ⟨readInt_renumber m ht, readInt_renumber m he, readBool_renumber m hs,
    readInt_renumber m hr, readInt_renumber m hb, hline, rfl⟩

end PhaseSplit
