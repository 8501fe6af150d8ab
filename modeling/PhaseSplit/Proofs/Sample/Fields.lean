import Mathlib.Tactic
import PhaseSplit.Proofs.Sample.Reading

/-!
# Why a line is no sample

What a field should hold is one thing, and what can be read is another: a numeral with too many
digits is not read, whatever its value.  A line is refused for the first of its fields that cannot
be read.

* `Field.WellFormed` is what a field should hold, `Field.Overlong` what stops the reading;
* `readInt_eq_error_iff`, `readBool_eq_error_iff`: the fault of one field;
* `exists_first_iff`: the first of the fields to have a property;
* `readSample_eq_error_iff`: the fault of a line is that of its first unreadable field;
* `BreaksOff`, `Malformed`: the two ways in which a line is no sample;
* `exists_tooManyDigits_iff`, `readLine_eq_invalidField_iff`, `exists_invalidField_iff`: how each of
  them is reported.
-/

namespace PhaseSplit

namespace Field

/-- Whether a text is what a field should hold: an integer in its range, or a truth value. -/
def Accepts (t : Text) : Field → Prop
  | success => t.asciiLower = Text.lit "true" ∨ t.asciiLower = Text.lit "false"
  | f => ∃ numeral, Numeral.ofAscii? t = some numeral ∧ f.inRange numeral.value = true

/-- A field that is there and holds what it should. -/
def WellFormed (f : Field) (columns : List Text) : Prop :=
  ∃ t, columns[f.index]? = some t ∧ f.Accepts t

/-- A field that is read as an integer and holds a numeral of `count` digits, which are too many. -/
def Overlong (f : Field) (columns : List Text) (count : Nat) : Prop :=
  f ≠ success ∧ maxDigits < count ∧ ∃ numeral,
    (columns[f.index]?).bind Numeral.ofAscii? = some numeral ∧ numeral.digits.length = count

/-- A field that has a value. -/
def Readable (f : Field) (columns : List Text) : Prop :=
  f.WellFormed columns ∧ ∀ count, ¬f.Overlong columns count

/-- The fault of a field in line `n`: too many digits, or else something that it should not hold. -/
def Refuses (f : Field) (n : Int) (columns : List Text) (e : LineFault) : Prop :=
  (∃ count, f.Overlong columns count ∧ e = .tooManyDigits count)
    ∨ ¬f.WellFormed columns ∧ (∀ count, ¬f.Overlong columns count)
      ∧ e = .invalidField ⟨n, f, columns[f.index]?⟩

variable {f : Field} {n : Int} {columns : List Text} {e : LineFault}

/-! ## One field -/

theorem wellFormed_iff_of_ne_success (hf : f ≠ success) :
    f.WellFormed columns
      ↔ ∃ numeral, (columns[f.index]?).bind Numeral.ofAscii? = some numeral
      ∧ f.inRange numeral.value = true := by
  unfold WellFormed
  cases columns[f.index]? with
  | none => simp
  | some t =>
    cases f with
    | success => exact absurd rfl hf
    | _ => simp [Accepts]

theorem wellFormed_success_iff :
    success.WellFormed columns ↔ ∃ b, (columns[success.index]?).bind truth? = some b := by
  unfold WellFormed
  cases columns[success.index]? with
  | none => simp
  | some t =>
    by_cases htrue : t.asciiLower = Text.lit "true"
    · simp [Accepts, truth?, htrue]
    · by_cases hfalse : t.asciiLower = Text.lit "false"
      · simp only [Option.some.injEq, exists_eq_left', Option.bind_some, Accepts, truth?]
        rw [if_neg htrue, if_pos hfalse]
        exact ⟨fun _ => ⟨false, rfl⟩, fun _ => .inr hfalse⟩
      · simp [Accepts, truth?, htrue, hfalse]

/-- A truth value never has too many digits. -/
theorem not_overlong_success (count : Nat) : ¬success.Overlong columns count :=
  fun h => h.1 rfl

theorem exists_readInt_iff (hf : f ≠ success) :
    (∃ v, f.readInt n columns = .ok v) ↔ f.Readable columns := by
  simp only [readInt_eq_ok_iff]
  unfold Readable
  rw [wellFormed_iff_of_ne_success hf]
  constructor
  · rintro ⟨v, numeral, hnumeral, hshort, hrange, -⟩
    refine ⟨⟨numeral, hnumeral, hrange⟩, ?_⟩
    rintro count ⟨-, hlong, other, hother, rfl⟩
    obtain rfl : numeral = other := Option.some.inj (hnumeral.symm.trans hother)
    omega
  · rintro ⟨⟨numeral, hnumeral, hrange⟩, hshort⟩
    refine ⟨_, numeral, hnumeral, ?_, hrange, rfl⟩
    by_contra hlong
    exact hshort _ ⟨hf, Nat.lt_of_not_le hlong, numeral, hnumeral, rfl⟩

theorem exists_readBool_iff :
    (∃ b, success.readBool n columns = .ok b) ↔ success.Readable columns := by
  simp only [readBool_eq_ok_iff]
  rw [← wellFormed_success_iff]
  exact (and_iff_left not_overlong_success).symm

/-- **The fault of an integer.**  The number of digits is looked at before the range. -/
theorem readInt_eq_error_iff (hf : f ≠ success) :
    f.readInt n columns = .error e ↔ f.Refuses n columns e := by
  unfold Refuses
  rw [wellFormed_iff_of_ne_success hf]
  unfold Overlong readInt
  cases hv : (columns[f.index]?).bind Numeral.ofAscii? with
  | none =>
    simp only [hv]
    constructor
    · rintro ⟨⟩
      exact .inr ⟨by simp, by simp, rfl⟩
    · rintro (⟨_, ⟨-, -, _, ⟨⟩, -⟩, -⟩ | ⟨-, -, rfl⟩)
      rfl
  | some numeral =>
    by_cases hlong : maxDigits < numeral.digits.length
    · simp only [hv, if_pos hlong]
      constructor
      · rintro ⟨⟩
        exact .inl ⟨_, ⟨hf, hlong, numeral, rfl, rfl⟩, rfl⟩
      · rintro (⟨_, ⟨-, -, _, ⟨⟩, rfl⟩, rfl⟩ | ⟨-, hshort, -⟩)
        · rfl
        · exact absurd ⟨hf, hlong, numeral, rfl, rfl⟩ (hshort _)
    · have hshort : ∀ count, ¬(f ≠ success ∧ maxDigits < count ∧ ∃ other,
          some numeral = some other ∧ other.digits.length = count) := by
        rintro _ ⟨-, hcount, _, ⟨⟩, rfl⟩
        exact hlong hcount
      simp only [hv, if_neg hlong]
      by_cases hrange : f.inRange numeral.value = true
      · rw [if_pos hrange]
        constructor
        · rintro ⟨⟩
        · rintro (⟨count, hcount, -⟩ | ⟨hmalformed, -, -⟩)
          · exact absurd hcount (hshort count)
          · exact absurd ⟨numeral, rfl, hrange⟩ hmalformed
      · rw [if_neg hrange]
        constructor
        · rintro ⟨⟩
          refine .inr ⟨?_, hshort, rfl⟩
          rintro ⟨_, ⟨⟩, h⟩
          exact hrange h
        · rintro (⟨count, hcount, -⟩ | ⟨-, -, rfl⟩)
          · exact absurd hcount (hshort count)
          · rfl

theorem readBool_eq_error_iff :
    success.readBool n columns = .error e ↔ success.Refuses n columns e := by
  unfold Refuses
  rw [wellFormed_success_iff]
  simp only [not_overlong_success]
  unfold readBool
  cases hv : (columns[success.index]?).bind truth? with
  | none => simp [hv, eq_comm]
  | some b => simp [hv]

/-! ## The first field -/

theorem forall_iff {P : Field → Prop} :
    (∀ f, P f) ↔ P timestamp ∧ P elapsed ∧ P success ∧ P received ∧ P sent := by
  constructor
  · intro h
    exact ⟨h _, h _, h _, h _, h _⟩
  · rintro ⟨ht, he, hs, hr, hb⟩ (_ | _ | _ | _ | _)
    · exact ht
    · exact he
    · exact hs
    · exact hr
    · exact hb

theorem exists_iff {P : Field → Prop} :
    (∃ f, P f) ↔ P timestamp ∨ P elapsed ∨ P success ∨ P received ∨ P sent := by
  rw [← not_forall_not, forall_iff]
  tauto

/-- The first field to have a property is found by going through the columns in their order. -/
theorem exists_first_iff {P R : Field → Prop} :
    (∃ f : Field, P f ∧ ∀ g : Field, g.index < f.index → R g)
      ↔ P timestamp ∨ R timestamp ∧ (P elapsed ∨ R elapsed ∧ (P success ∨ R success
        ∧ (P received ∨ R received ∧ P sent))) := by
  simp only [exists_iff, forall_iff, index, Nat.reduceLT, forall_const, and_true, false_imp_iff]
  tauto

end Field

/-! ## Samples -/

variable {n : Int} {line : Text} {columns : List Text} {e : LineFault} {limit : Int}

/-- **A line is refused for its first field that cannot be read.** -/
theorem readSample_eq_error_iff :
    readSample line n columns = .error e
      ↔ ∃ f : Field, f.Refuses n columns e
        ∧ ∀ g : Field, g.index < f.index → g.Readable columns := by
  have hpure : ∀ x : Sample, (pure x : Except LineFault Sample) ≠ .error e := by
    rintro x ⟨⟩
  unfold readSample
  -- what a later field holds does not hang on the value of an earlier one
  simp only [bind_eq_error_iff, exists_and_right, hpure, exists_false, and_false, or_false]
  rw [Field.exists_first_iff]
  simp (disch := decide) only [Field.readInt_eq_error_iff, Field.exists_readInt_iff,
    Field.readBool_eq_error_iff, Field.exists_readBool_iff]

/-! ## Lines -/

/-- A line whose reading breaks off: its first field that cannot be read has too many digits. -/
def BreaksOff (limit : Int) (line : Text) : Prop :=
  ∃ columns, splitColumns limit line = some columns ∧ ∃ (f : Field) (count : Nat),
    f.Overlong columns count ∧ ∀ g : Field, g.index < f.index → g.Readable columns

/-- A line with a field that is missing or does not hold what it should. -/
def Malformed (limit : Int) (line : Text) : Prop :=
  ∃ columns, splitColumns limit line = some columns ∧ ∃ f : Field, ¬f.WellFormed columns

theorem exists_tooManyColumns_iff :
    (∃ m l, readLine limit n line = .ok (.tooManyColumns m l))
      ↔ splitColumns limit line = none := by
  simp [readLine_eq_tooManyColumns_iff]

/-- **Too many digits** stop the reading of a line, and nothing else does in this way. -/
theorem exists_tooManyDigits_iff :
    (∃ count, readLine limit n line = .error (.tooManyDigits count)) ↔ BreaksOff limit line := by
  unfold BreaksOff
  simp only [readLine_eq_error_iff, readSample_eq_error_iff]
  constructor
  · rintro ⟨count, columns, hcolumns, f, h | ⟨-, -, ⟨⟩⟩, hbefore⟩
    obtain ⟨count, hlong, -⟩ := h
    exact ⟨columns, hcolumns, f, count, hlong, hbefore⟩
  · rintro ⟨columns, hcolumns, f, count, hlong, hbefore⟩
    exact ⟨count, columns, hcolumns, f, .inl ⟨count, hlong, rfl⟩, hbefore⟩

/-- The first field that does not hold what it should. -/
def Field.FirstMalformed (f : Field) (columns : List Text) : Prop :=
  ¬f.WellFormed columns ∧ ∀ g : Field, g.index < f.index → g.WellFormed columns

/-- Where reading does not break off, fields that hold what they should are read. -/
theorem readable_of_wellFormed (h : ¬BreaksOff limit line)
    (hcut : splitColumns limit line = some columns) {f : Field}
    (hbefore : ∀ g : Field, g.index < f.index → g.WellFormed columns) :
    (∀ g : Field, g.index < f.index → g.Readable columns)
      ∧ ∀ count, ¬f.Overlong columns count := by
  induction hi : f.index using Nat.strongRecOn generalizing f with
  | ind i ih =>
    subst hi
    have hread : ∀ g : Field, g.index < f.index → g.Readable columns := by
      intro g hg
      obtain ⟨-, hshort⟩ := ih g.index hg (fun k hk => hbefore k (hk.trans hg)) rfl
      exact ⟨hbefore g hg, hshort⟩
    exact ⟨hread, fun count hlong => h ⟨columns, hcut, f, count, hlong, hread⟩⟩

/-- **The first field that does not hold what it should is reported**, with what stands there,
unless reading breaks off. -/
theorem readLine_eq_invalidField_iff {e : FieldFault} (h : ¬BreaksOff limit line) :
    readLine limit n line = .error (.invalidField e)
      ↔ ∃ columns, splitColumns limit line = some columns
      ∧ ∃ f : Field, f.FirstMalformed columns ∧ e = ⟨n, f, columns[f.index]?⟩ := by
  simp only [readLine_eq_error_iff, readSample_eq_error_iff]
  constructor
  · rintro ⟨columns, hcut, f, ⟨_, -, ⟨⟩⟩ | ⟨hf, -, he⟩, hbefore⟩
    cases he
    exact ⟨columns, hcut, f, ⟨hf, fun g hg => (hbefore g hg).1⟩, rfl⟩
  · rintro ⟨columns, hcut, f, ⟨hf, hbefore⟩, rfl⟩
    obtain ⟨hread, hshort⟩ := readable_of_wellFormed h hcut hbefore
    exact ⟨columns, hcut, f, .inr ⟨hf, hshort, rfl⟩, hread⟩

/-- **A malformed line is reported as such**, unless its reading breaks off before. -/
theorem exists_invalidField_iff (h : ¬BreaksOff limit line) :
    (∃ e, readLine limit n line = .error (.invalidField e)) ↔ Malformed limit line := by
  unfold Malformed
  simp only [readLine_eq_invalidField_iff h]
  constructor
  · rintro ⟨_, columns, hcut, f, ⟨hf, -⟩, -⟩
    exact ⟨columns, hcut, f, hf⟩
  · rintro ⟨columns, hcut, g, hg⟩
    obtain ⟨f, hf, hfirst⟩ := (measure Field.index).wf.has_min {f : Field | ¬f.WellFormed columns}
      ⟨g, hg⟩
    refine ⟨_, columns, hcut, f, ⟨hf, ?_⟩, rfl⟩
    intro k hk
    by_contra hmalformed
    exact hfirst k hmalformed hk

end PhaseSplit
