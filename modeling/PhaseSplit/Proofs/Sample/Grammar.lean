import Mathlib.Tactic
import PhaseSplit.Proofs.Sample.Columns
import PhaseSplit.Proofs.Sample.Fields
import PhaseSplit.Proofs.Text.Lowercase
import PhaseSplit.Proofs.Text.Numeral

/-!
# The grammar of sample lines

What a line must be to hold a sample, said without the functions that read it: its columns are the
texts between its commas, four of them write integers within bounds and one names a truth value.

* `truth?_eq_some_iff`, `truth?_eq_lower`: the texts that name a truth value, in any case of their
  letters;
* `Sample.StandsIn`, `Field.InGrammar`: what the columns of a line hold, as a whole and one by one;
* `readSample_eq_ok_iff_standsIn`, `readSample_eq_error_iff_not_inGrammar`: when they are a sample,
  and which of them is at fault when they are none;
* `readLine_grammar`: what every line holds.
-/

namespace PhaseSplit

/-! ## Truth values -/

section

variable {t : Text} {b : Bool}

/-- The name of a truth value. -/
def truthWord (b : Bool) : List Char := if b then "true".toList else "false".toList

/-- **The texts that name a truth value.** -/
theorem truth?_eq_some_iff : Field.truth? t = some b ↔ t.Spells (truthWord b) := by
  have hletters : ∀ b, ∀ c ∈ truthWord b, 97 ≤ c.toNat ∧ c.toNat ≤ 122 := by
    intro b
    cases b <;> simp [truthWord]
  have hspells : ∀ b, t.Spells (truthWord b) ↔ t.asciiLower = Text.ofChars (truthWord b) :=
    fun b => (Text.asciiLower_eq_ofChars_iff (hletters b)).symm
  have hdiffer : Text.ofChars (truthWord true) ≠ Text.ofChars (truthWord false) := by decide
  rw [hspells]
  unfold Field.truth?
  show (if t.asciiLower = Text.ofChars (truthWord true) then some true
    else if t.asciiLower = Text.ofChars (truthWord false) then some false else none) = some b ↔ _
  split
  · next htrue => cases b <;> simp [htrue, hdiffer]
  · next htrue =>
    split
    · next hfalse => cases b <;> simp [hfalse, hdiffer.symm]
    · next hfalse => cases b <;> simp [htrue, hfalse]

/-- No letter of another alphabet stands in the name of a truth value. -/
theorem truth?_eq_lower :
    Field.truth? t = if t.lower = Text.lit "true" then some true
      else if t.lower = Text.lit "false" then some false else none := by
  have htrue : t.lower = Text.lit "true" ↔ t.asciiLower = Text.lit "true" :=
    Text.lower_eq_ofChars_iff (by decide)
  have hfalse : t.lower = Text.lit "false" ↔ t.asciiLower = Text.lit "false" :=
    Text.lower_eq_ofChars_iff (by decide)
  unfold Field.truth?
  simp only [htrue, hfalse]

end

/-! ## Columns -/

/-- Column `i` holds an integer of so many binary digits, the sign included. -/
def HoldsInteger (columns : List Text) (i bits : Nat) (v : Int) : Prop :=
  ∃ t, columns[i]? = some t ∧ t.WritesInteger v ∧ -2 ^ (bits - 1) ≤ v ∧ v < 2 ^ (bits - 1)

/-- Column `i` names a truth value. -/
def HoldsTruth (columns : List Text) (i : Nat) (b : Bool) : Prop :=
  ∃ t, columns[i]? = some t ∧ t.Spells (truthWord b)

/-- The values of a sample are those that the columns hold. -/
structure Sample.StandsIn (x : Sample) (columns : List Text) : Prop where
  timestamp : HoldsInteger columns 0 64 x.timestamp
  elapsed : HoldsInteger columns 1 32 x.elapsed
  success : HoldsTruth columns 7 x.success
  received : HoldsInteger columns 9 32 x.received
  sent : HoldsInteger columns 10 32 x.sent

/-- A field whose column is there and holds what it should. -/
def Field.InGrammar (columns : List Text) : Field → Prop
  | timestamp => ∃ v, HoldsInteger columns 0 64 v
  | elapsed => ∃ v, HoldsInteger columns 1 32 v
  | success => ∃ b, HoldsTruth columns 7 b
  | received => ∃ v, HoldsInteger columns 9 32 v
  | sent => ∃ v, HoldsInteger columns 10 32 v

/-- No column of an integer has more digits than are converted. -/
def Convertible (columns : List Text) : Prop :=
  ∀ i ∈ [0, 1, 9, 10], ∀ t ∈ columns[i]?, t.digitCount ≤ maxDigits

instance (columns : List Text) : Decidable (Convertible columns) :=
  inferInstanceAs (Decidable (∀ i ∈ [0, 1, 9, 10], ∀ t ∈ columns[i]?, t.digitCount ≤ maxDigits))

section

variable {columns : List Text} {f : Field} {n v : Int} {b : Bool} {x : Sample} {line : Text}

theorem Field.inRange_iff : f.inRange v = true ↔ -2 ^ (f.bits - 1) ≤ v ∧ v < 2 ^ (f.bits - 1) := by
  rw [inRange, Bool.and_eq_true, decide_eq_true_eq, decide_eq_true_eq]
  rfl

theorem Convertible.digitCount_le (h : Convertible columns) (hf : f ≠ .success) {t : Text}
    (ht : columns[f.index]? = some t) : t.digitCount ≤ maxDigits := by
  refine h f.index ?_ t ht
  cases f with
  | success => exact absurd rfl hf
  | _ => decide

theorem Convertible.not_overlong (h : Convertible columns) (count : Nat) :
    ¬f.Overlong columns count := by
  rintro ⟨hf, hlong, numeral, hnumeral, rfl⟩
  obtain ⟨t, ht, hascii⟩ := Option.bind_eq_some_iff.1 hnumeral
  have hshort := h.digitCount_le hf ht
  rw [length_of_ofAscii? hascii] at hlong
  omega

theorem readInt_eq_ok_iff_holdsInteger (hf : f ≠ .success) (h : Convertible columns) :
    f.readInt n columns = .ok v ↔ HoldsInteger columns f.index f.bits v := by
  rw [readInt_eq_ok_iff]
  unfold HoldsInteger
  simp only [Field.inRange_iff, ← exists_ofAscii?_iff]
  constructor
  · rintro ⟨numeral, hnumeral, -, hrange, rfl⟩
    obtain ⟨t, ht, hascii⟩ := Option.bind_eq_some_iff.1 hnumeral
    exact ⟨t, ht, ⟨numeral, hascii, rfl⟩, hrange⟩
  · rintro ⟨t, ht, ⟨numeral, hascii, rfl⟩, hrange⟩
    have hshort := h.digitCount_le hf ht
    rw [← length_of_ofAscii? hascii] at hshort
    exact ⟨numeral, Option.bind_eq_some_iff.2 ⟨t, ht, hascii⟩, hshort, hrange, rfl⟩

theorem readBool_eq_ok_iff_holdsTruth :
    Field.success.readBool n columns = .ok b ↔ HoldsTruth columns 7 b := by
  rw [readBool_eq_ok_iff, Option.bind_eq_some_iff]
  simp only [truth?_eq_some_iff]
  rfl

/-- The values of a line are those that its columns hold. -/
theorem readSample_eq_ok_iff_standsIn (h : Convertible columns) :
    readSample line n columns = .ok x
      ↔ x.StandsIn columns ∧ x.line = line ∧ x.lineNumber = n := by
  rw [readSample_eq_ok_iff]
  simp only [readInt_eq_ok_iff_holdsInteger (f := .timestamp) (by decide) h,
    readInt_eq_ok_iff_holdsInteger (f := .elapsed) (by decide) h,
    readInt_eq_ok_iff_holdsInteger (f := .received) (by decide) h,
    readInt_eq_ok_iff_holdsInteger (f := .sent) (by decide) h, readBool_eq_ok_iff_holdsTruth]
  constructor
  · rintro ⟨ht, he, hs, hr, hb, hrest⟩
    exact ⟨⟨ht, he, hs, hr, hb⟩, hrest⟩
  · rintro ⟨⟨ht, he, hs, hr, hb⟩, hrest⟩
    exact ⟨ht, he, hs, hr, hb, hrest⟩

/-- A field can be read when it holds what it should. -/
theorem readable_iff_inGrammar (h : Convertible columns) :
    f.Readable columns ↔ f.InGrammar columns := by
  cases f with
  | success =>
    rw [← Field.exists_readBool_iff (n := 0)]
    exact exists_congr fun _ => readBool_eq_ok_iff_holdsTruth
  | _ =>
    rw [← Field.exists_readInt_iff (n := 0) (by decide)]
    exact exists_congr fun _ => readInt_eq_ok_iff_holdsInteger (by decide) h

/-- A line is refused for the first of its fields that does not hold what it should. -/
theorem readSample_eq_error_iff_not_inGrammar {e : LineFault} (h : Convertible columns) :
    readSample line n columns = .error e
      ↔ ∃ f : Field, ¬f.InGrammar columns
      ∧ (∀ g : Field, g.index < f.index → g.InGrammar columns)
      ∧ e = .invalidField ⟨n, f, columns[f.index]?⟩ := by
  have hrefuses : ∀ f : Field, f.Refuses n columns e
      ↔ ¬f.InGrammar columns ∧ e = .invalidField ⟨n, f, columns[f.index]?⟩ := by
    intro f
    unfold Field.Refuses
    rw [← readable_iff_inGrammar h]
    unfold Field.Readable
    simp [h.not_overlong]
  rw [readSample_eq_error_iff]
  simp only [hrefuses, readable_iff_inGrammar h]
  constructor
  · rintro ⟨f, ⟨hf, he⟩, hbefore⟩
    exact ⟨f, hf, hbefore, he⟩
  · rintro ⟨f, hf, hbefore, he⟩
    exact ⟨f, ⟨hf, he⟩, hbefore⟩

theorem exists_standsIn_iff :
    (∃ x : Sample, x.StandsIn columns ∧ x.line = line ∧ x.lineNumber = n)
      ↔ ∀ f : Field, f.InGrammar columns := by
  rw [Field.forall_iff]
  constructor
  · rintro ⟨x, hx, -⟩
    exact ⟨⟨_, hx.timestamp⟩, ⟨_, hx.elapsed⟩, ⟨_, hx.success⟩, ⟨_, hx.received⟩, ⟨_, hx.sent⟩⟩
  · rintro ⟨⟨timestamp, ht⟩, ⟨elapsed, he⟩, ⟨success, hs⟩, ⟨received, hr⟩, ⟨sent, hb⟩⟩
    exact ⟨⟨timestamp, elapsed, success, received, sent, line, n⟩, ⟨ht, he, hs, hr, hb⟩, rfl, rfl⟩

end

/-! ## Lines -/

/-- **What a line holds.**  As many commas as there may be columns are too many, whatever stands
between them.  With fewer, the line is a sample exactly when its five fields are in the grammar; the
sample has their values, the line and its number.  Else the first field that is not in the grammar
is reported with what stands in its place, the seventh column after the first as no boolean and
the others as no integers. -/
theorem readLine_grammar {limit : Int} (hlimit : 1 ≤ limit) (n : Int) (line : Text) :
    (readLine limit n line = .ok (.tooManyColumns n line) ↔ limit ≤ line.count comma)
      ∧ (line.count comma < limit → Convertible (Text.splitAt comma line) →
        (∀ x, readLine limit n line = .ok (.sample x)
          ↔ x.StandsIn (Text.splitAt comma line) ∧ x.line = line ∧ x.lineNumber = n)
        ∧ ((∃ x, readLine limit n line = .ok (.sample x))
          ↔ ∀ f : Field, f.InGrammar (Text.splitAt comma line))
        ∧ (∀ e, readLine limit n line = .error e
          ↔ ∃ f : Field, ¬f.InGrammar (Text.splitAt comma line)
          ∧ (∀ g : Field, g.index < f.index → g.InGrammar (Text.splitAt comma line))
          ∧ e = .invalidField ⟨n, f, (Text.splitAt comma line)[f.index]?⟩
          ∧ f.expected = if f.index = 7 then Text.lit "boolean" else Text.lit "integer")) := by
  refine ⟨?_, ?_⟩
  · rw [← splitColumns_eq_none_iff hlimit, ← exists_tooManyColumns_iff (n := n)]
    constructor
    · intro h
      exact ⟨_, _, h⟩
    · rintro ⟨m, l, h⟩
      obtain ⟨rfl, rfl⟩ := readLine_eq_tooManyColumns h
      exact h
  · intro hfew hconvertible
    have hcut := splitColumns_of_lt hfew
    have hsample : ∀ x, readLine limit n line = .ok (.sample x)
        ↔ x.StandsIn (Text.splitAt comma line) ∧ x.line = line ∧ x.lineNumber = n := by
      intro x
      rw [readLine_eq_sample_iff, hcut, ← readSample_eq_ok_iff_standsIn hconvertible]
      simp
    refine ⟨hsample, ?_, ?_⟩
    · simp only [hsample]
      exact exists_standsIn_iff
    · intro e
      have hexpected : ∀ f : Field,
          f.expected = if f.index = 7 then Text.lit "boolean" else Text.lit "integer" := by
        rintro (_ | _ | _ | _ | _) <;> rfl
      rw [readLine_eq_error_iff, hcut]
      simp only [Option.some.injEq, exists_eq_left',
        readSample_eq_error_iff_not_inGrammar hconvertible, hexpected, and_true]

/-- A line with a plus sign and a truth value in capitals. -/
def loudLine : Text := Text.lit "1500000000000,+123,a,b,c,d,e,TRUE,f,2048,-512"

/-- A line that ends after its second column. -/
def briefLine : Text := Text.lit "1000,50"

/-- Both lines, and the first again where ten columns are the limit. -/
theorem readLine_grammar_lines :
    (Sample.mk 1500000000000 123 true 2048 (-512) loudLine 2).StandsIn (Text.splitAt comma loudLine)
      ∧ ¬Field.success.InGrammar (Text.splitAt comma briefLine)
      ∧ readLine 10 2 loudLine = .ok (.tooManyColumns 2 loudLine) := by
  have hlimit : (1 : Int) ≤ 16 := by decide
  refine ⟨?_, ?_, ?_⟩
  · have hread : readLine 16 2 loudLine
        = .ok (.sample ⟨1500000000000, 123, true, 2048, -512, loudLine, 2⟩) := by decide +kernel
    have hline := (readLine_grammar hlimit 2 loudLine).2 (by decide +kernel) (by decide +kernel)
    exact ((hline.1 _).1 hread).1
  · have hread : readLine 16 2 briefLine = .error (.invalidField ⟨2, .success, none⟩) := by
      decide +kernel
    have hline := (readLine_grammar hlimit 2 briefLine).2 (by decide +kernel) (by decide +kernel)
    obtain ⟨f, hf, -, he, -⟩ := (hline.2.2 _).1 hread
    cases he
    exact hf
  · exact (readLine_grammar (by decide) 2 loudLine).1.2 (by decide +kernel)

end PhaseSplit
