import Mathlib.Tactic
import PhaseSplit.Text.Integer

/-!
# Numerals of ASCII digits

The strict reading of an integer takes a sign, or none, and digits of ASCII, and nothing else.

* `Text.WritesInteger`: the texts that write an integer, without the function that reads them;
* `ofAscii?_eq_some_iff`: when a text is read, with its sign and its digits;
* `exists_ofAscii?_iff`, `length_of_ofAscii?`: which integer is read, and how many digits it has.
-/

namespace PhaseSplit

/-- The integers that texts write: digits of ASCII, at least one, after a sign or none. -/
inductive Text.WritesInteger : Text → Int → Prop
  | unsigned {cs : List Char} (hne : cs ≠ []) (hdigits : ∀ c ∈ cs, c.isDigit = true) :
      WritesInteger (ofChars cs) (Nat.ofDigitChars 10 cs 0)
  | plus {cs : List Char} (hne : cs ≠ []) (hdigits : ∀ c ∈ cs, c.isDigit = true) :
      WritesInteger (.char '+' :: ofChars cs) (Nat.ofDigitChars 10 cs 0)
  | minus {cs : List Char} (hne : cs ≠ []) (hdigits : ∀ c ∈ cs, c.isDigit = true) :
      WritesInteger (.char '-' :: ofChars cs) (-(Nat.ofDigitChars 10 cs 0))

/-- The number of ASCII digits in a text. -/
def Text.digitCount (t : Text) : Nat := t.countP fun g => g.asciiDigit?.isSome

variable {t : Text} {digits : List Nat} {cs : List Char} {c : Char} {v : Int} {numeral : Numeral}

/-! ## Digits -/

theorem asciiDigit?_of_isDigit (h : c.isDigit = true) :
    (Glyph.char c).asciiDigit? = some (c.toNat - 48) := if_pos h

theorem mapM_cons_eq_some_iff {α β : Type} {f : α → Option β} {a : α} {l : List α} {bs : List β} :
    (a :: l).mapM f = some bs ↔ ∃ b rest, f a = some b ∧ l.mapM f = some rest ∧ bs = b :: rest := by
  cases ha : f a with
  | none => simp [ha]
  | some b =>
    cases hl : l.mapM f with
    | none => simp [ha, hl]
    | some rest => simp [ha, hl, eq_comm]

/-- The texts whose glyphs are all digits. -/
theorem mapM_asciiDigit?_eq_some_iff :
    t.mapM Glyph.asciiDigit? = some digits
      ↔ ∃ cs, t = Text.ofChars cs ∧ (∀ c ∈ cs, c.isDigit = true)
      ∧ digits = cs.map fun c => c.toNat - 48 := by
  constructor
  · intro h
    induction t generalizing digits with
    | nil =>
      cases h
      exact ⟨[], rfl, by simp, rfl⟩
    | cons g t ih =>
      obtain ⟨d, ds, hd, hds, rfl⟩ := mapM_cons_eq_some_iff.1 h
      obtain ⟨cs, rfl, hdigits, rfl⟩ := ih hds
      unfold Glyph.asciiDigit? at hd
      split at hd
      · next c =>
        split at hd <;> cases hd
        next hc => exact ⟨c :: cs, rfl, List.forall_mem_cons.2 ⟨hc, hdigits⟩, rfl⟩
      · cases hd
  · rintro ⟨cs, rfl, hdigits, rfl⟩
    induction cs with
    | nil => rfl
    | cons c cs ih =>
      obtain ⟨hc, hcs⟩ := List.forall_mem_cons.1 hdigits
      have hcons : Text.ofChars (c :: cs) = .char c :: Text.ofChars cs := rfl
      rw [hcons, List.mapM_cons, asciiDigit?_of_isDigit hc, ih hcs]
      rfl

theorem digitsValue_map (cs : List Char) :
    digitsValue (cs.map fun c => c.toNat - 48) = Nat.ofDigitChars 10 cs 0 := by
  rw [digitsValue, List.foldl_map]
  rfl

theorem digitCount_ofChars (h : ∀ c ∈ cs, c.isDigit = true) :
    (Text.ofChars cs).digitCount = cs.length := by
  unfold Text.digitCount Text.ofChars
  rw [List.countP_map, List.countP_eq_length]
  intro c hc
  rw [Function.comp_apply, asciiDigit?_of_isDigit (h c hc)]
  rfl

/-! ## Numerals -/

theorem splitSign_ofChars (h : ∀ c ∈ cs, c.isDigit = true) :
    Numeral.splitSign (Text.ofChars cs) = (false, Text.ofChars cs) := by
  cases cs with
  | nil => rfl
  | cons c cs =>
    have hc : c.isDigit = true := h c List.mem_cons_self
    unfold Numeral.splitSign
    split
    · next heq =>
      cases heq
      cases hc
    · next heq =>
      cases heq
      cases hc
    · rfl

/-- A numeral is read from its digits when nothing else follows the sign. -/
theorem ofAscii?_eq_some_iff :
    Numeral.ofAscii? t = some numeral
      ↔ ∃ cs : List Char, cs ≠ [] ∧ (∀ c ∈ cs, c.isDigit = true)
      ∧ Numeral.splitSign t = (numeral.negative, Text.ofChars cs)
      ∧ numeral.digits = cs.map fun c => c.toNat - 48 := by
  unfold Numeral.ofAscii?
  rcases Numeral.splitSign t with ⟨negative, body⟩
  dsimp only
  constructor
  · intro h
    split at h
    · next d ds hbody =>
      obtain ⟨cs, rfl, hdigits, hds⟩ := mapM_asciiDigit?_eq_some_iff.1 hbody
      cases h
      refine ⟨cs, ?_, hdigits, rfl, hds⟩
      rintro rfl
      cases hds
    · cases h
  · rintro ⟨cs, hne, hdigits, hsign, hds⟩
    cases hsign
    rw [mapM_asciiDigit?_eq_some_iff.2 ⟨cs, rfl, hdigits, rfl⟩]
    obtain ⟨c, cs, rfl⟩ := List.exists_cons_of_ne_nil hne
    cases numeral
    cases hds
    rfl

theorem Numeral.value_of_digits (hds : numeral.digits = cs.map fun c => c.toNat - 48) :
    numeral.value = if numeral.negative then -(Nat.ofDigitChars 10 cs 0 : Int)
      else Nat.ofDigitChars 10 cs 0 := by
  rw [value, hds, digitsValue_map]

theorem exists_of_writesInteger (h : t.WritesInteger v) :
    ∃ numeral, Numeral.ofAscii? t = some numeral ∧ numeral.value = v := by
  cases h with
  | @unsigned cs hne hdigits =>
    refine ⟨⟨false, _⟩, ofAscii?_eq_some_iff.2 ⟨cs, hne, hdigits, ?_, rfl⟩, ?_⟩
    · exact splitSign_ofChars hdigits
    · exact Numeral.value_of_digits rfl
  | @plus cs hne hdigits =>
    refine ⟨⟨false, _⟩, ofAscii?_eq_some_iff.2 ⟨cs, hne, hdigits, rfl, rfl⟩, ?_⟩
    exact Numeral.value_of_digits rfl
  | @minus cs hne hdigits =>
    refine ⟨⟨true, _⟩, ofAscii?_eq_some_iff.2 ⟨cs, hne, hdigits, rfl, rfl⟩, ?_⟩
    exact Numeral.value_of_digits rfl

/-- **The texts that write an integer** are those from which a numeral is read. -/
theorem exists_ofAscii?_iff :
    (∃ numeral, Numeral.ofAscii? t = some numeral ∧ numeral.value = v) ↔ t.WritesInteger v := by
  refine ⟨?_, exists_of_writesInteger⟩
  rintro ⟨⟨negative, digits⟩, hnumeral, rfl⟩
  obtain ⟨cs, hne, hdigits, hsign, hds⟩ := ofAscii?_eq_some_iff.1 hnumeral
  rw [Numeral.value_of_digits hds]
  unfold Numeral.splitSign at hsign
  split at hsign <;> cases hsign
  · exact .plus hne hdigits
  · exact .minus hne hdigits
  · exact .unsigned hne hdigits

/-- A numeral has the digits of its text. -/
theorem length_of_ofAscii? (h : Numeral.ofAscii? t = some numeral) :
    numeral.digits.length = t.digitCount := by
  obtain ⟨negative, digits⟩ := numeral
  obtain ⟨cs, -, hdigits, hsign, hds⟩ := ofAscii?_eq_some_iff.1 h
  rw [hds, List.length_map, ← digitCount_ofChars hdigits]
  unfold Numeral.splitSign at hsign
  -- a sign is no digit
  split at hsign <;> cases hsign <;> rfl

end PhaseSplit
