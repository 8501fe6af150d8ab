import Mathlib.Tactic
import PhaseSplit.Text.Lowercase

/-!
# Words in lower case

A word in lower case is found in a text whatever the case of its letters.  Beyond ASCII two
characters have a small letter of the alphabet: the Kelvin sign has a `k`, and the dotted capital I
has an `i` with a dot after it.  For a word without these two letters it does not matter whether the
letters of all alphabets are made small or those of ASCII alone.

* `lowerChar_of_large`: the small letters of characters beyond ASCII;
* `Text.lower_eq_ofChars_iff`: a word without `i` and `k` as the lower case of a text;
* `Text.asciiLower_eq_ofChars_iff`: the texts that spell a word of small letters.
-/

namespace PhaseSplit

/-! ## Letters -/

/-- The small letters of a run of capitals beyond ASCII lie beyond ASCII, except that of the Kelvin
sign. -/
theorem image_of_mem_caseRuns : ∀ r ∈ caseRuns, r.last < 128
    ∨ r.first = 8490 ∧ r.last = 8490 ∧ r.distance = -8383
    ∨ 128 ≤ r.first + r.distance ∧ (r.last + r.distance < 0xD800
      ∨ 0xDFFF < r.first + r.distance ∧ r.last + r.distance < 0x110000) := by
  decide +kernel

/-- The small letter of a character beyond ASCII lies beyond ASCII, or it is a `k`. -/
theorem lowerChar_of_large {c : Char} (h : 128 ≤ c.toNat) :
    lowerChar c = 'k' ∨ 128 ≤ (lowerChar c).toNat := by
  unfold lowerChar
  cases hfind : caseRuns.find? (·.contains c.toNat) with
  | none => exact .inr h
  | some r =>
    have hrange : r.first ≤ c.toNat ∧ c.toNat ≤ r.last := by
      have hcontains := List.find?_some hfind
      simp only [CaseRun.contains, Bool.and_eq_true, decide_eq_true_eq] at hcontains
      exact hcontains.1
    dsimp only
    rcases image_of_mem_caseRuns r (List.mem_of_find?_eq_some hfind) with
      hsmall | ⟨hfirst, hlast, hkelvin⟩ | ⟨hlarge, hvalid⟩
    · omega
    · left
      have hcode : ((c.toNat : Int) + r.distance).toNat = 107 := by omega
      exact congrArg Char.ofNat hcode
    · right
      have hvalid' : ((c.toNat : Int) + r.distance).toNat.isValidChar := by
        unfold Nat.isValidChar
        omega
      have hcode : (Char.ofNat ((c.toNat : Int) + r.distance).toNat).toNat
          = ((c.toNat : Int) + r.distance).toNat := by
        rw [Char.ofNat, dif_pos hvalid']
        rfl
      omega

theorem toNat_toLower (c : Char) :
    c.toLower.toNat = if 65 ≤ c.toNat ∧ c.toNat ≤ 90 then c.toNat + 32 else c.toNat := by
  unfold Char.toLower
  split <;> rename_i h <;> simp only [ge_iff_le, UInt32.le_iff_toNat_le, Char.toNat_val] at h
  · have hcapital : 65 ≤ c.toNat ∧ c.toNat ≤ 90 := h
    show (c.val + _).toNat = _
    rw [if_pos hcapital, UInt32.toNat_add, Char.toNat_val]
    show (c.toNat + 32) % 2 ^ 32 = _
    omega
  · exact (if_neg h).symm

theorem toNat_toUpper (c : Char) :
    c.toUpper.toNat = if 97 ≤ c.toNat ∧ c.toNat ≤ 122 then c.toNat - 32 else c.toNat := by
  unfold Char.toUpper
  split <;> rename_i h <;> simp only [UInt32.le_iff_toNat_le, Char.toNat_val] at h
  · have hsmall : 97 ≤ c.toNat ∧ c.toNat ≤ 122 := h
    show (c.val + _).toNat = _
    rw [if_pos hsmall, UInt32.toNat_add, Char.toNat_val]
    -- thirty-two less, in words of 32 bits
    show (c.toNat + 4294967264) % 2 ^ 32 = _
    omega
  · exact (if_neg h).symm

/-- A small letter of the alphabet belongs to itself and to its capital. -/
theorem toLower_eq_iff {c d : Char} (hc : 97 ≤ c.toNat ∧ c.toNat ≤ 122) :
    d.toLower = c ↔ d = c ∨ d = c.toUpper := by
  have hlower := toNat_toLower d
  have hupper := toNat_toUpper c
  rw [if_pos hc] at hupper
  simp only [← Char.toNat_inj]
  split at hlower <;> omega

/-! ## Words -/

namespace Text

variable {t before : Text} {w : List Char}

/-- Characters of ASCII that no character beyond has in its lower case. -/
def IsOwnWord (w : List Char) : Prop := ∀ c ∈ w, c.toNat < 128 ∧ c ≠ 'i' ∧ c ≠ 'k'

-- Through the letters of the word, not through all the characters there are.
instance (w : List Char) : Decidable (IsOwnWord w) :=
  List.decidableBAll _ w

theorem lowerAfter_of_small {c : Char} (h : c.toNat < 128) :
    lowerAfter before (.char c :: t) = .char c.toLower :: lowerAfter (.char c :: before) t := by
  rw [lowerAfter]
  rw [if_neg (by omega), if_neg (by omega), if_pos h]
  rfl

/-- The lower case of a character beyond ASCII starts with a character of no such word. -/
theorem exists_lowerAfter_of_large (before t : Text) {c : Char} (h : 128 ≤ c.toNat) :
    ∃ d rest, lowerAfter before (.char c :: t) = .char d :: rest
      ∧ (d = 'i' ∨ d = 'k' ∨ 128 ≤ d.toNat) := by
  rw [lowerAfter]
  split
  · exact ⟨_, _, rfl, .inl rfl⟩
  · split
    · refine ⟨_, _, rfl, .inr (.inr ?_)⟩
      split <;> decide
    · rw [if_neg (by omega)]
      exact ⟨_, _, rfl, .inr (lowerChar_of_large h)⟩

/-- **Only the letters of ASCII spell such a word**, in all alphabets. -/
theorem lowerAfter_eq_ofChars_iff (hw : IsOwnWord w) :
    lowerAfter before t = ofChars w ↔ asciiLower t = ofChars w := by
  induction t generalizing before w with
  | nil => rfl
  | cons g t ih =>
    cases w with
    | nil =>
      cases g with
      | char c =>
        rcases Nat.lt_or_ge c.toNat 128 with hc | hc
        · rw [lowerAfter_of_small hc]
          simp [ofChars, asciiLower]
        · obtain ⟨d, rest, heq, -⟩ := exists_lowerAfter_of_large before t hc
          rw [heq]
          simp [ofChars, asciiLower]
      | raw b => simp [lowerAfter, ofChars, asciiLower]
      | half k => simp [lowerAfter, ofChars, asciiLower]
    | cons a w =>
      obtain ⟨⟨hsmall, hi, hk⟩, hrest⟩ := List.forall_mem_cons.1 hw
      cases g with
      | char c =>
        have hascii : asciiLower (.char c :: t) = .char c.toLower :: asciiLower t := rfl
        have hword : ofChars (a :: w) = .char a :: ofChars w := rfl
        rcases Nat.lt_or_ge c.toNat 128 with hc | hc
        · rw [lowerAfter_of_small hc, hascii, hword, List.cons.injEq, List.cons.injEq, ih hrest]
        · -- neither side starts with a character of the word
          obtain ⟨d, rest, heq, hd⟩ := exists_lowerAfter_of_large before t hc
          have hkept : c.toLower.toNat = c.toNat := by
            rw [toNat_toLower, if_neg (by omega)]
          rw [heq, hascii, hword]
          constructor
          · intro h
            obtain rfl : d = a := Glyph.char.inj (List.cons.inj h).1
            rcases hd with rfl | rfl | hd
            · exact absurd rfl hi
            · exact absurd rfl hk
            · omega
          · intro h
            have hca : c.toLower = a := Glyph.char.inj (List.cons.inj h).1
            rw [hca] at hkept
            omega
      | raw b => simp [lowerAfter, ofChars, asciiLower]
      | half k => simp [lowerAfter, ofChars, asciiLower]

theorem lower_eq_ofChars_iff (hw : IsOwnWord w) : t.lower = ofChars w ↔ t.asciiLower = ofChars w :=
  lowerAfter_eq_ofChars_iff hw

/-- The texts that spell a word, each of its letters small or capital. -/
def Spells (t : Text) (w : List Char) : Prop :=
  List.Forall₂ (fun g c => g = .char c ∨ g = .char c.toUpper) t w

/-- **A word of small letters in any case.** -/
theorem asciiLower_eq_ofChars_iff (hw : ∀ c ∈ w, 97 ≤ c.toNat ∧ c.toNat ≤ 122) :
    t.asciiLower = ofChars w ↔ t.Spells w := by
  unfold Spells
  induction t generalizing w with
  | nil => cases w <;> simp [asciiLower, ofChars]
  | cons g t ih =>
    cases w with
    | nil => simp [asciiLower, ofChars]
    | cons c w =>
      obtain ⟨hc, hw⟩ := List.forall_mem_cons.1 hw
      rw [List.forall₂_cons, ← ih hw]
      cases g with
      | char d =>
        have hascii : asciiLower (.char d :: t) = .char d.toLower :: asciiLower t := rfl
        have hword : ofChars (c :: w) = .char c :: ofChars w := rfl
        rw [hascii, hword, List.cons.injEq, Glyph.char.injEq, Glyph.char.injEq, Glyph.char.injEq,
          toLower_eq_iff hc]
      | raw b => simp [asciiLower, ofChars]
      | half k => simp [asciiLower, ofChars]

end Text

end PhaseSplit
