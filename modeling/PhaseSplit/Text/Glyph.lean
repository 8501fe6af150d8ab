/-!
# Texts

A text is what a file holds once its bytes have been read as characters.  Bytes that spell no
character are kept where they stand, and so is half of a surrogate pair whose other half is
missing.  A text is a list of *glyphs*: characters, stray bytes and lone halves.

* `Text.lit` — the text of a string constant;
* `Text.ofNat`, `Text.ofInt` — decimal numerals;
* `Text.shown` — the characters that stand for a text in a report, what is no character as an
  escape;
* `Text.before` — the order of texts by code.
-/

namespace PhaseSplit

/-- Half of a surrogate pair without the other half.  The halves that number stray bytes are not
among them. -/
structure LoneHalf where
  code : Nat
  isHalf : 0xD800 ≤ code ∧ code ≤ 0xDFFF
  isNoByte : code < 0xDC80 ∨ 0xDCFF < code
  deriving DecidableEq

/-- One position of a text: a character, a byte that belongs to no character, or half of a pair. -/
inductive Glyph
  | char (c : Char)
  | raw (b : UInt8)
  | half (h : LoneHalf)
  deriving DecidableEq

/-- A text, as a list of glyphs. -/
abbrev Text := List Glyph

/-! ## Glyphs -/

/-- The number that orders glyphs: a character's code point, and for all else a number of the range
that no character uses. -/
def Glyph.code : Glyph → Nat
  | .char c => c.toNat
  | .raw b => 0xDC00 + b.toNat
  | .half h => h.code

/-- The glyph of a code unit: a stray byte or half of a pair in the range that no character uses,
else a character. -/
def Glyph.ofUnit (u : Nat) : Glyph :=
  if h : 0xD800 ≤ u ∧ u ≤ 0xDFFF then
    if hb : u < 0xDC80 ∨ 0xDCFF < u then .half ⟨u, h, hb⟩ else .raw (UInt8.ofNat (u - 0xDC00))
  else .char (Char.ofNat u)

/-- The lower-case hexadecimal digit of a number below 16. -/
def hexDigit (n : Nat) : Char :=
  if n < 10 then Char.ofNat (48 + n) else Char.ofNat (87 + n)

/-- The lower-case hexadecimal digits of `n`, exactly `width` of them. -/
def hexDigits : (width : Nat) → (n : Nat) → List Char
  | 0, _ => []
  | width + 1, n => hexDigits width (n / 16) ++ [hexDigit (n % 16)]

/-- The characters that stand for a glyph in a report: what is no character shows as an escape of
its code. -/
def Glyph.shown : Glyph → List Char
  | .char c => [c]
  | g => '\\' :: 'u' :: hexDigits 4 g.code

/-- Whether a glyph is the character `c`. -/
def Glyph.is (g : Glyph) (c : Char) : Bool := g == .char c

/-! ## Texts from constants and numbers -/

namespace Text

/-- The text of a list of characters. -/
def ofChars (cs : List Char) : Text := cs.map .char

/-- The text of a string constant. -/
def lit (s : String) : Text := ofChars s.toList

/-- The decimal numeral of a natural number. -/
def ofNat (n : Nat) : Text := ofChars (Nat.toDigits 10 n)

/-- The decimal numeral of an integer, with a sign only when it is negative. -/
def ofInt : Int → Text
  | .ofNat n => ofNat n
  | .negSucc n => .char '-' :: ofNat (n + 1)

/-! ## Texts as characters -/

/-- The characters that stand for a text in a report. -/
def shown (t : Text) : List Char := t.flatMap Glyph.shown

/-- The string that stands for a text in a report. -/
def toShownString (t : Text) : String := String.ofList t.shown

/-- The characters of a text that has nothing else. -/
def chars? : Text → Option (List Char)
  | [] => some []
  | .char c :: t => (chars? t).map (c :: ·)
  | _ :: _ => none

/-! ## Order and pieces -/

/-- Whether `s` comes before `t` in the order by code, shorter first among extensions. -/
def before : Text → Text → Bool
  | [], [] => false
  | [], _ :: _ => true
  | _ :: _, [] => false
  | a :: s, b :: t => a.code < b.code || (a.code == b.code && before s t)

/-- Whether a text is not after another in the order by code. -/
def notAfter (s t : Text) : Bool := !before t s

/-- The text with `tail` cut off its end, when it ends so. -/
def dropTail? (tail t : Text) : Option Text :=
  if tail.isSuffixOf t then some (t.take (t.length - tail.length)) else none

/-- The pieces of a text between the occurrences of `sep`, at least one. -/
def splitAt (sep : Glyph) : Text → List Text
  | [] => [[]]
  | g :: t =>
    if g = sep then [] :: splitAt sep t
    else
      match splitAt sep t with
      | [] => [[g]]
      | p :: ps => (g :: p) :: ps

/-- The texts one after another, with `sep` between neighbours. -/
def join (sep : Text) : List Text → Text
  | [] => []
  | [t] => t
  | t :: ts => t ++ sep ++ join sep ts

/-- The characters of the alphabet from `A` to `Z` in lower case, all else as it is. -/
def asciiLower (t : Text) : Text :=
  t.map fun
    | .char c => .char c.toLower
    | g => g

/-- What is left when an end is cut off is what stood before it. -/
theorem dropTail?_eq_some_iff {tail t s : Text} : dropTail? tail t = some s ↔ t = s ++ tail := by
  rw [dropTail?]
  constructor
  · intro h
    split at h
    · next hs =>
      obtain ⟨r, rfl⟩ := List.isSuffixOf_iff_suffix.1 hs
      simpa using h
    · cases h
  · rintro rfl
    simp

theorem splitAt_ne_nil (sep : Glyph) (t : Text) : splitAt sep t ≠ [] := by
  cases t with
  | nil => simp [splitAt]
  | cons g t =>
    rw [splitAt]
    split
    · simp
    · split <;> simp

/-- Joining the pieces gives the text back. -/
theorem join_splitAt (sep : Glyph) (t : Text) : join [sep] (splitAt sep t) = t := by
  induction t with
  | nil => rfl
  | cons g t ih =>
    obtain ⟨p, ps, h⟩ := List.exists_cons_of_ne_nil (splitAt_ne_nil sep t)
    rw [h] at ih
    rw [splitAt, h]
    split
    · next hg => simp [join, hg, ih]
    · cases ps <;> simpa [join] using ih

end Text

end PhaseSplit
