import PhaseSplit.Text.Glyph

/-!
# UTF-8

Texts as bytes.  Reading never fails: where no character is spelled, one byte is kept as a stray
glyph.  A character is read by taking the code point that its bytes announce and checking that
these bytes are its spelling, so overlong spellings, surrogates and broken sequences are refused
by one test.

* `Text.encode`, `Text.decode` — texts to bytes and back;
* `Text.encode_decode` — writing what was read gives the bytes back, whatever they are;
* `Text.decodeStrict` — reading that refuses stray bytes and says where and why;
* `Text.unwritable?` — the glyphs at which strict writing stops.
-/

namespace PhaseSplit

/-! ## Writing -/

/-- The three bytes that number half of a pair. -/
def LoneHalf.encode (h : LoneHalf) : List UInt8 :=
  [0xED, UInt8.ofNat (0x80 + h.code / 64 % 64), UInt8.ofNat (0x80 + h.code % 64)]

/-- The bytes of a glyph. -/
def Glyph.encode : Glyph → List UInt8
  | .char c => String.utf8EncodeChar c
  | .raw b => [b]
  | .half h => h.encode

/-- Whether a glyph is a character. -/
def Glyph.isChar : Glyph → Bool
  | .char _ => true
  | _ => false

/-- Whether a glyph is half of a pair. -/
def Glyph.isHalf : Glyph → Bool
  | .half _ => true
  | _ => false

namespace Text

/-- The bytes of a text. -/
def encode (t : Text) : List UInt8 := t.flatMap Glyph.encode

/-! ## Reading -/

/-- The number of bytes that a character starting with `b` has. -/
def announcedLength (b : UInt8) : Nat :=
  if b < 0x80 then 1 else if b < 0xE0 then 2 else if b < 0xF0 then 3 else 4

/-- The code point that the bytes of one character spell. -/
def codePoint : List UInt8 → Nat
  | [a] => a.toNat
  | [a, b] => a.toNat % 32 * 64 + b.toNat % 64
  | [a, b, c] => (a.toNat % 16 * 64 + b.toNat % 64) * 64 + c.toNat % 64
  | [a, b, c, d] =>
    ((a.toNat % 8 * 64 + b.toNat % 64) * 64 + c.toNat % 64) * 64 + d.toNat % 64
  | _ => 0

/-- The character whose spelling the bytes `b :: bs` start with, if there is one. -/
def readChar? (b : UInt8) (bs : List UInt8) : Option Char :=
  let spelling := (b :: bs).take (announcedLength b)
  let c := Char.ofNat (codePoint spelling)
  if String.utf8EncodeChar c = spelling then some c else none

/-- The text of a list of bytes. -/
def decode : List UInt8 → Text
  | [] => []
  | b :: bs =>
    match readChar? b bs with
    | some c => .char c :: decode (bs.drop (announcedLength b - 1))
    | none => .raw b :: decode bs
termination_by bs => bs.length
decreasing_by all_goals simp; try omega

theorem announcedLength_pos (b : UInt8) : 0 < announcedLength b := by
  grind [announcedLength]

theorem encode_readChar? {b : UInt8} {bs : List UInt8} {c : Char} (h : readChar? b bs = some c) :
    String.utf8EncodeChar c = (b :: bs).take (announcedLength b) := by
  simp only [readChar?] at h
  split at h
  · next he => cases h; exact he
  · cases h

/-- Writing what was read gives the bytes back. -/
theorem encode_decode (bs : List UInt8) : encode (decode bs) = bs := by
  fun_induction decode bs with
  | case1 => rfl
  | case2 b bs c hc ih =>
    have hpos := announcedLength_pos b
    obtain ⟨n, hn⟩ : ∃ n, announcedLength b = n + 1 := ⟨announcedLength b - 1, by omega⟩
    simp only [encode, List.flatMap_cons, Glyph.encode, encode_readChar? hc, hn,
      List.take_succ_cons, Nat.add_sub_cancel, List.cons_append] at ih ⊢
    rw [ih, List.take_append_drop]
  | case3 b bs _ ih => simpa [encode, Glyph.encode] using ih

/-! ## Strict reading -/

/-- Why bytes spell no character. -/
inductive FaultReason
  | invalidStart
  | invalidContinuation
  | unexpectedEnd
  deriving DecidableEq

/-- Where reading stopped: the offset of the first byte, the bytes that belong together, and the
reason. -/
structure Fault where
  position : Nat
  bytes : List UInt8
  reason : FaultReason
  deriving DecidableEq

/-- The bytes that may follow the leading byte `b`. -/
def secondByteOk (b second : UInt8) : Bool :=
  let low : UInt8 := if b = 0xE0 then 0xA0 else if b = 0xF0 then 0x90 else 0x80
  let high : UInt8 := if b = 0xED then 0x9F else if b = 0xF4 then 0x8F else 0xBF
  low ≤ second && second ≤ high

/-- The continuation bytes after the leading byte `b` that are in place. -/
def inPlace (b : UInt8) : List UInt8 → List UInt8
  | [] => []
  | second :: rest =>
    if secondByteOk b second then
      second :: (rest.take (announcedLength b - 2)).takeWhile (fun c => 0x80 ≤ c && c ≤ 0xBF)
    else []

/-- The fault at `position`, where the bytes `b :: bs` spell no character. -/
def faultAt (position : Nat) (b : UInt8) (bs : List UInt8) : Fault :=
  if 0xC2 ≤ b && b ≤ 0xF4 then
    let good := inPlace b bs
    ⟨position, b :: good,
      if good.length = bs.length then .unexpectedEnd else .invalidContinuation⟩
  else ⟨position, [b], .invalidStart⟩

/-- The glyphs from the first that is no character on, with the offset of their bytes. -/
def firstStray? : (position : Nat) → Text → Option (Nat × Text)
  | _, [] => none
  | position, .char c :: t => firstStray? (position + (String.utf8EncodeChar c).length) t
  | position, g :: t => some (position, g :: t)

/-- The characters of a list of bytes, or the first fault. -/
def decodeStrict (bs : List UInt8) : Except Fault (List Char) :=
  let t := decode bs
  match firstStray? 0 t with
  | none => .ok (t.chars?.getD [])
  | some (position, rest) =>
    match encode rest with
    | [] => .ok []
    | b :: more => .error (faultAt position b more)

/-- The words for a reason. -/
def FaultReason.message : FaultReason → Text
  | .invalidStart => lit "invalid start byte"
  | .invalidContinuation => lit "invalid continuation byte"
  | .unexpectedEnd => lit "unexpected end of data"

/-- The words for a fault: one byte is shown, several are counted. -/
def Fault.message (f : Fault) : Text :=
  let place :=
    match f.bytes with
    | [b] => lit "byte 0x" ++ ofChars (hexDigits 2 b.toNat) ++ lit " in position " ++ ofNat f.position
    | bs =>
      lit "bytes in position " ++ ofNat f.position ++ lit "-" ++ ofNat (f.position + bs.length - 1)
  lit "'utf-8' codec can't decode " ++ place ++ lit ": " ++ f.reason.message

/-! ## Strict writing -/

/-- Where strict writing stops: the glyphs one after another that are no characters, and the
position of the first. -/
structure Unwritable where
  position : Nat
  glyphs : Text
  deriving DecidableEq

/-- The glyphs at which writing stops, if a glyph that `isRefused` occurs. -/
def unwritable? (isRefused : Glyph → Bool) (t : Text) : Option Unwritable :=
  match t.dropWhile (!isRefused ·) with
  | [] => none
  | rest => some ⟨(t.takeWhile (!isRefused ·)).length, rest.takeWhile (!·.isChar)⟩

/-- The words for the place at which writing stops: one glyph is shown, several are counted. -/
def Unwritable.message (u : Unwritable) : Text :=
  let place :=
    match u.glyphs with
    | [g] => lit "character '" ++ ofChars g.shown ++ lit "' in position " ++ ofNat u.position
    | gs =>
      lit "characters in position " ++ ofNat u.position ++ lit "-"
        ++ ofNat (u.position + gs.length - 1)
  lit "'utf-8' codec can't encode " ++ place ++ lit ": surrogates not allowed"

/-- Writing stops exactly where a glyph is refused. -/
theorem unwritable?_eq_none_iff {isRefused : Glyph → Bool} {t : Text} :
    unwritable? isRefused t = none ↔ ∀ g ∈ t, isRefused g = false := by
  have hnil : t.dropWhile (!isRefused ·) = [] ↔ ∀ g ∈ t, isRefused g = false := by
    induction t with
    | nil => simp
    | cons g t ih => by_cases h : isRefused g <;> simp [h, ih]
  rw [unwritable?, ← hnil]
  split <;> simp_all

theorem exists_of_unwritable?_eq_some {isRefused : Glyph → Bool} {t : Text} {u : Unwritable}
    (h : unwritable? isRefused t = some u) : ∃ g ∈ t, isRefused g = true := by
  apply Classical.byContradiction
  intro hnone
  have hwritable : unwritable? isRefused t = none := by
    rw [unwritable?_eq_none_iff]
    intro g hg
    exact Bool.eq_false_iff.2 fun hrefused => hnone ⟨g, hg, hrefused⟩
  rw [hwritable] at h
  cases h

end Text

end PhaseSplit
