import Mathlib.Tactic
import PhaseSplit.Proofs.Text.Lines
import PhaseSplit.Text.Utf8

/-!
# Reading bytes line by line

The bytes of the line ends occur in a file only where the line ends do: the first byte of a
character tells how many bytes it has, and no byte after the first is below `0x80`.  So it does not
matter whether a file is read and then cut into lines or cut into lines that are then read one by
one.

* `Text.utf8EncodeChar_eq_cons`: the bytes of one character;
* `Text.decode_spelling`, `Text.decode_stray`: reading looks no further than one character;
* `Text.decode_append_cons`: reading goes on anew after a byte below `0x80`;
* `Text.exists_of_decode_eq_append`, `Text.decode_encode_of_isInfix`: the parts of a text that has
  been read;
* `Text.char_mem_decode_iff`: the bytes below `0x80` that a text is read from;
* `Text.decodeStrict_encode_ofChars`: characters of one byte are read strictly, too;
* `Text.cutLines_decode`: cutting and reading commute.
-/

namespace PhaseSplit.Text

/-! ## The bytes of a character -/

theorem announcedLength_eq (b : UInt8) :
    announcedLength b = if b.toNat < 0x80 then 1 else if b.toNat < 0xE0 then 2
      else if b.toNat < 0xF0 then 3 else 4 := rfl

theorem le_continuation (n : Nat) : 0x80 ≤ (UInt8.ofNat (n % 0x40 + 0x80)).toNat := by
  rw [UInt8.toNat_ofNat_of_lt' (show n % 0x40 + 0x80 < 256 by omega)]
  omega

/-- **The spelling of a character.**  The first byte tells the number of bytes, those after it are
not below `0x80`, and neither is the first one unless it is the character. -/
theorem utf8EncodeChar_eq_cons (c : Char) :
    ∃ b more, String.utf8EncodeChar c = b :: more ∧ more.length + 1 = announcedLength b
      ∧ (∀ x ∈ more, 0x80 ≤ x.toNat)
      ∧ (b.toNat < 0x80 ∧ c.toNat = b.toNat ∨ 0x80 ≤ b.toNat ∧ 0x80 ≤ c.toNat) := by
  have hcode : c.toNat = c.val.toNat := rfl
  fun_cases String.utf8EncodeChar c with
  | case1 v h1 =>
    have hb : (UInt8.ofNat v).toNat = v :=
      UInt8.toNat_ofNat_of_lt' (show v < 256 by omega)
    refine ⟨_, _, rfl, ?_, by simp, .inl ⟨by omega, by omega⟩⟩
    rw [announcedLength_eq, hb, if_pos (by omega)]
    rfl
  | case2 v h1 h2 =>
    have hb : (UInt8.ofNat (v / 64 % 0x20 + 0xc0)).toNat = v / 64 % 0x20 + 0xc0 :=
      UInt8.toNat_ofNat_of_lt' (show v / 64 % 0x20 + 0xc0 < 256 by omega)
    refine ⟨_, _, rfl, ?_, ?_, .inr ⟨by omega, by omega⟩⟩
    · rw [announcedLength_eq, hb, if_neg (by omega), if_pos (by omega)]
      rfl
    · simpa using le_continuation v
  | case3 v h1 h2 h3 =>
    have hb : (UInt8.ofNat (v / 4096 % 0x10 + 0xe0)).toNat = v / 4096 % 0x10 + 0xe0 :=
      UInt8.toNat_ofNat_of_lt' (show v / 4096 % 0x10 + 0xe0 < 256 by omega)
    refine ⟨_, _, rfl, ?_, ?_, .inr ⟨by omega, by omega⟩⟩
    · rw [announcedLength_eq, hb, if_neg (by omega), if_neg (by omega), if_pos (by omega)]
      rfl
    · simpa using ⟨le_continuation (v / 64), le_continuation v⟩
  | case4 v h1 h2 h3 =>
    have hb : (UInt8.ofNat (v / 262144 % 0x08 + 0xf0)).toNat = v / 262144 % 0x08 + 0xf0 :=
      UInt8.toNat_ofNat_of_lt' (show v / 262144 % 0x08 + 0xf0 < 256 by omega)
    refine ⟨_, _, rfl, ?_, ?_, .inr ⟨by omega, by omega⟩⟩
    · rw [announcedLength_eq, hb, if_neg (by omega), if_neg (by omega), if_neg (by omega)]
      rfl
    · simpa using ⟨le_continuation (v / 4096), le_continuation (v / 64), le_continuation v⟩

/-! ## Reading one character -/

variable {b : UInt8} {bs more rest : List UInt8} {c : Char}

/-- A character that is read stands at the start of the bytes, spelled in full. -/
theorem exists_of_readChar? (h : readChar? b bs = some c) :
    ∃ more rest, bs = more ++ rest ∧ more.length + 1 = announcedLength b
      ∧ String.utf8EncodeChar c = b :: more := by
  obtain ⟨n, hn⟩ : ∃ n, announcedLength b = n + 1 :=
    ⟨announcedLength b - 1, by have := announcedLength_pos b; omega⟩
  have henc := encode_readChar? h
  rw [hn, List.take_succ_cons] at henc
  obtain ⟨b', more, hc, hlength, -⟩ := utf8EncodeChar_eq_cons c
  rw [hc, List.cons.injEq] at henc
  obtain ⟨rfl, rfl⟩ := henc
  exact ⟨bs.take n, bs.drop n, (List.take_append_drop n bs).symm, hlength, hc⟩

/-- Bytes after the character have no part in it. -/
theorem readChar?_append (h : readChar? b (more ++ rest) = some c)
    (hlength : more.length + 1 = announcedLength b) (bs : List UInt8) :
    readChar? b (more ++ bs) = some c := by
  have htake : ∀ xs : List UInt8, (b :: (more ++ xs)).take (announcedLength b) = b :: more := by
    intro xs
    rw [← hlength, List.take_succ_cons, List.take_left]
  unfold readChar? at h ⊢
  rw [htake] at h ⊢
  exact h

/-- Where no character is read, none is read from fewer bytes. -/
theorem readChar?_eq_none_of_prefix (h : readChar? b bs = none) {cs : List UInt8}
    (hcs : cs <+: bs) : readChar? b cs = none := by
  rw [Option.eq_none_iff_forall_ne_some]
  intro c hc
  obtain ⟨ds, rfl⟩ := hcs
  obtain ⟨more, rest, rfl, hlength, -⟩ := exists_of_readChar? hc
  rw [List.append_assoc, readChar?_append hc hlength] at h
  cases h

/-- A byte below `0x80` is a character. -/
theorem readChar?_of_lt (h : b.toNat < 0x80) : readChar? b bs = some (Char.ofNat b.toNat) := by
  have hlength : announcedLength b = 1 := by rw [announcedLength_eq, if_pos h]
  have hvalid : b.toNat.isValidChar := .inl (by omega)
  have hval : (Char.ofNat b.toNat).val.toNat = b.toNat := by
    rw [Char.ofNat, dif_pos hvalid]
    rfl
  have henc : String.utf8EncodeChar (Char.ofNat b.toNat) = [b] := by
    rw [String.utf8EncodeChar, hval, if_pos (by omega), UInt8.ofNat_toNat]
  unfold readChar?
  rw [hlength, List.take_succ_cons, List.take_zero]
  simp [codePoint, henc]

theorem readChar?_ne_none (h : b.toNat < 0x80) : readChar? b bs ≠ none := by
  rw [readChar?_of_lt h]
  simp

/-! ## Reading on -/

theorem decode_spelling (h : readChar? b (more ++ rest) = some c)
    (hlength : more.length + 1 = announcedLength b) (bs : List UInt8) :
    decode (b :: more ++ bs) = .char c :: decode bs := by
  rw [List.cons_append, decode, readChar?_append h hlength, ← hlength]
  simp

theorem decode_stray (h : readChar? b bs = none) {cs : List UInt8} (hcs : cs <+: bs) :
    decode (b :: cs) = .raw b :: decode cs := by
  rw [decode, readChar?_eq_none_of_prefix h hcs]

/-- A byte below `0x80` is read as a character wherever it stands. -/
theorem decode_cons_of_lt (h : b.toNat < 0x80) (bs : List UInt8) :
    decode (b :: bs) = .char (Char.ofNat b.toNat) :: decode bs := by
  have hlength : announcedLength b = 1 := by rw [announcedLength_eq, if_pos h]
  rw [decode, readChar?_of_lt h, hlength]
  rfl

/-- No byte below `0x80` helps to spell another character. -/
theorem readChar?_append_eq_none (h : readChar? b bs = none) {a : UInt8} (ha : a.toNat < 0x80)
    (rest : List UInt8) : readChar? b (bs ++ a :: rest) = none := by
  rw [Option.eq_none_iff_forall_ne_some]
  intro c hc
  obtain ⟨more, rest', hsplit, hlength, henc⟩ := exists_of_readChar? hc
  obtain ⟨b', more', henc', -, hmore, -⟩ := utf8EncodeChar_eq_cons c
  obtain ⟨rfl, rfl⟩ := List.cons.inj (henc.symm.trans henc')
  rcases List.append_eq_append_iff.1 hsplit with ⟨tail, rfl, htail⟩ | ⟨tail, rfl, -⟩
  · -- the spelling would reach the byte
    cases tail with
    | nil =>
      rw [hsplit, List.append_nil] at hc
      have hread := readChar?_append hc (by rw [List.append_nil] at hlength; exact hlength) []
      rw [List.append_nil, h] at hread
      cases hread
    | cons d tail =>
      obtain ⟨rfl, -⟩ := List.cons.inj htail
      exact absurd (hmore a (by simp)) (Nat.not_le.2 ha)
  · -- the spelling would stand before it
    rw [List.append_assoc] at hc
    rw [readChar?_append hc hlength] at h
    cases h

/-- **Reading goes on anew after a byte below `0x80`.** -/
theorem decode_append_cons {a : UInt8} (ha : a.toNat < 0x80) (p rest : List UInt8) :
    decode (p ++ a :: rest) = decode p ++ .char (Char.ofNat a.toNat) :: decode rest := by
  fun_induction decode p with
  | case1 => exact decode_cons_of_lt ha rest
  | case2 b bs c hc ih =>
    obtain ⟨more, rest', rfl, hlength, -⟩ := exists_of_readChar? hc
    have hdrop : (more ++ rest').drop (announcedLength b - 1) = rest' := by
      rw [← hlength]
      simp
    rw [hdrop] at ih ⊢
    have hspelled := decode_spelling hc hlength (rest' ++ a :: rest)
    rw [ih] at hspelled
    rw [List.cons_append, List.append_assoc]
    exact hspelled
  | case3 b bs hnone ih =>
    rw [List.cons_append, decode, readChar?_append_eq_none hnone ha]
    dsimp only
    rw [ih, List.cons_append]

/-- A glyph below `0x80` is read exactly from its byte. -/
theorem char_eq_iff {more : List UInt8} (h : String.utf8EncodeChar c = b :: more) {d : Char}
    (hd : d.toNat < 0x80) : Glyph.char c = .char d ↔ b.toNat = d.toNat := by
  obtain ⟨b', more', henc, -, -, hcode⟩ := utf8EncodeChar_eq_cons c
  rw [h, List.cons.injEq] at henc
  obtain ⟨rfl, -⟩ := henc
  rw [Glyph.char.injEq]
  constructor
  · rintro rfl
    omega
  · intro hb
    exact Char.toNat_inj.1 (by omega)

theorem head?_decode_eq_lineFeed (bs : List UInt8) :
    (decode bs).head? = some lineFeed ↔ bs.head? = some 0x0A := by
  cases bs with
  | nil => simp [decode]
  | cons b bs =>
    rw [decode]
    cases hc : readChar? b bs with
    | none =>
      have : b ≠ 0x0A := by
        rintro rfl
        exact readChar?_ne_none (by decide) hc
      simp [lineFeed, this]
    | some c =>
      obtain ⟨more, rest, -, -, henc⟩ := exists_of_readChar? hc
      have hfeed := char_eq_iff henc (d := '\n') (by decide)
      simpa [lineFeed, ← UInt8.toNat_inj] using hfeed

/-- No line end is part of the spelling of another character. -/
theorem not_mem_spelling (h : String.utf8EncodeChar c = b :: more) (hcr : b ≠ 0x0D)
    (hlf : b ≠ 0x0A) : 0x0D ∉ b :: more ∧ 0x0A ∉ b :: more := by
  obtain ⟨b', more', henc, -, hmore, -⟩ := utf8EncodeChar_eq_cons c
  obtain ⟨rfl, rfl⟩ := List.cons.inj (h.symm.trans henc)
  rw [List.mem_cons, List.mem_cons, not_or, not_or]
  refine ⟨⟨Ne.symm hcr, fun hmem => ?_⟩, Ne.symm hlf, fun hmem => ?_⟩
  · exact absurd (hmore _ hmem) (by decide)
  · exact absurd (hmore _ hmem) (by decide)

/-! ## Taking apart -/

/-- **The parts of a text that has been read** are read from parts of its bytes. -/
theorem exists_of_decode_eq_append {s u : Text} (h : decode bs = s ++ u) :
    ∃ as cs, bs = as ++ cs ∧ decode as = s ∧ decode cs = u := by
  induction s generalizing bs with
  | nil => exact ⟨[], bs, rfl, by rw [decode], h⟩
  | cons g s ih =>
    cases bs with
    | nil =>
      rw [decode] at h
      cases h
    | cons b bs =>
      rw [decode] at h
      cases hc : readChar? b bs with
      | none =>
        rw [hc] at h
        obtain ⟨rfl, hrest⟩ := List.cons.inj h
        obtain ⟨as, cs, rfl, has, hcs⟩ := ih hrest
        refine ⟨b :: as, cs, rfl, ?_, hcs⟩
        rw [decode_stray hc (List.prefix_append as cs), has]
      | some c =>
        rw [hc] at h
        obtain ⟨more, rest, rfl, hlength, -⟩ := exists_of_readChar? hc
        have hdrop : (more ++ rest).drop (announcedLength b - 1) = rest := by
          rw [← hlength]
          simp
        rw [hdrop] at h
        obtain ⟨rfl, hrest⟩ := List.cons.inj h
        obtain ⟨as, cs, rfl, has, hcs⟩ := ih hrest
        refine ⟨b :: more ++ as, cs, by simp, ?_, hcs⟩
        rw [decode_spelling hc hlength, has]

/-- A part of a text that has been read is read again from its own bytes. -/
theorem decode_encode_of_isInfix {t : Text} (h : t <:+: decode bs) : decode (encode t) = t := by
  obtain ⟨s, u, hsplit⟩ := h
  obtain ⟨as, cs, -, has, -⟩ := exists_of_decode_eq_append hsplit.symm
  obtain ⟨-, ds, -, -, hds⟩ := exists_of_decode_eq_append has
  rw [← hds, encode_decode]

/-- A character below `0x80` is in a text exactly if its byte is among the bytes. -/
theorem char_mem_decode_iff (hb : b.toNat < 0x80) :
    Glyph.char (Char.ofNat b.toNat) ∈ decode bs ↔ b ∈ bs := by
  constructor
  · intro hmem
    have hread : readChar? b [] = some (Char.ofNat b.toNat) := readChar?_of_lt hb
    have henc := encode_readChar? hread
    have hlength : announcedLength b = 1 := by rw [announcedLength_eq, if_pos hb]
    rw [hlength, List.take_succ_cons, List.take_zero] at henc
    rw [← encode_decode bs, encode, List.mem_flatMap]
    refine ⟨_, hmem, ?_⟩
    rw [Glyph.encode, henc]
    exact List.mem_singleton_self b
  · intro hmem
    obtain ⟨s, u, rfl⟩ := List.append_of_mem hmem
    rw [decode_append_cons hb]
    simp

/-! ## Reading strictly -/

/-- A text is read as characters up to the first glyph that is none. -/
theorem firstStray?_eq_none_iff (t : Text) (position : Nat) :
    firstStray? position t = none ↔ ∀ g ∈ t, g.isChar = true := by
  induction t generalizing position with
  | nil => simp [firstStray?]
  | cons g t ih =>
    cases g with
    | char c => simp [firstStray?, ih, Glyph.isChar]
    | raw b => simp [firstStray?, Glyph.isChar]
    | half h => simp [firstStray?, Glyph.isChar]

theorem encode_firstStray?_ne_nil {t rest : Text} {position place : Nat}
    (h : firstStray? position t = some (place, rest)) : rest.encode ≠ [] := by
  induction t generalizing position with
  | nil => cases h
  | cons g t ih =>
    cases g with
    | char c => exact ih h
    | raw b =>
      cases h
      simp [encode, Glyph.encode]
    | half half =>
      cases h
      simp [encode, Glyph.encode, LoneHalf.encode]

theorem chars?_ofChars (cs : List Char) : chars? (ofChars cs) = some cs := by
  induction cs with
  | nil => rfl
  | cons c cs ih => exact congrArg (Option.map (c :: ·)) ih

/-- Characters of one byte are read from their bytes. -/
theorem decode_encode_ofChars {cs : List Char} (h : ∀ c ∈ cs, c.toNat < 0x80) :
    decode (encode (ofChars cs)) = ofChars cs := by
  induction cs with
  | nil =>
    unfold ofChars encode
    rw [List.map_nil, List.flatMap_nil, decode]
  | cons c cs ih =>
    obtain ⟨hc, hcs⟩ := List.forall_mem_cons.1 h
    obtain ⟨b, more, henc, hlength, -, ⟨hb, hcode⟩ | ⟨-, hcode⟩⟩ := utf8EncodeChar_eq_cons c
    · rw [announcedLength_eq, if_pos hb] at hlength
      have hmore : more = [] := List.length_eq_zero_iff.1 (by omega)
      have hbytes : encode (ofChars (c :: cs)) = b :: encode (ofChars cs) := by
        show String.utf8EncodeChar c ++ encode (ofChars cs) = _
        rw [henc, hmore, List.singleton_append]
      rw [hbytes, decode_cons_of_lt hb, ih hcs, ← hcode, Char.ofNat_toNat]
      rfl
    · exact absurd hc (Nat.not_lt.2 hcode)

/-- Strict reading takes characters of one byte. -/
theorem decodeStrict_encode_ofChars {cs : List Char} (h : ∀ c ∈ cs, c.toNat < 0x80) :
    decodeStrict (encode (ofChars cs)) = .ok cs := by
  have hchars : firstStray? 0 (ofChars cs) = none := by
    rw [firstStray?_eq_none_iff]
    intro g hg
    obtain ⟨c, -, rfl⟩ := List.mem_map.1 hg
    rfl
  unfold decodeStrict
  rw [decode_encode_ofChars h]
  dsimp only
  rw [hchars]
  dsimp only
  rw [chars?_ofChars, Option.getD_some]

/-! ## Cutting -/

/-- Reading the pieces when a character stands in front of the first. -/
theorem map_decode_growFirst_spelling (h : readChar? b (more ++ rest) = some c)
    (hlength : more.length + 1 = announcedLength b) (ls : List (List UInt8)) :
    (growFirst (b :: more) ls).map decode = growFirst [.char c] (ls.map decode) := by
  cases ls with
  | nil =>
    have hdecode := decode_spelling h hlength []
    rw [List.append_nil, decode] at hdecode
    rw [growFirst, List.map_singleton, hdecode]
    rfl
  | cons l ls =>
    rw [growFirst, List.map_cons, decode_spelling h hlength]
    rfl

/-- Reading the pieces when a stray byte stands in front of the first. -/
theorem map_decode_growFirst_stray (h : readChar? b bs = none) :
    (growFirst [b] (cutLines 0x0D 0x0A bs)).map decode
      = growFirst [.raw b] ((cutLines 0x0D 0x0A bs).map decode) := by
  cases hls : cutLines 0x0D 0x0A bs with
  | nil =>
    rw [growFirst, List.map_singleton, decode_stray h List.nil_prefix, decode]
    rfl
  | cons l ls =>
    rw [growFirst, List.map_cons, List.singleton_append, decode_stray h (prefix_of_cutLines hls)]
    rfl

/-- **Cutting and reading commute.** -/
theorem cutLines_decode (bs : List UInt8) :
    cutLines carriageReturn lineFeed (decode bs) = (cutLines 0x0D 0x0A bs).map decode := by
  fun_induction decode bs with
  | case1 => rfl
  | case2 b bs c hc ih =>
    obtain ⟨more, rest, rfl, hlength, henc⟩ := exists_of_readChar? hc
    have hdrop : (more ++ rest).drop (announcedLength b - 1) = rest := by
      rw [← hlength]
      simp
    rw [hdrop] at ih ⊢
    have hreturn : Glyph.char c = carriageReturn ↔ b = 0x0D := by
      rw [← UInt8.toNat_inj]
      exact char_eq_iff henc (by decide)
    have hfeed : Glyph.char c = lineFeed ↔ b = 0x0A := by
      rw [← UInt8.toNat_inj]
      exact char_eq_iff henc (by decide)
    by_cases hbreak : b = 0x0D ∨ b = 0x0A
    · -- a line end is a character of one byte
      have hmore : more = [] := by
        have hone : announcedLength b = 1 := by rcases hbreak with rfl | rfl <;> rfl
        rw [hone] at hlength
        exact List.length_eq_zero_iff.1 (by omega)
      subst hmore
      rcases hbreak with rfl | rfl
      · rw [hreturn.2 rfl, List.nil_append]
        by_cases hhead : rest.head? = some 0x0A
        · rw [cutLines_pair hhead, cutLines_pair ((head?_decode_eq_lineFeed rest).2 hhead), ih]
        · rw [cutLines_cr hhead, cutLines_cr (mt (head?_decode_eq_lineFeed rest).1 hhead), ih,
            List.map_cons, decode]
      · rw [hfeed.2 rfl, List.nil_append, cutLines_lf (by decide), cutLines_lf (by decide), ih,
          List.map_cons, decode]
    · rw [not_or] at hbreak
      obtain ⟨hcr, hlf⟩ := not_mem_spelling henc hbreak.1 hbreak.2
      rw [cutLines_cons (mt hreturn.1 hbreak.1) (mt hfeed.1 hbreak.2), ← List.cons_append,
        cutLines_append (by simp) hcr hlf, ih, map_decode_growFirst_spelling hc hlength]
  | case3 b bs hnone ih =>
    have hb : 0x80 ≤ b.toNat := Nat.not_lt.1 fun h => readChar?_ne_none h hnone
    have hcr : b ≠ 0x0D := by
      rintro rfl
      exact absurd hb (by decide)
    have hlf : b ≠ 0x0A := by
      rintro rfl
      exact absurd hb (by decide)
    rw [cutLines_cons (by simp [carriageReturn]) (by simp [lineFeed]), cutLines_cons hcr hlf, ih,
      map_decode_growFirst_stray hnone]

end PhaseSplit.Text
