import Mathlib.Data.List.TakeWhile
import Mathlib.Tactic
import PhaseSplit.Csv.Column
import PhaseSplit.Csv.Reader
import PhaseSplit.Proofs.Split.Bookkeeping
import PhaseSplit.Proofs.Text.Numeral
import PhaseSplit.Proofs.Text.Pieces
import PhaseSplit.Proofs.Text.Utf8

/-!
# Tables without quotes

Lines with commas and without quotes are a table with one row for each line, cut at the commas.
Cells that are integers of a machine word make a column of these integers.

* `Csv.IsPlainRow`, `Csv.cellsOf`: such lines, and their cells;
* `Csv.firstRow_join`, `Csv.rowsFrom_closeLines`, `Csv.read_closeLines`: they are read row by row;
* `Csv.readWhole_of_ofAscii?`: a numeral in a cell is read as the integer that it writes;
* `Csv.Column.ofWords`, `Csv.Column.ofCells_map`: the column of such cells;
* `Csv.exists_readText_iff`: when the glyphs of a cell are a text.
-/

namespace PhaseSplit

namespace Csv

/-- A line of a table without quotes: it has a comma, and neither a quote nor a line end. -/
structure IsPlainRow (t : Text) : Prop where
  comma_mem : comma ∈ t
  no_quote : quoteMark ∉ t
  no_return : Text.carriageReturn ∉ t
  no_feed : Text.lineFeed ∉ t

/-- The cells of such a line. -/
def cellsOf (t : Text) : List Text := (Text.splitAt comma t).map untilNull

/-! ## Rows -/

section

variable {p rest t : Text} {ps : List Text} {lines : List Text}

theorem closeLines_cons (t : Text) (lines : List Text) :
    closeLines (t :: lines) = t ++ Text.lineFeed :: closeLines lines := by
  simp [closeLines]

theorem plainField_append (hp : ∀ g ∈ p, isPlain g = true) {g : Glyph} (hg : isPlain g = false) :
    plainField (p ++ g :: rest) = (p, g :: rest) := by
  unfold plainField
  rw [List.takeWhile_append_of_pos hp, List.dropWhile_append_of_pos hp]
  simp [hg]

theorem firstField_of_head?_ne (h : t.head? ≠ some quoteMark) :
    firstField t = some (plainField t) := by
  unfold firstField
  split
  · exact absurd rfl h
  · rfl

/-- A field without quotes ends in front of a comma or a line end. -/
theorem firstField_append (hp : ∀ g ∈ p, isPlain g = true) (hquote : quoteMark ∉ p) {g : Glyph}
    (hg : isPlain g = false) : firstField (p ++ g :: rest) = some (p, g :: rest) := by
  rw [firstField_of_head?_ne, plainField_append hp hg]
  intro hhead
  cases p with
  | nil =>
    rw [List.nil_append, List.head?_cons, Option.some.injEq] at hhead
    rw [hhead] at hg
    exact absurd hg (by decide)
  | cons h p =>
    rw [List.cons_append, List.head?_cons, Option.some.injEq] at hhead
    exact hquote (hhead ▸ List.mem_cons_self)

/-- Before a comma there is one field, and after it there are the others. -/
theorem firstRow_of_comma {p t rest rest' : Text} {fields : List Text} {fuel : Nat}
    (hfield : firstField t = some (p, comma :: rest))
    (hrest : firstRow fuel rest = some (fields, rest')) :
    firstRow (fuel + 1) t = some (untilNull p :: fields, rest') := by
  rw [firstRow, hfield]
  show (firstRow fuel rest >>= fun row => some (untilNull p :: row.1, row.2)) = _
  rw [hrest]
  rfl

/-- **A row without quotes** is read field by field. -/
theorem firstRow_join (hps : ∀ p ∈ ps, (∀ g ∈ p, isPlain g = true) ∧ quoteMark ∉ p)
    (hne : ps ≠ []) {fuel : Nat} (hfuel : ps.length ≤ fuel) (rest : Text) :
    firstRow fuel (Text.join [comma] ps ++ Text.lineFeed :: rest)
      = some (ps.map untilNull, rest) := by
  induction ps generalizing fuel with
  | nil => exact absurd rfl hne
  | cons p ps ih =>
    obtain ⟨fuel, rfl⟩ : ∃ n, fuel = n + 1 := ⟨fuel - 1, by simp at hfuel; omega⟩
    obtain ⟨hplain, hquote⟩ := hps p List.mem_cons_self
    cases ps with
    | nil =>
      have hfield : firstField (p ++ Text.lineFeed :: rest) = some (p, Text.lineFeed :: rest) :=
        firstField_append hplain hquote (by decide)
      rw [Text.join, firstRow, hfield]
      rfl
    | cons q ps =>
      have hrest := ih (fun r hr => hps r (List.mem_cons_of_mem _ hr)) (by simp)
        (Nat.le_of_succ_le_succ hfuel)
      have hfield :
          firstField (p ++ comma :: (Text.join [comma] (q :: ps) ++ Text.lineFeed :: rest))
            = some (p, comma :: (Text.join [comma] (q :: ps) ++ Text.lineFeed :: rest)) :=
        firstField_append hplain hquote (by decide)
      have hjoin : Text.join [comma] (p :: q :: ps) ++ Text.lineFeed :: rest
          = p ++ comma :: (Text.join [comma] (q :: ps) ++ Text.lineFeed :: rest) := by
        simp [Text.join]
      rw [hjoin, firstRow_of_comma hfield hrest]
      rfl

theorem firstRow_line (h : IsPlainRow t) {fuel : Nat} (hfuel : t.length < fuel) (rest : Text) :
    firstRow fuel (t ++ Text.lineFeed :: rest) = some (cellsOf t, rest) := by
  have hlength := Text.length_splitAt_le comma t
  have hpieces : ∀ p ∈ Text.splitAt comma t, (∀ g ∈ p, isPlain g = true) ∧ quoteMark ∉ p := by
    intro p hp
    refine ⟨?_, fun hquote => h.no_quote (Text.mem_of_mem_splitAt hp hquote).1⟩
    intro g hg
    obtain ⟨hmem, hne⟩ := Text.mem_of_mem_splitAt hp hg
    have hreturn : g ≠ Text.carriageReturn := fun heq => h.no_return (heq ▸ hmem)
    have hfeed : g ≠ Text.lineFeed := fun heq => h.no_feed (heq ▸ hmem)
    simp [isPlain, hne, hreturn, hfeed]
  have hfields := firstRow_join hpieces (Text.splitAt_ne_nil _ _)
    (show (Text.splitAt comma t).length ≤ fuel by omega) rest
  rwa [Text.join_splitAt] at hfields

/-- A line with a comma is not passed over. -/
theorem lineStart_append (h : IsPlainRow t) (rest : Text) :
    lineStart (t ++ Text.lineFeed :: rest) = .row := by
  have hne : t.dropWhile isLineBlank ≠ [] := by
    intro hnil
    have hall := List.dropWhile_eq_nil_iff.1 hnil comma h.comma_mem
    exact absurd hall (by decide)
  obtain ⟨g, s, hs⟩ := List.exists_cons_of_ne_nil hne
  have hmem : g ∈ t := (List.dropWhile_sublist _).mem (hs ▸ List.mem_cons_self)
  have hreturn : g ≠ Text.carriageReturn := fun heq => h.no_return (heq ▸ hmem)
  have hfeed : g ≠ Text.lineFeed := fun heq => h.no_feed (heq ▸ hmem)
  unfold lineStart
  rw [List.dropWhile_append, hs]
  simp only [List.isEmpty_cons, Bool.false_eq_true, if_false, List.cons_append]
  split <;> simp_all [Text.carriageReturn, Text.lineFeed]

/-- **Lines without quotes are read row by row.** -/
theorem rowsFrom_closeLines (h : ∀ t ∈ lines, IsPlainRow t) {fuel : Nat}
    (hfuel : lines.length + (closeLines lines).length ≤ fuel) (n : Nat) :
    rowsFrom fuel n (closeLines lines) (closeLines lines) = ⟨lines.map cellsOf, none⟩ := by
  induction lines generalizing fuel n with
  | nil => cases fuel <;> rfl
  | cons t lines ih =>
    have hsplit := closeLines_cons t lines
    have hlength := congrArg List.length hsplit
    rw [List.length_append, List.length_cons] at hlength
    rw [List.length_cons] at hfuel
    obtain ⟨fuel, rfl⟩ : ∃ n, fuel = n + 1 := ⟨fuel - 1, by omega⟩
    have hrow := firstRow_line (h t List.mem_cons_self) (show t.length < fuel + 1 by omega)
      (closeLines lines)
    rw [rowsFrom, hsplit, lineStart_append (h t List.mem_cons_self)]
    dsimp only
    rw [ite_self, hrow]
    dsimp only
    rw [ih (fun s hs => h s (List.mem_cons_of_mem _ hs)) (by omega)]
    rfl

theorem dropByteOrderMark_append (ht : t ≠ []) (rest : Text) :
    dropByteOrderMark (t ++ rest) = dropByteOrderMark t ++ rest := by
  obtain ⟨g, s, rfl⟩ := List.exists_cons_of_ne_nil ht
  by_cases hg : g = .char '\uFEFF'
  · rw [hg]
    rfl
  · have hkept : ∀ u, dropByteOrderMark (g :: u) = g :: u := by
      intro u
      unfold dropByteOrderMark
      split
      · next heq => exact absurd (List.cons.inj heq).1 hg
      · rfl
    rw [List.cons_append, hkept, hkept]
    rfl

theorem IsPlainRow.dropByteOrderMark (h : IsPlainRow t) :
    IsPlainRow (Csv.dropByteOrderMark t) := by
  unfold Csv.dropByteOrderMark
  split
  · next s =>
    obtain ⟨hcomma, hquote, hreturn, hfeed⟩ := h
    rw [List.mem_cons, not_or] at hquote hreturn hfeed
    exact ⟨(List.mem_cons.1 hcomma).resolve_left (by decide), hquote.2, hreturn.2, hfeed.2⟩
  · exact h

/-- **A table without quotes** has a row for each of its lines. -/
theorem read_closeLines {header : Text} (h : ∀ t ∈ header :: lines, IsPlainRow t) :
    read (closeLines (header :: lines))
      = ⟨cellsOf (dropByteOrderMark header) :: lines.map cellsOf, none⟩ := by
  obtain ⟨hheader, hlines⟩ := List.forall_mem_cons.1 h
  have hne : header ≠ [] := List.ne_nil_of_mem hheader.comma_mem
  have hbody : dropByteOrderMark (closeLines (header :: lines))
      = closeLines (dropByteOrderMark header :: lines) := by
    rw [closeLines_cons, dropByteOrderMark_append hne, closeLines_cons]
  have hcount : (dropByteOrderMark header :: lines).length
      ≤ (closeLines (dropByteOrderMark header :: lines)).length := by
    generalize dropByteOrderMark header :: lines = ts
    induction ts with
    | nil => simp
    | cons t ts ih =>
      rw [closeLines_cons, List.length_append, List.length_cons, List.length_cons]
      omega
  unfold read
  rw [hbody]
  refine rowsFrom_closeLines ?_ ?_ 0
  · exact List.forall_mem_cons.2 ⟨hheader.dropByteOrderMark, hlines⟩
  · generalize (closeLines (dropByteOrderMark header :: lines)).length = n at hcount ⊢
    nlinarith

/-- The cells of a line without a null character are its columns. -/
theorem untilNull_of_not_mem (h : .char '\x00' ∉ t) : untilNull t = t := by
  unfold untilNull
  rw [List.takeWhile_eq_self_iff]
  intro g hg
  rw [decide_eq_true_iff]
  rintro rfl
  exact h hg

end

/-! ## Integers in cells -/

section

variable {cell t : Text} {n : Numeral} {digits : List Nat}

/-- The glyphs of a numeral are digits, behind a sign or none. -/
theorem mem_of_ofAscii? (h : Numeral.ofAscii? cell = some n) {g : Glyph} (hg : g ∈ cell) :
    g = .char '+' ∨ g = .char '-' ∨ ∃ d, g.asciiDigit? = some d := by
  have hdigit : ∀ {cs : List Char}, (∀ c ∈ cs, c.isDigit = true) → g ∈ Text.ofChars cs →
      ∃ d, g.asciiDigit? = some d := by
    intro cs hcs hmem
    obtain ⟨c, hc, rfl⟩ := List.mem_map.1 hmem
    exact ⟨_, asciiDigit?_of_isDigit (hcs c hc)⟩
  have hwrites := exists_ofAscii?_iff.1 ⟨n, h, rfl⟩
  generalize n.value = v at hwrites
  cases hwrites with
  | unsigned _ hdigits => exact .inr (.inr (hdigit hdigits hg))
  | plus _ hdigits =>
    rcases List.mem_cons.1 hg with rfl | hg
    · exact .inl rfl
    · exact .inr (.inr (hdigit hdigits hg))
  | minus _ hdigits =>
    rcases List.mem_cons.1 hg with rfl | hg
    · exact .inr (.inl rfl)
    · exact .inr (.inr (hdigit hdigits hg))

/-- A numeral has neither a blank nor a null character. -/
theorem not_blank_of_ofAscii? (h : Numeral.ofAscii? cell = some n) {g : Glyph} (hg : g ∈ cell) :
    isCellBlank g = false ∧ g ≠ .char '\x00' := by
  rcases mem_of_ofAscii? h hg with rfl | rfl | ⟨d, hd⟩
  · decide
  · decide
  · have hnot : ∀ c, Glyph.asciiDigit? c = none → g ≠ c := by
      rintro c hc rfl
      rw [hc] at hd
      cases hd
    refine ⟨?_, hnot _ (by decide)⟩
    simp only [isCellBlank, Bool.or_eq_false_iff, decide_eq_false_iff_not]
    exact ⟨⟨⟨⟨⟨hnot _ (by decide), hnot _ (by decide)⟩, hnot _ (by decide)⟩, hnot _ (by decide)⟩,
      hnot _ (by decide)⟩, hnot _ (by decide)⟩

theorem untilNull_of_ofAscii? (h : Numeral.ofAscii? cell = some n) : untilNull cell = cell :=
  untilNull_of_not_mem fun hnull => (not_blank_of_ofAscii? h hnull).2 rfl

/-- No word for a missing value is a numeral. -/
theorem isMissing_of_ofAscii? (h : Numeral.ofAscii? cell = some n) : isMissing cell = false := by
  have hwords : ∀ word ∈ missingWords, Numeral.ofAscii? word = none := by decide +kernel
  rw [isMissing, Bool.eq_false_iff, ne_eq, List.contains_iff_mem]
  intro hmem
  rw [hwords cell hmem] at h
  cases h

theorem cellDigits_of_mapM (h : t.mapM Glyph.asciiDigit? = some digits) :
    cellDigits t = (digits, []) := by
  induction t generalizing digits with
  | nil =>
    cases h
    rfl
  | cons g t ih =>
    obtain ⟨d, ds, hd, hds, rfl⟩ := mapM_cons_eq_some_iff.1 h
    rw [cellDigits, hd]
    dsimp only
    rw [ih hds]

/-- **A numeral in a cell** is read as the integer that it writes, if that is in range. -/
theorem readWhole_of_ofAscii? (h : Numeral.ofAscii? cell = some n) {least greatest : Int}
    (hleast : least ≤ n.value) (hgreatest : n.value ≤ greatest) :
    readWhole least greatest cell = .value n.value := by
  have hblank : cell.dropWhile isCellBlank = cell := by
    cases cell with
    | nil => rfl
    | cons g cell =>
      rw [List.dropWhile_cons, (not_blank_of_ofAscii? h List.mem_cons_self).1]
      rfl
  unfold readWhole
  rw [hblank]
  unfold Numeral.ofAscii? at h
  rcases hsign : Numeral.splitSign cell with ⟨negative, body⟩
  rw [hsign] at h
  dsimp only at h ⊢
  cases hbody : body.mapM Glyph.asciiDigit? with
  | none => simp [hbody] at h
  | some digits =>
    cases digits with
    | nil => simp [hbody] at h
    | cons d ds =>
      rw [hbody] at h
      cases h
      have hvalue : (Numeral.mk negative (d :: ds)).value
          = if negative then -(digitsValue (d :: ds) : Int) else digitsValue (d :: ds) := rfl
      rw [hvalue] at hleast hgreatest ⊢
      rw [cellDigits_of_mapM hbody]
      dsimp only
      generalize (if negative then -(digitsValue (d :: ds) : Int) else digitsValue (d :: ds)) = v
        at hleast hgreatest ⊢
      simp [Int.not_lt.2 hleast, Int.not_lt.2 hgreatest]

end

/-! ## Columns of integers -/

namespace Column

/-- The column of some integers of a signed word, which is no column of numbers if there are
none. -/
def ofWords (ns : List Int) : Column :=
  ⟨if ns = [] then .mixed else .signedWords, ns.map fun n => .number (.whole n)⟩

/-- Cells that hold integers of a signed word make a column of them. -/
theorem ofCells_map {α : Type} {xs : List α} {cell : α → Text} {value : α → Int}
    (h : ∀ x ∈ xs, isMissing (cell x) = false
      ∧ readWhole leastSigned greatestSigned (cell x) = .value (value x)) :
    ofCells (xs.map cell) = .ok (ofWords (xs.map value)) := by
  have hsigned : signedCells (xs.map cell) = .ok (xs.map fun x => some (value x)) := by
    induction xs with
    | nil => rfl
    | cons x xs ih =>
      obtain ⟨hx, hxs⟩ := List.forall_mem_cons.1 h
      rw [List.map_cons, signedCells, hx.1, if_neg (by simp), hx.2, ih hxs]
      rfl
  unfold ofCells
  rw [hsigned]
  cases xs with
  | nil => rfl
  | cons x xs =>
    have hnone : ((x :: xs).map fun x => some (value x)).contains none = false := by
      rw [Bool.eq_false_iff, ne_eq, List.contains_iff_mem]
      simp
    show Except.ok (ofSigned ((x :: xs).map fun x => some (value x))) = _
    rw [ofSigned, hnone]
    simp [ofWords, wholeValues]

/-- Columns of integers one after the other keep their values. -/
theorem values_append_ofWords (ns ms : List Int) :
    ((ofWords ns).append (ofWords ms)).values = (ns ++ ms).map fun n => .number (.whole n) := by
  have hkept : ∀ kind, kind = .signedWords ∨ kind = .mixed → ∀ l : List Int,
      (l.map fun n => CellValue.number (.whole n)).map (valueAs kind)
        = l.map fun n => .number (.whole n) := by
    rintro _ (rfl | rfl) l <;> simp [valueAs, CellValue.toWhole]
  unfold append
  dsimp only
  rw [show (ofWords ns).values ++ (ofWords ms).values
    = (ns ++ ms).map fun n => CellValue.number (.whole n) by simp [ofWords]]
  apply hkept
  by_cases hns : ns = [] <;> by_cases hms : ms = [] <;> simp [ofWords, hns, hms, joinedKind]

end Column

/-! ## Texts in cells -/

/-- **When a cell is a text.**  A cell that is read again from its own bytes must consist of
characters. -/
theorem exists_readText_iff {cell : Text} (hcell : Text.decode cell.encode = cell) :
    (∃ v, readText cell = .ok v) ↔ ∀ g ∈ cell, g.isChar = true := by
  rw [← Text.firstStray?_eq_none_iff cell 0]
  unfold readText Text.decodeStrict
  rw [hcell]
  dsimp only
  cases hstray : Text.firstStray? 0 cell with
  | none => exact ⟨fun _ => rfl, fun _ => ⟨_, rfl⟩⟩
  | some found =>
    obtain ⟨place, rest⟩ := found
    obtain ⟨b, more, hbytes⟩ := List.exists_cons_of_ne_nil (Text.encode_firstStray?_ne_nil hstray)
    dsimp only
    rw [hbytes]
    refine ⟨?_, fun h => by cases h⟩
    rintro ⟨v, hv⟩
    cases hv

end Csv

end PhaseSplit
