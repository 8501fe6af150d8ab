import PhaseSplit.Csv.Writer

/-!
# Reading tables of texts

Rows end at a line feed, at a carriage return, or at the two together; lines of nothing but blanks
are passed over, and with one that ends at a carriage return a comma after it.  A field that starts
with a quote runs to the quote that closes it, and what stands between that quote and the next comma
belongs to it.

Blanks before the first field of a line put reading back to where the last row or the last line feed
ended: the lines that were passed over since then are read again, now as rows.

* `Csv.read` — the rows of a text, up to a quote that is left open.
-/

namespace PhaseSplit.Csv

/-- Whether a glyph belongs to a field without quotes. -/
def isPlain (g : Glyph) : Bool :=
  g ≠ comma && g ≠ Text.lineFeed && g ≠ Text.carriageReturn

/-- The part of a text up to the end of a field without quotes, and what follows. -/
def plainField (t : Text) : Text × Text := (t.takeWhile isPlain, t.dropWhile isPlain)

/-- The field whose opening quote has been read, and what follows it. -/
def quotedField : Text → Option (Text × Text)
  | [] => none
  | .char '"' :: .char '"' :: t =>
    (quotedField t).map fun (field, rest) => (quoteMark :: field, rest)
  | .char '"' :: t => some (plainField t)
  | g :: t => (quotedField t).map fun (field, rest) => (g :: field, rest)

/-- The field at the start of a text, and what follows it. -/
def firstField : Text → Option (Text × Text)
  | .char '"' :: t => quotedField t
  | t => some (plainField t)

/-- What follows a line end. -/
def afterLineEnd : Text → Text
  | .char '\r' :: .char '\n' :: t => t
  | .char '\r' :: t => t
  | .char '\n' :: t => t
  | t => t

/-- A field up to the first null character, which ends it. -/
def untilNull (field : Text) : Text := field.takeWhile (· ≠ .char '\x00')

/-- The fields of the row at the start of a text, and what follows the row; `fuel` bounds their
number. -/
def firstRow : (fuel : Nat) → Text → Option (List Text × Text)
  | 0, t => some ([], t)
  | fuel + 1, t => do
    match ← firstField t with
    | (field, .char ',' :: rest) =>
      let (fields, rest) ← firstRow fuel rest
      some (untilNull field :: fields, rest)
    | (field, rest) => some ([untilNull field], afterLineEnd rest)

/-! ## Blank lines -/

/-- Whether a glyph is a blank within a line. -/
def isLineBlank (g : Glyph) : Bool := g = .char ' ' || g = .char '\t'

/-- What stands at the start of a line: nothing any more, a blank line with what follows it and
whether that is behind a line feed, or a row. -/
inductive LineStart
  | finished
  | blank (isFeed : Bool) (rest : Text)
  | row

/-- What the start of a text is, taken as the start of a line. -/
def lineStart (t : Text) : LineStart :=
  match t.dropWhile isLineBlank with
  | [] => .finished
  | .char '\n' :: rest => .blank true rest
  | .char '\r' :: .char '\n' :: rest => .blank true rest
  | .char '\r' :: .char ',' :: rest => .blank false rest
  | .char '\r' :: rest => .blank false rest
  | _ => .row

/-! ## Rows -/

/-- The rows of a text, and if a quote is left open the number of lines before its row. -/
structure Rows where
  complete : List (List Text)
  openQuote : Option Nat
  deriving DecidableEq

/-- A row before others. -/
def Rows.after (fields : List Text) (r : Rows) : Rows :=
  { r with complete := fields :: r.complete }

/-- The rows of the text `t` at the start of a line, of which `line` lines have been read.  Blank
lines since the last row or line feed are part of `again`, from which reading goes on where `t`
starts with blanks; `fuel` bounds the number of steps. -/
def rowsFrom : (fuel line : Nat) → (again t : Text) → Rows
  | 0, _, _, _ => ⟨[], none⟩
  | fuel + 1, line, again, t =>
    match lineStart t with
    | .finished => ⟨[], none⟩
    | .blank isFeed rest => rowsFrom fuel (line + 1) (if isFeed then rest else again) rest
    | .row =>
      match firstRow (fuel + 1) (if t.head?.any isLineBlank then again else t) with
      | none => ⟨[], some line⟩
      | some (fields, rest) => (rowsFrom fuel (line + 1) rest rest).after fields

/-- A text without a byte order mark at its start. -/
def dropByteOrderMark : Text → Text
  | .char '\uFEFF' :: t => t
  | t => t

/-- The rows of a text. -/
def read (t : Text) : Rows :=
  let body := dropByteOrderMark t
  rowsFrom ((body.length + 1) * (body.length + 1)) 0 body body

end PhaseSplit.Csv
