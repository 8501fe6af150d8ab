import PhaseSplit.Text.Lines

/-!
# Writing tables of texts

A row stands on a line, its fields with commas between them.  A field that holds a comma, a quote
or a line feed stands between quotes, and a quote in it is written twice.

* `Csv.row` — the line of a row.
-/

namespace PhaseSplit.Csv

/-- The comma between fields. -/
def comma : Glyph := .char ','

/-- The quote around a field. -/
def quoteMark : Glyph := .char '"'

/-- Whether a field has to stand between quotes. -/
def needsQuotes (field : Text) : Bool :=
  field.any fun g => g = comma || g = quoteMark || g = Text.lineFeed

/-- A text with every quote written twice. -/
def doubleQuotes (t : Text) : Text :=
  t.flatMap fun g => if g = quoteMark then [g, g] else [g]

/-- A field as it stands in a row. -/
def field (t : Text) : Text :=
  if needsQuotes t then quoteMark :: doubleQuotes t ++ [quoteMark] else t

/-- The line of a row. -/
def row (fields : List Text) : Text := Text.join [comma] (fields.map field) ++ [Text.lineFeed]

end PhaseSplit.Csv
