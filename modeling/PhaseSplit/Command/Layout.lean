import PhaseSplit.Command.Wrap

/-!
# Pages of help

A page of help is set for a width.  It starts with the usage of a command, which is broken between
its parts; then come sections of entries, whose names stand on the left and whose explanations stand
in a column of their own, as far to the left as the longest name allows.

* `Usage.lines` — the lines of a usage;
* `HelpEntry.lines` — the lines of an entry;
* `HelpPage.lines` — the lines of a page.
-/

namespace PhaseSplit

/-- A number of spaces. -/
def spaces (n : Nat) : Text := List.replicate n (.char ' ')

/-- Words on one line. -/
def spaced (words : List Text) : Text := Text.join (Text.lit " ") words

/-- The text of some lines, each closed by a line feed. -/
def textOfLines (lines : List Text) : Text := lines.flatMap (· ++ Text.lit "\n")

/-! ## Usage -/

/-- How a command is called: its name, its options, and what follows them, in parts that are not
broken. -/
structure Usage where
  title : Text
  options : List Text
  operands : List Text

namespace Usage

/-- The word at the start of a usage. -/
def start : Text := Text.lit "usage: "

/-- Parts in rows, after those in the row `row`, which ends in the column `column`.  A row goes on
as long as there is room for the next part, and new rows start in the column `indent`. -/
def rowsFrom (width indent : Nat) : (row : List Text) → (column : Nat) → List Text → List (List Text)
  | row, _, [] => if row = [] then [] else [row]
  | row, column, part :: parts =>
    if row ≠ [] ∧ width < column + part.length then
      row :: rowsFrom width indent [part] (indent + part.length + 1) parts
    else rowsFrom width indent (row ++ [part]) (column + part.length + 1) parts

/-- Parts in rows that start in the column `indent`. -/
def rows (width indent : Nat) (parts : List Text) : List (List Text) :=
  rowsFrom width indent [] indent parts

/-- The lines of a usage after a short title. -/
def linesAfterTitle (width : Nat) (u : Usage) : List Text :=
  let indent := start.length + u.title.length + 1
  let below := fun row => spaces indent ++ spaced row
  match rowsFrom width indent [] start.length (u.title :: u.options) with
  | [] => []
  | first :: rest =>
    (start ++ spaced first) :: (rest ++ rows width indent u.operands).map below

/-- The lines of a usage below a long title. -/
def linesBelowTitle (width : Nat) (u : Usage) : List Text :=
  let indent := start.length
  let together := rows width indent (u.options ++ u.operands)
  let apart := rows width indent u.options ++ rows width indent u.operands
  let below := fun row => spaces indent ++ spaced row
  (start ++ u.title) :: (if together.length ≤ 1 then together else apart).map below

/-- The lines of a usage.  A title is short if it leaves a quarter of the width. -/
def lines (width : Nat) (u : Usage) : List Text :=
  let whole := start ++ spaced (u.title :: u.options ++ u.operands)
  if whole.length ≤ width then [whole]
  else if 4 * (start.length + u.title.length) ≤ 3 * width then u.linesAfterTitle width
  else u.linesBelowTitle width

end Usage

/-! ## Entries -/

/-- An entry of a page: how far its name is indented, its name, and its explanation. -/
structure HelpEntry where
  indent : Nat
  name : Text
  words : Text

namespace HelpEntry

/-- The least width of explanations. -/
def leastWidth : Nat := 11

/-- The lines of an entry whose explanation stands in a column.  A long name stands on a line of its
own. -/
def lines (width column : Nat) (e : HelpEntry) : List Text :=
  let words := Paragraph.wrap (max (width - column) leastWidth) e.words
  let room := column - e.indent - 2
  let name := spaces e.indent ++ e.name
  let below := words.map (spaces column ++ ·)
  if e.name.length ≤ room then
    (name ++ spaces (room - e.name.length + 2) ++ words.headD []) :: below.tail
  else name :: below

end HelpEntry

/-! ## Pages -/

/-- A section of a page: its heading and its entries. -/
structure HelpSection where
  heading : String
  entries : List HelpEntry

/-- A page of help: the usage, what is said before the sections, the sections, and what is said
after them. -/
structure HelpPage where
  usage : Usage
  preface : List Text
  sections : List HelpSection
  afterword : List Text

namespace HelpPage

/-- The indent of the entries of a section. -/
def entryIndent : Nat := 2

/-- The columns in which explanations stand: the least, and the greatest. -/
def leastColumn : Nat := 4

/-- The greatest column in which explanations stand. -/
def greatestColumn : Nat := 24

/-- The width that is kept for explanations where possible. -/
def keptWidth : Nat := 20

/-- The column in which the explanations of a page stand. -/
def column (width : Nat) (p : HelpPage) : Nat :=
  let names := p.sections.flatMap fun s => s.entries.map fun e => e.name.length + entryIndent
  min (names.foldl max 0 + 2) (min greatestColumn (max (width - keptWidth) leastColumn))

/-- The lines of a section. -/
def sectionLines (width column : Nat) (s : HelpSection) : List Text :=
  (Text.lit s.heading ++ Text.lit ":") :: s.entries.flatMap (·.lines width column)

/-- The lines of a page, with an empty line between its parts. -/
def lines (width : Nat) (p : HelpPage) : List Text :=
  let parts := [p.usage.lines width, p.preface]
    ++ p.sections.map (sectionLines width (p.column width)) ++ [p.afterword]
  List.intercalate [[]] (parts.filter (· ≠ []))

end HelpPage

end PhaseSplit
