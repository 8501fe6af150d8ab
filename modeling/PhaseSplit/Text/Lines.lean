import PhaseSplit.Text.Glyph

/-!
# Lines

A line ends at a line feed, at a carriage return, or at the two together; nothing else ends one.

* `Text.unifyBreaks` — the three line ends written as a line feed;
* `Text.lines` — the lines of a text, each with its line feed, the last perhaps without;
* `Text.stripTerminator` — a line without its line end.
-/

namespace PhaseSplit.Text

/-- The line feed. -/
def lineFeed : Glyph := .char '\n'

/-- The carriage return. -/
def carriageReturn : Glyph := .char '\r'

/-- The text with every line end written as a line feed. -/
def unifyBreaks : Text → Text
  | [] => []
  | .char '\r' :: .char '\n' :: t => lineFeed :: unifyBreaks t
  | .char '\r' :: t => lineFeed :: unifyBreaks t
  | g :: t => g :: unifyBreaks t

/-- The text cut after every line feed. -/
def cutAfterFeeds : Text → List Text
  | [] => []
  | g :: t =>
    if g = lineFeed then [g] :: cutAfterFeeds t
    else
      match cutAfterFeeds t with
      | [] => [[g]]
      | l :: ls => (g :: l) :: ls

/-- The lines of a text, each closed by a line feed except perhaps the last. -/
def lines (t : Text) : List Text := cutAfterFeeds (unifyBreaks t)

/-- The text without a last glyph `g`. -/
def dropLastIf (g : Glyph) (t : Text) : Text :=
  if t.getLast? = some g then t.dropLast else t

/-- A line without its line end. -/
def stripTerminator (t : Text) : Text := dropLastIf carriageReturn (dropLastIf lineFeed t)

end PhaseSplit.Text
