import PhaseSplit.Text.Glyph
import PhaseSplit.Text.Ranges

/-!
# Blanks

The characters that may surround a number.

* `Glyph.isBlank` — the property;
* `Text.trim` — a text without the blanks at its two ends.
-/

namespace PhaseSplit

/-- The code points of the blanks: the spaces and line ends of Unicode, without the four
information separators. -/
def blankRanges : CodeRanges :=
  [(9, 13), (32, 32), (133, 133), (160, 160), (5760, 5760), (8192, 8202), (8232, 8233),
   (8239, 8239), (8287, 8287), (12288, 12288)]

/-- Whether a glyph is a blank. -/
def Glyph.isBlank : Glyph → Bool
  | .char c => blankRanges.contains c.toNat
  | _ => false

/-- A text without the blanks at its two ends. -/
def Text.trim (t : Text) : Text :=
  ((t.dropWhile Glyph.isBlank).reverse.dropWhile Glyph.isBlank).reverse

end PhaseSplit
