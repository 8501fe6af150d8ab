import PhaseSplit.Text.Glyph
import PhaseSplit.Text.Printable

/-!
# Quoted texts

A text between quotes, as messages show it.  The quote is single unless the text holds a single
quote and no double one; the quote and the backslash are escaped, and every glyph that does not
show is written as a number.

* `Text.quoted` — the quoted text.
-/

namespace PhaseSplit

/-- The escape of a code by its hexadecimal digits: two, four or eight of them. -/
def escapeCode (code : Nat) : List Char :=
  if code < 0x100 then '\\' :: 'x' :: hexDigits 2 code
  else if code < 0x10000 then '\\' :: 'u' :: hexDigits 4 code
  else '\\' :: 'U' :: hexDigits 8 code

/-- The characters that stand for a glyph between quotes. -/
def Glyph.quoted (quote : Char) : Glyph → List Char
  | .char c =>
    if c = quote || c = '\\' then ['\\', c]
    else if c = '\n' then ['\\', 'n']
    else if c = '\r' then ['\\', 'r']
    else if c = '\t' then ['\\', 't']
    else if isPrintable c then [c]
    else escapeCode c.toNat
  | g => escapeCode g.code

/-- The quote that a text is put between. -/
def Text.quoteFor (t : Text) : Char :=
  if t.contains (.char '\'') && !t.contains (.char '"') then '"' else '\''

/-- A text between quotes. -/
def Text.quoted (t : Text) : Text :=
  let quote := t.quoteFor
  Text.ofChars (quote :: t.flatMap (Glyph.quoted quote) ++ [quote])

end PhaseSplit
