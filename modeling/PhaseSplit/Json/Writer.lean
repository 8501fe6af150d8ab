import PhaseSplit.Json.Value
import PhaseSplit.Number.Layout

/-!
# Writing JSON

Values as ASCII text.  With an indent every item and member stands on a line of its own; without
one the whole value stands on one line.

* `Json.write` — the text of a value.
-/

namespace PhaseSplit.Json

/-- The escape of one code unit. -/
def unitEscape (unit : Nat) : List Char := '\\' :: 'u' :: hexDigits 4 unit

/-- The characters of a code in a string: a pair of escapes beyond the first 65536 codes. -/
def codeEscape (code : Nat) : List Char :=
  if code < 0x10000 then unitEscape code
  else
    unitEscape (0xD800 + (code - 0x10000) / 0x400) ++ unitEscape (0xDC00 + (code - 0x10000) % 0x400)

/-- The characters of a glyph in a string. -/
def glyphChars : Glyph → List Char
  | .char '"' => ['\\', '"']
  | .char '\\' => ['\\', '\\']
  | .char '\n' => ['\\', 'n']
  | .char '\r' => ['\\', 'r']
  | .char '\t' => ['\\', 't']
  | .char '\x08' => ['\\', 'b']
  | .char '\x0c' => ['\\', 'f']
  | g =>
    match g with
    | .char c => if 32 ≤ c.toNat && c.toNat < 127 then [c] else codeEscape c.toNat
    | g => unitEscape g.code

/-- A text as a JSON string. -/
def stringChars (t : Text) : List Char := '"' :: t.flatMap glyphChars ++ ['"']

/-- A number as JSON text. -/
def floatChars : Binary64 → List Char
  | .nan => "NaN".toList
  | .infinite s => if s then "-Infinity".toList else "Infinity".toList
  | x => x.text.shown

/-- The start of a line at a depth, where the value has an indent. -/
def lineStart (indent : Option Nat) (depth : Nat) : List Char :=
  match indent with
  | none => []
  | some width => '\n' :: List.replicate (width * depth) ' '

/-- What stands between items. -/
def separator (indent : Option Nat) (depth : Nat) : List Char :=
  match indent with
  | none => [',', ' ']
  | some _ => ',' :: lineStart indent depth

mutual

/-- The characters of a value at a depth. -/
def chars (indent : Option Nat) (depth : Nat) : Json → List Char
  | .null => "null".toList
  | .bool b => if b then "true".toList else "false".toList
  | .int n => (Text.ofInt n).shown
  | .float x => floatChars x
  | .str t => stringChars t
  | .array [] => ['[', ']']
  | .array items =>
    '[' :: lineStart indent (depth + 1) ++ itemChars indent (depth + 1) items
      ++ lineStart indent depth ++ [']']
  | .object [] => ['\x7b', '\x7d']
  | .object members =>
    '\x7b' :: lineStart indent (depth + 1) ++ memberChars indent (depth + 1) members
      ++ lineStart indent depth ++ ['\x7d']

/-- The characters of items at a depth. -/
def itemChars (indent : Option Nat) (depth : Nat) : List Json → List Char
  | [] => []
  | [item] => chars indent depth item
  | item :: items => chars indent depth item ++ separator indent depth ++ itemChars indent depth items

/-- The characters of members at a depth. -/
def memberChars (indent : Option Nat) (depth : Nat) : List (Text × Json) → List Char
  | [] => []
  | [(name, value)] => stringChars name ++ ':' :: ' ' :: chars indent depth value
  | (name, value) :: members =>
    stringChars name ++ ':' :: ' ' :: chars indent depth value
      ++ separator indent depth ++ memberChars indent depth members

end

/-- The text of a value, on one line or with an indent. -/
def write (indent : Option Nat) (value : Json) : List Char := chars indent 0 value

end PhaseSplit.Json
