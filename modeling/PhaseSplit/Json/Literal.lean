import PhaseSplit.Json.Value
import PhaseSplit.Number.Layout
import PhaseSplit.Text.Quoted

/-!
# Literals of JSON values

The form in which a value shows in a cell of a table, and the words for the kinds of values.

* `Json.cellText` — a string as it is, every other value as a literal;
* `Json.kindName` — the word for the kind of a value.
-/

namespace PhaseSplit.Json

mutual

/-- The literal of a value. -/
def literal : Json → Text
  | .null => Text.lit "None"
  | .bool b => if b then Text.lit "True" else Text.lit "False"
  | .int n => Text.ofInt n
  | .float x => x.text
  | .str t => t.quoted
  | .array items => Text.lit "[" ++ itemLiterals items ++ Text.lit "]"
  | .object members => Text.lit "\x7b" ++ memberLiterals members ++ Text.lit "\x7d"

/-- The literals of items, with commas between them. -/
def itemLiterals : List Json → Text
  | [] => []
  | [item] => literal item
  | item :: items => literal item ++ Text.lit ", " ++ itemLiterals items

/-- The literals of members, with commas between them. -/
def memberLiterals : List (Text × Json) → Text
  | [] => []
  | [(name, value)] => name.quoted ++ Text.lit ": " ++ literal value
  | (name, value) :: members =>
    name.quoted ++ Text.lit ": " ++ literal value ++ Text.lit ", " ++ memberLiterals members

end

/-- A value as the text of a cell. -/
def cellText : Json → Text
  | .str t => t
  | v => v.literal

/-- The word for the kind of a value. -/
def kindName : Json → String
  | .null => "NoneType"
  | .bool _ => "bool"
  | .int _ => "int"
  | .float _ => "float"
  | .str _ => "str"
  | .array _ => "list"
  | .object _ => "dict"

end PhaseSplit.Json
