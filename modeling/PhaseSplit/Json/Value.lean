import PhaseSplit.Number.Binary64
import PhaseSplit.Text.Glyph

/-!
# JSON values

A number written without point and exponent is an integer of any size; every other number is
binary.  The members of an object keep their order, and a name occurs once.

* `Json` — the values;
* `Json.Members.put` — a member added, or replaced where it stands;
* `Json.member?` — the value of a member;
* `Json.height` — how deep values stand inside each other.
-/

namespace PhaseSplit

/-- A JSON value. -/
inductive Json
  | null
  | bool (b : Bool)
  | int (n : Int)
  | float (x : Binary64)
  | str (t : Text)
  | array (items : List Json)
  | object (members : List (Text × Json))

namespace Json

/-- The members of an object. -/
abbrev Members := List (Text × Json)

/-- The members with `value` under `name`: in the place of an earlier value, else at the end. -/
def Members.put (name : Text) (value : Json) : Members → Members
  | [] => [(name, value)]
  | (n, v) :: rest =>
    if n = name then (n, value) :: rest else (n, v) :: Members.put name value rest

/-- The value under a name. -/
def Members.get? (name : Text) (members : Members) : Option Json :=
  (members.find? (·.1 = name)).map (·.2)

/-- The value under a name, if the value is an object that has it. -/
def member? (name : String) : Json → Option Json
  | .object members => Members.get? (Text.lit name) members
  | _ => none

mutual

/-- The number of levels of values inside a value. -/
def height : Json → Nat
  | .array items => itemsHeight items
  | .object members => membersHeight members
  | _ => 0

/-- The number of levels of some items. -/
def itemsHeight : List Json → Nat
  | [] => 0
  | item :: items => max (height item + 1) (itemsHeight items)

/-- The number of levels of some members. -/
def membersHeight : List (Text × Json) → Nat
  | [] => 0
  | (_, value) :: members => max (height value + 1) (membersHeight members)

end

end Json

end PhaseSplit
