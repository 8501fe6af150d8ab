import PhaseSplit.Json.Value
import PhaseSplit.Number.Decimal
import PhaseSplit.Text.Integer

/-!
# Reading JSON

A reader that refuses with a reason and a place.  It takes more than the standard in three points:
the words for infinities and for no number are numbers, a number too large is an infinity, and half
of a surrogate pair may stand alone.  It takes less in one: collections stand inside each other only
as deep as there is room.

* `Json.read` — the value that a whole text writes;
* `Json.ReadFault` — why a text is refused, and where.
-/

namespace PhaseSplit.Json

/-! ## Faults -/

/-- Why a text is no JSON value. -/
inductive Reason
  | expectingValue
  | expectingName
  | expectingColon
  | expectingComma
  | invalidEscape
  | invalidUnicodeEscape
  | invalidControl
  | unterminated
  | extraData
  | byteOrderMark
  | arrayTooDeep
  | objectTooDeep
  deriving DecidableEq

/-- The words for a reason. -/
def Reason.message : Reason → String
  | .expectingValue => "Expecting value"
  | .expectingName => "Expecting property name enclosed in double quotes"
  | .expectingColon => "Expecting ':' delimiter"
  | .expectingComma => "Expecting ',' delimiter"
  | .invalidEscape => "Invalid \\escape"
  | .invalidUnicodeEscape => "Invalid \\uXXXX escape"
  | .invalidControl => "Invalid control character at"
  | .unterminated => "Unterminated string starting at"
  | .extraData => "Extra data"
  | .byteOrderMark => "Unexpected UTF-8 BOM (decode using utf-8-sig)"
  | .arrayTooDeep =>
    "maximum recursion depth exceeded while decoding a JSON array from a unicode string"
  | .objectTooDeep =>
    "maximum recursion depth exceeded while decoding a JSON object from a unicode string"

/-- Whether a reason is told with a place. -/
def Reason.isPlaced : Reason → Bool
  | .arrayTooDeep | .objectTooDeep => false
  | _ => true

/-- Why reading stopped, with the number of characters that were left. -/
inductive Stop
  | fault (reason : Reason) (left : Nat)
  | tooManyDigits (count : Nat)

/-- Why a text is refused: a reason with the offset, line and column of its place, or an integer
that is not converted. -/
inductive ReadFault
  | fault (reason : Reason) (offset line column : Nat)
  | tooManyDigits (count : Nat)
  deriving DecidableEq

/-- The words for a refusal. -/
def ReadFault.message : ReadFault → Text
  | .fault reason offset line column =>
    let place :=
      Text.lit ": line " ++ Text.ofNat line ++ Text.lit " column " ++ Text.ofNat column
        ++ Text.lit " (char " ++ Text.ofNat offset ++ Text.lit ")"
    Text.lit reason.message ++ if reason.isPlaced then place else []
  | .tooManyDigits count => (IntegerFault.tooManyDigits count).message

/-- The reader stops here. -/
def stop {α : Type} (reason : Reason) (rest : List Char) : Except Stop α :=
  .error (.fault reason rest.length)

/-! ## Blanks and strings -/

/-- The characters between tokens. -/
def isGap (c : Char) : Bool := c = ' ' || c = '\t' || c = '\n' || c = '\r'

/-- The characters left after a gap. -/
def skipGap (cs : List Char) : List Char := cs.dropWhile isGap

/-- The value of a hexadecimal digit. -/
def hexValue? (c : Char) : Option Nat :=
  if c.isDigit then some (c.toNat - 48)
  else if 'a' ≤ c && c ≤ 'f' then some (c.toNat - 87)
  else if 'A' ≤ c && c ≤ 'F' then some (c.toNat - 55)
  else none

/-- The number of four hexadecimal digits. -/
def hexQuad? (a b c d : Char) : Option Nat := do
  let a ← hexValue? a
  let b ← hexValue? b
  let c ← hexValue? c
  let d ← hexValue? d
  some (((a * 16 + b) * 16 + c) * 16 + d)

/-- The character that one letter after a backslash stands for. -/
def shortEscape? : Char → Option Char
  | '"' => some '"'
  | '\\' => some '\\'
  | '/' => some '/'
  | 'b' => some '\x08'
  | 'f' => some '\x0c'
  | 'n' => some '\n'
  | 'r' => some '\r'
  | 't' => some '\t'
  | _ => none

/-- The code unit of the four digits after the letter that starts `fromU`; the string goes on after
them. -/
def readUnit (fromU : List Char) : Except Stop Nat :=
  match fromU with
  | _ :: a :: b :: c :: d :: _ :: _ =>
    match hexQuad? a b c d with
    | some u => .ok u
    | none => stop .invalidUnicodeEscape fromU
  | _ => stop .invalidUnicodeEscape fromU

/-- The low surrogate that the characters after a high one escape, if they do; a `u` after a
backslash with something else than four digits is refused. -/
def readPartner (rest : List Char) : Except Stop (Option Nat) :=
  match rest with
  | '\\' :: 'u' :: a :: b :: c :: d :: _ :: _ =>
    match hexQuad? a b c d with
    | none => stop .invalidUnicodeEscape (rest.drop 1)
    | some low => .ok (if 0xDC00 ≤ low && low ≤ 0xDFFF then some low else none)
  | _ => .ok none

/-- The glyph of the escape that `cs` starts with, and the number of its characters. -/
def readEscape (opening cs : List Char) : Except Stop (Glyph × Nat) :=
  match cs with
  | _ :: 'u' :: rest => do
    let high ← readUnit ('u' :: rest)
    if 0xD800 ≤ high && high ≤ 0xDBFF then
      match ← readPartner (rest.drop 4) with
      | some low =>
        .ok (.char (Char.ofNat (0x10000 + (high - 0xD800) * 0x400 + (low - 0xDC00))), 12)
      | none => .ok (.ofUnit high, 6)
    else .ok (.ofUnit high, 6)
  | _ :: c :: _ =>
    match shortEscape? c with
    | some e => .ok (.char e, 2)
    | none => stop .invalidEscape cs
  | _ => stop .unterminated opening

/-- The text of a string whose opening quote starts `opening`, read from within it; the first
`skipped` characters belong to an escape that has been read. -/
def readString (opening : List Char) : (skipped : Nat) → List Char → Except Stop (Text × List Char)
  | _, [] => stop .unterminated opening
  | skipped + 1, _ :: rest => readString opening skipped rest
  | 0, c :: rest =>
    if c = '"' then .ok ([], rest)
    else if c = '\\' then do
      let (g, width) ← readEscape opening (c :: rest)
      let (t, rest) ← readString opening (width - 1) rest
      .ok (g :: t, rest)
    else if c.toNat < 0x20 then stop .invalidControl (c :: rest)
    else do
      let (t, rest) ← readString opening 0 rest
      .ok (.char c :: t, rest)

/-! ## Numbers -/

/-- The digits at the start, and what follows. -/
def spanDigits (cs : List Char) : List Char × List Char := cs.span Char.isDigit

/-- The values of digit characters. -/
def digitValues (cs : List Char) : List Nat := cs.map (·.toNat - 48)

/-- The whole part of a number: a zero, or digits that do not start with one. -/
def wholePart? : List Char → Option (List Char × List Char)
  | '0' :: rest => some (['0'], rest)
  | c :: rest => if c.isDigit then some (spanDigits (c :: rest)) else none
  | [] => none

/-- The digits after a point, if at least one follows it. -/
def fractionPart? : List Char → Option (List Char × List Char)
  | '.' :: c :: rest => if c.isDigit then some (spanDigits (c :: rest)) else none
  | _ => none

/-- The sign and digits of a power of ten, if at least one digit follows the letter. -/
def exponentPart? : List Char → Option (Int × List Char)
  | e :: rest =>
    if e = 'e' || e = 'E' then
      let (negative, body) :=
        match rest with
        | '-' :: body => (true, body)
        | '+' :: body => (false, body)
        | body => (false, body)
      match spanDigits body with
      | ([], _) => none
      | (ds, rest) =>
        let n : Int := digitsValue (digitValues ds)
        some (if negative then -n else n, rest)
    else none
  | [] => none

/-- The number of digits and a power of ten. -/
def floatOf (negative : Bool) (whole fraction : List Char) (exponent : Int) : Binary64 :=
  let digits := digitValues (whole ++ fraction)
  Decimal.nearest negative digits.length ⟨digitsValue digits, exponent - fraction.length⟩

/-- The number at the start; none where there is no number. -/
def readNumber? (cs : List Char) : Option (Except Stop (Json × List Char)) := do
  let (negative, body) :=
    match cs with
    | '-' :: body => (true, body)
    | body => (false, body)
  let (whole, rest) ← wholePart? body
  let fraction := fractionPart? rest
  let rest := (fraction.map (·.2)).getD rest
  let exponent := exponentPart? rest
  let rest := (exponent.map (·.2)).getD rest
  match fraction, exponent with
  | none, none =>
    match Numeral.toInt ⟨negative, digitValues whole⟩ with
    | .ok n => some (.ok (.int n, rest))
    | .error _ => some (.error (.tooManyDigits whole.length))
  | _, _ =>
    let float := floatOf negative whole ((fraction.map (·.1)).getD []) ((exponent.map (·.1)).getD 0)
    some (.ok (.float float, rest))

/-! ## Values -/

/-- The words that are values. -/
def words : List (List Char × Json) :=
  [("null".toList, .null), ("true".toList, .bool true), ("false".toList, .bool false),
    ("NaN".toList, .float .nan), ("Infinity".toList, .float (.infinite false)),
    ("-Infinity".toList, .float (.infinite true))]

/-- The word at the start. -/
def readWord? (cs : List Char) : Option (Json × List Char) :=
  words.findSome? fun (word, value) =>
    if word.isPrefixOf cs then some (value, cs.drop word.length) else none

mutual

/-- The value at the start, and what follows; there is room for `room` collections inside each
other. -/
def readValue : (room fuel : Nat) → List Char → Except Stop (Json × List Char)
  | _, 0, cs => stop .expectingValue cs
  | room, fuel + 1, cs =>
    match cs with
    | '"' :: rest => do
      let (t, rest) ← readString cs 0 rest
      .ok (.str t, rest)
    | '\x7b' :: rest =>
      match room with
      | 0 => stop .objectTooDeep cs
      | room + 1 => do
        let rest := skipGap rest
        match rest with
        | '\x7d' :: rest => .ok (.object [], rest)
        | _ =>
          let (members, rest) ← readMembers room fuel [] rest
          .ok (.object members, rest)
    | '[' :: rest =>
      match room with
      | 0 => stop .arrayTooDeep cs
      | room + 1 => do
        let rest := skipGap rest
        match rest with
        | ']' :: rest => .ok (.array [], rest)
        | _ =>
          let (items, rest) ← readItems room fuel rest
          .ok (.array items, rest)
    | _ =>
      match readWord? cs with
      | some result => .ok result
      | none => (readNumber? cs).getD (stop .expectingValue cs)

/-- The items of an array up to its closing bracket. -/
def readItems : (room fuel : Nat) → List Char → Except Stop (List Json × List Char)
  | _, 0, cs => stop .expectingValue cs
  | room, fuel + 1, cs => do
    let (item, rest) ← readValue room fuel cs
    match skipGap rest with
    | ']' :: rest => .ok ([item], rest)
    | ',' :: rest => do
      let (items, rest) ← readItems room fuel (skipGap rest)
      .ok (item :: items, rest)
    | rest => stop .expectingComma rest

/-- The members of an object up to its closing brace, added to the members before. -/
def readMembers :
    (room fuel : Nat) → Members → List Char → Except Stop (Members × List Char)
  | _, 0, _, cs => stop .expectingValue cs
  | room, fuel + 1, before, cs =>
    match cs with
    | '"' :: rest => do
      let (name, rest) ← readString cs 0 rest
      match skipGap rest with
      | ':' :: rest => do
        let (value, rest) ← readValue room fuel (skipGap rest)
        let members := before.put name value
        match skipGap rest with
        | '\x7d' :: rest => .ok (members, rest)
        | ',' :: rest => readMembers room fuel members (skipGap rest)
        | rest => stop .expectingComma rest
      | rest => stop .expectingColon rest
    | cs => stop .expectingName cs

end

/-- The value of a whole text, or where reading stopped; there is room for `room` collections inside
each other below the outermost one. -/
def readWhole (room : Nat) (cs : List Char) : Except Stop Json :=
  match cs with
  | '\uFEFF' :: _ => stop .byteOrderMark cs
  | _ => do
    let (value, rest) ← readValue (room + 1) (2 * cs.length + 1) (skipGap cs)
    match skipGap rest with
    | [] => .ok value
    | rest => stop .extraData rest

/-- The place `offset` characters into a text: its line and column, both from 1. -/
def place (cs : List Char) (offset : Nat) : Nat × Nat :=
  let read := cs.take offset
  (read.count '\n' + 1, (read.reverse.takeWhile (· ≠ '\n')).length + 1)

/-- The room below the outermost collection, where nothing else takes any of it. -/
def usualRoom : Nat := 989

/-- The value that a whole text writes, with room for `room` collections inside each other below the
outermost one. -/
def read (cs : List Char) (room : Nat := usualRoom) : Except ReadFault Json :=
  match readWhole room cs with
  | .ok value => .ok value
  | .error (.tooManyDigits count) => .error (.tooManyDigits count)
  | .error (.fault reason left) =>
    let offset := cs.length - left
    let (line, column) := place cs offset
    .error (.fault reason offset line column)

end PhaseSplit.Json
