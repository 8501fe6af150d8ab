import PhaseSplit.Text.Integer

/-!
# Templates

A text with fields in it.  A field starts at a percent sign; it may name one of some values, and it
says how the value is shown: by marks, a width, a number of digits, and a letter for the form.  A
field without a name shows the value of the name before it, if that has not been shown yet, and at
first all values together.  Two percent signs stand for one.

* `Template.Value` — a value, as fields may show it;
* `Template.expand` — the text with the values in the places of the fields;
* `Template.Fault` — why a text has no values in its fields;
* `Template.expand_of_not_mem` — a text without a percent sign stands as it is.
-/

namespace PhaseSplit.Template

/-! ## Values -/

/-- What fields may show of a value: the name of its kind, its words, its words with all texts in
them quoted, and the digit for which it counts, if it is a truth value. -/
structure Value where
  kind : String
  words : Text
  quoted : Text
  digit? : Option Nat

namespace Value

/-- No value. -/
def nothing : Value := ⟨"NoneType", Text.lit "None", Text.lit "None", none⟩

/-- A truth value. -/
def ofFlag (b : Bool) : Value :=
  let words := Text.lit (if b then "True" else "False")
  ⟨"bool", words, words, some (if b then 1 else 0)⟩

/-- A text. -/
def ofText (t : Text) : Value := ⟨"str", t, t.quoted, none⟩

/-- A list of texts. -/
def ofTexts (ts : List Text) : Value :=
  let words := Text.lit "[" ++ Text.join (Text.lit ", ") (ts.map Text.quoted) ++ Text.lit "]"
  ⟨"list", words, words, none⟩

/-- An object of a kind, which shows nothing but its address. -/
def ofObject (package kind : String) (address : Text) : Value :=
  let words := Text.lit "<" ++ Text.lit package ++ Text.lit "." ++ Text.lit kind
    ++ Text.lit " object at " ++ address ++ Text.lit ">"
  ⟨kind, words, words, none⟩

/-- Values by name. -/
def ofTable (values : List (Text × Value)) : Value :=
  let entries := values.map fun (name, value) => name.quoted ++ Text.lit ": " ++ value.quoted
  let words := Text.lit "\x7b" ++ Text.join (Text.lit ", ") entries ++ Text.lit "\x7d"
  ⟨"dict", words, words, none⟩

end Value

/-! ## Faults -/

/-- Why a text has no values in its fields. -/
inductive Fault
  | openName
  | unknownName (name : Text)
  | openField
  | noValue
  | noWidth
  | widthTooLarge
  | digitsTooLarge
  | tooManyDigits
  | unknownForm (form : Glyph) (index : Nat)
  | noInteger (form : Char) (kind : String)
  | noNumber (form : Char) (kind : String)
  | noFloat (kind : String)
  | noCharacter
  deriving DecidableEq

/-- The words for a fault. -/
def Fault.message : Fault → Text
  | openName => Text.lit "incomplete format key"
  | unknownName name => name.quoted
  | openField => Text.lit "incomplete format"
  | noValue => Text.lit "not enough arguments for format string"
  | noWidth => Text.lit "* wants int"
  | widthTooLarge => Text.lit "width too big"
  | digitsTooLarge => Text.lit "precision too big"
  | tooManyDigits => Text.lit "precision too large"
  | unknownForm form index =>
    let shown := if 31 ≤ form.code && form.code ≤ 126 then form else .char '?'
    Text.lit "unsupported format character '" ++ [shown] ++ Text.lit "' (0x"
      ++ Text.ofChars (Nat.toDigits 16 form.code) ++ Text.lit ") at index " ++ Text.ofNat index
  | noInteger form kind =>
    Text.lit "%" ++ [.char form] ++ Text.lit " format: an integer is required, not "
      ++ Text.lit kind
  | noNumber form kind =>
    Text.lit "%" ++ [.char form] ++ Text.lit " format: a real number is required, not "
      ++ Text.lit kind
  | noFloat kind => Text.lit "must be real number, not " ++ Text.lit kind
  | noCharacter => Text.lit "%c requires int or char"

/-! ## Fields -/

/-- The sign at which a field starts. -/
def percent : Glyph := .char '%'

/-- A size in a field: none, one that is written in it, or one that is taken from a value. -/
inductive Size
  | none
  | written (n : Nat)
  | taken

/-- A field: the name of a value, the marks, the sizes, the form, which is missing at the end of a
text, and the number of glyphs after the percent sign. -/
structure Field where
  name : Option Text
  marks : Text
  width : Size
  digits : Size
  form : Option Glyph
  length : Nat

/-- The number of glyphs before the parenthesis that closes a name, with `depth` open inside it. -/
def nameLength? : (depth : Nat) → Text → Option Nat
  | _, [] => none
  | depth, g :: t =>
    if g = .char ')' then
      match depth with
      | 0 => some 0
      | depth + 1 => (nameLength? depth t).map (· + 1)
    else (nameLength? (if g = .char '(' then depth + 1 else depth) t).map (· + 1)

/-- The name at the start of a field, and what follows. -/
def readName : Text → Except Fault (Option Text × Text)
  | .char '(' :: t =>
    match nameLength? 0 t with
    | some length => .ok (some (t.take length), t.drop (length + 1))
    | none => .error .openName
  | t => .ok (none, t)

/-- The size at the start of a text, and what follows. -/
def readSize : Text → Size × Text
  | .char '*' :: t => (.taken, t)
  | t =>
    match (t.takeWhile (·.asciiDigit?.isSome)).filterMap Glyph.asciiDigit? with
    | [] => (.none, t)
    | digits => (.written (digitsValue digits), t.drop digits.length)

/-- The number of digits at the start of a text, after a point, and what follows. -/
def readDigits : Text → Size × Text
  | .char '.' :: t =>
    match readSize t with
    | (.none, t) => (.written 0, t)
    | size => size
  | t => (.none, t)

/-- The field after a percent sign. -/
def readField (t : Text) : Except Fault Field := do
  let (name, rest) ← readName t
  let isMark (g : Glyph) : Bool := (Text.lit "-+ #0").contains g
  let marks := rest.takeWhile isMark
  let (width, rest) := readSize (rest.drop marks.length)
  let (digits, rest) := readDigits rest
  let rest := if rest.head?.any (Text.lit "hlL").contains then rest.tail else rest
  return ⟨name, marks, width, digits, rest.head?, t.length - rest.tail.length⟩

/-! ## Forms -/

/-- The largest width. -/
def maxWidth : Nat := Nat.pow 2 63 - 1

/-- The largest number of digits. -/
def maxSize : Nat := Nat.pow 2 31 - 1

/-- A number of zeros. -/
def zeros (n : Nat) : Text := List.replicate n (.char '0')

/-- A field of some width with these glyphs in it; zeros may only stand between a sign and a
number. -/
def fill (marks : Text) (width : Nat) (isNumber : Bool) (sign body : Text) : Text :=
  let room := width - (sign ++ body).length
  if marks.contains (.char '-') then sign ++ body ++ List.replicate room (.char ' ')
  else if isNumber && marks.contains (.char '0') then sign ++ zeros room ++ body
  else List.replicate room (.char ' ') ++ sign ++ body

/-- The sign of a number that is not negative. -/
def signOf (marks : Text) : Text :=
  if marks.contains (.char '+') then Text.lit "+"
  else if marks.contains (.char ' ') then Text.lit " "
  else []

/-- A glyph with its code written out, unless it is of ASCII. -/
def asciiOnly (t : Text) : Text :=
  t.flatMap fun g => if g.code < 128 then [g] else Text.ofChars (escapeCode g.code)

/-- The form of an integer. -/
def showInteger (form : Char) (marks : Text) (width : Nat) (digits : Option Nat) (v : Value) :
    Except Fault Text :=
  let isBased := form = 'o' || form = 'x' || form = 'X'
  match v.digit? with
  | none => .error (if isBased then .noInteger form v.kind else .noNumber form v.kind)
  | some d =>
    if maxSize - 3 < digits.getD 0 then .error .tooManyDigits
    else
      let base := if isBased && marks.contains (.char '#') then [.char '0', .char form] else []
      .ok (fill marks width true (signOf marks ++ base) (zeros (digits.getD 1 - 1) ++ Text.ofNat d))

/-- The form of a float. -/
def showFloat (form : Char) (marks : Text) (width : Nat) (digits : Option Nat) (v : Value) :
    Except Fault Text :=
  match v.digit? with
  | none => .error (.noFloat v.kind)
  | some d =>
    let isFull := marks.contains (.char '#')
    let isShort := form = 'g' || form = 'G'
    let count := if isShort then if isFull then digits.getD 6 - 1 else 0 else digits.getD 6
    let fraction := if count = 0 && !isFull then [] else .char '.' :: zeros count
    let power :=
      if form = 'e' then Text.lit "e+00" else if form = 'E' then Text.lit "E+00" else []
    .ok (fill marks width true (signOf marks) (Text.ofNat d ++ fraction ++ power))

/-- The form of a character: a text of one glyph, or the character of a number. -/
def showCharacter (marks : Text) (width : Nat) (v : Value) : Except Fault Text :=
  match v.digit?, v.words with
  | some d, _ => .ok (fill marks width false [] [.char (Char.ofNat d)])
  | none, [g] => if v.kind = "str" then .ok (fill marks width false [] [g]) else .error .noCharacter
  | none, _ => .error .noCharacter

/-- A value in the form of a letter, which stands at an index. -/
def showValue (form : Glyph) (index : Nat) (marks : Text) (width : Nat) (digits : Option Nat)
    (v : Value) : Except Fault Text :=
  let ofWords (t : Text) : Except Fault Text :=
    .ok (fill marks width false [] (t.take (digits.getD t.length)))
  match form with
  | .char 's' => ofWords v.words
  | .char 'r' => ofWords v.quoted
  | .char 'a' => ofWords (asciiOnly v.quoted)
  | .char 'c' => showCharacter marks width v
  | .char c =>
    if "diuoxX".toList.contains c then showInteger c marks width digits v
    else if "eEfFgG".toList.contains c then showFloat c marks width digits v
    else .error (.unknownForm form index)
  | _ => .error (.unknownForm form index)

/-! ## Expansion -/

/-- The value that has not been shown yet. -/
def useValue (value : Option Value) : Except Fault Value :=
  match value with
  | some v => .ok v
  | none => .error .noValue

/-- The value of a name. -/
def valueOf (values : List (Text × Value)) (name : Text) : Except Fault Value :=
  match values.lookup name with
  | some v => .ok v
  | none => .error (.unknownName name)

/-- A size, and the value that is left after it; only a truth value gives a size. -/
def sizeOf (most : Nat) (tooLarge : Fault) (value : Option Value) :
    Size → Except Fault (Option Nat × Option Value)
  | .none => .ok (none, value)
  | .written n => if most < n then .error tooLarge else .ok (some n, value)
  | .taken => do
    let v ← useValue value
    match v.digit? with
    | some d => return (some d, none)
    | none => throw .noWidth

/-- What a field shows, and the value that is left after it; the form of the field stands at an
index. -/
def Field.expand (values : List (Text × Value)) (value : Option Value) (index : Nat) (f : Field) :
    Except Fault (Text × Option Value) := do
  let value ←
    match f.name with
    | some name => some <$> valueOf values name
    | none => pure value
  let (width, value) ← sizeOf maxWidth .widthTooLarge value f.width
  let (digits, value) ← sizeOf maxSize .digitsTooLarge value f.digits
  match f.form with
  | none => throw .openField
  | some form =>
    let v ← useValue value
    return (← showValue form index f.marks (width.getD 0) digits v, none)

/-- The rest of a template of some size with the values in the places of the fields; the first
`skipped` glyphs belong to a field that has been read. -/
def expandFrom (size : Nat) (values : List (Text × Value)) :
    (skipped : Nat) → Option Value → Text → Except Fault Text
  | _, _, [] => .ok []
  | skipped + 1, value, _ :: t => expandFrom size values skipped value t
  | 0, value, g :: t =>
    if g = percent then do
      if t.head? = some percent then return g :: (← expandFrom size values 1 value t)
      let field ← readField t
      let (shown, value) ← field.expand values value (size - t.length + field.length - 1)
      return shown ++ (← expandFrom size values field.length value t)
    else (expandFrom size values 0 value t).map (g :: ·)

/-- A template with the values in the places of the fields. -/
def expand (values : List (Text × Value)) (t : Text) : Except Fault Text :=
  expandFrom t.length values 0 (some (Value.ofTable values)) t

/-- A text without a percent sign has no fields. -/
theorem expand_of_not_mem {values : List (Text × Value)} {t : Text} (h : percent ∉ t) :
    expand values t = .ok t := by
  have hfrom : ∀ (size : Nat) (value : Option Value), expandFrom size values 0 value t = .ok t := by
    intro size value
    induction t with
    | nil => rfl
    | cons g t ih =>
      have hg : g ≠ percent := fun hg => h (hg ▸ List.mem_cons_self)
      rw [expandFrom, if_neg hg, ih fun ht => h (List.mem_cons_of_mem g ht)]
      rfl
  exact hfrom _ _

end PhaseSplit.Template
