import PhaseSplit.Text.Blank
import PhaseSplit.Text.DecimalDigit
import PhaseSplit.Text.Quoted

/-!
# Integers in texts

Two readings of an integer.  The strict one, for the columns of a file, wants a sign or none and
then ASCII digits.  The lenient one, for settings and options, also takes blanks around the
number, digits of any decimal system, and single underscores between digits.  Neither converts a
numeral of more than `maxDigits` digits.

* `Numeral.ofAscii?` — the strict reading;
* `readInteger` — the lenient reading;
* `Numeral.toInt` — the value, unless there are too many digits.

Nor is an integer of more digits written in a message.
-/

namespace PhaseSplit

/-- The largest number of digits that is converted. -/
def maxDigits : Nat := 4300

/-- A signed numeral, as the values of its digits. -/
structure Numeral where
  negative : Bool
  digits : List Nat
  deriving DecidableEq

/-- Why a text gives no integer. -/
inductive IntegerFault
  | malformed (text : Text)
  | tooManyDigits (count : Nat)
  deriving DecidableEq

/-- The number that decimal digits write. -/
def digitsValue (digits : List Nat) : Nat := digits.foldl (fun n d => 10 * n + d) 0

namespace Numeral

/-- The integer that a numeral writes. -/
def value (n : Numeral) : Int :=
  if n.negative then -(digitsValue n.digits : Int) else digitsValue n.digits

/-- The integer that a numeral writes, unless it has too many digits. -/
def toInt (n : Numeral) : Except IntegerFault Int :=
  if maxDigits < n.digits.length then .error (.tooManyDigits n.digits.length) else .ok n.value

/-- The sign at the start of a text, and what follows it. -/
def splitSign : Text → Bool × Text
  | .char '+' :: t => (false, t)
  | .char '-' :: t => (true, t)
  | t => (false, t)

/-- The numeral of an optional sign and at least one ASCII digit. -/
def ofAscii? (t : Text) : Option Numeral :=
  let (negative, body) := splitSign t
  match body.mapM Glyph.asciiDigit? with
  | some (d :: ds) => some ⟨negative, d :: ds⟩
  | _ => none

/-- The digits at the start of a text, as `digit?` reads them, single underscores between them, and
what follows; `after` says that a digit has just been read. -/
def scanDigits (digit? : Glyph → Option Nat) (after : Bool) : Text → Option (List Nat × Text)
  | [] => if after then some ([], []) else none
  | g :: t =>
    match digit? g with
    | some d => (scanDigits digit? true t).map fun (ds, rest) => (d :: ds, rest)
    | none =>
      if after then
        if g = .char '_' then scanDigits digit? false t else some ([], g :: t)
      else none

end Numeral

/-- The integer that a text writes in the lenient form. -/
def readInteger (t : Text) : Except IntegerFault Int :=
  let (negative, body) := Numeral.splitSign t.trim
  match Numeral.scanDigits Glyph.decimalDigit? false body with
  | none => .error (.malformed t)
  | some (digits, rest) => do
    let n ← Numeral.toInt ⟨negative, digits⟩
    if rest = [] then .ok n else .error (.malformed t)

/-- The number of characters of a quoted text that a message shows. -/
def shownLimit : Nat := 200

/-- The words for a fault. -/
def IntegerFault.message : IntegerFault → Text
  | .malformed t =>
    Text.lit "invalid literal for int() with base 10: " ++ t.quoted.take shownLimit
  | .tooManyDigits count =>
    Text.lit "Exceeds the limit (" ++ Text.ofNat maxDigits
      ++ Text.lit " digits) for integer string conversion: value has " ++ Text.ofNat count
      ++ Text.lit " digits; use sys.set_int_max_str_digits() to increase the limit"

/-- The words for an integer with too many digits to be written. -/
def writingLimitText : Text :=
  Text.lit "Exceeds the limit (" ++ Text.ofNat maxDigits
    ++ Text.lit " digits) for integer string conversion; "
    ++ Text.lit "use sys.set_int_max_str_digits() to increase the limit"

end PhaseSplit
