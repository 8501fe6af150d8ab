/-!
# Binary64 numbers

Floating-point numbers of 64 bits, as exact values.  Every finite one is a whole number of the
smallest step `2 ^ (-1074)`, so a finite number is a sign and a count of steps, and arithmetic is
exact arithmetic on counts followed by one rounding.

* `Binary64.ofRatio` — the nearest number to a quotient, ties to the even one;
* `Binary64.ofInt`, `Binary64.ofQuotient` — integers and their quotients, refused beyond range;
* `Binary64.add`, `sub`, `mul`, `div` — arithmetic;
* `Binary64.roundToPlaces` — decimal rounding of the exact value, ties to even.
-/

namespace PhaseSplit

/-- A floating-point number: a signed count of steps, an infinity, or not a number. -/
inductive Binary64
  | finite (negative : Bool) (steps : Nat)
  | infinite (negative : Bool)
  | nan
  deriving DecidableEq

/-- Why a number is out of range. -/
inductive RangeFault
  | integerTooLarge
  | quotientTooLarge
  | roundedTooLarge
  deriving DecidableEq

/-- The quotient of two naturals rounded to the nearest, a tie to the even neighbour. -/
def roundDiv (num den : Nat) : Nat :=
  let q := num / den
  let r := num % den
  if 2 * r < den then q else if den < 2 * r then q + 1 else q + q % 2

namespace Binary64

/-! ## Rounding -/

/-- The number of steps in one. -/
def one : Nat := Nat.pow 2 1074

/-- The number of steps that is too large for a finite number. -/
def limit : Nat := Nat.pow 2 2098

/-- The distance between neighbours near a count of `steps`: 53 binary digits are kept. -/
def spacing (steps : Nat) : Nat := Nat.pow 2 (steps.log2 + 1 - 53)

/-- The count of steps nearest to `num / den` among those with at most 53 binary digits. -/
def nearestSteps (num den : Nat) : Nat :=
  let gap := spacing (num / den)
  roundDiv num (den * gap) * gap

/-- The number with this sign and about `num / den` steps. -/
def ofSteps (negative : Bool) (num den : Nat) : Binary64 :=
  let steps := nearestSteps num den
  if steps < limit then finite negative steps else infinite negative

/-- The number nearest to `num / den`. -/
def ofRatio (negative : Bool) (num den : Nat) : Binary64 := ofSteps negative (num * one) den

/-- Zero. -/
def zero : Binary64 := finite false 0

/-- Whether the number is finite. -/
def isFinite : Binary64 → Bool
  | finite _ _ => true
  | _ => false

/-- A number that must be finite, or else this fault. -/
def orFault (e : RangeFault) : Binary64 → Except RangeFault Binary64
  | finite s u => .ok (finite s u)
  | _ => .error e

/-! ## Integers -/

/-- The number nearest to an integer. -/
def ofInt (n : Int) : Except RangeFault Binary64 :=
  (ofRatio (n < 0) n.natAbs 1).orFault .integerTooLarge

/-- The number nearest to the quotient of two integers, the second not zero. -/
def ofQuotient (n d : Int) : Except RangeFault Binary64 :=
  (ofRatio ((n < 0) != (d < 0)) n.natAbs d.natAbs).orFault .quotientTooLarge

/-- The integer next to a finite number on the side of zero. -/
def truncate? : Binary64 → Option Int
  | finite s u => some (if s then -((u / one : Nat) : Int) else ((u / one : Nat) : Int))
  | _ => none

/-! ## Order -/

/-- The signed count of steps. -/
def signedSteps? : Binary64 → Option Int
  | finite s u => some (if s then -(u : Int) else u)
  | _ => none

/-- Whether `x < y`; nothing is below or above what is not a number. -/
def lt : Binary64 → Binary64 → Bool
  | nan, _ => false
  | _, nan => false
  | infinite s, infinite t => s && !t
  | infinite s, finite _ _ => s
  | finite _ _, infinite t => !t
  | finite s u, finite t v =>
    (if s then -(u : Int) else u) < (if t then -(v : Int) else v)

/-- Whether `x` and `y` are the same number, the two zeros being one. -/
def same (x y : Binary64) : Bool :=
  match x, y with
  | nan, _ => false
  | _, nan => false
  | infinite s, infinite t => s == t
  | finite s u, finite t v => u == v && (s == t || u == 0)
  | _, _ => false

/-- Whether a number is the integer `n`. -/
def sameInt (x : Binary64) (n : Int) : Bool :=
  match x.signedSteps? with
  | some u => u == n * one
  | none => false

/-- Whether a number is below the integer `n`. -/
def belowInt (x : Binary64) (n : Int) : Bool :=
  match x with
  | nan => false
  | infinite s => s
  | finite s u => (if s then -(u : Int) else u) < n * one

/-- Whether a number is above the integer `n`. -/
def aboveInt (x : Binary64) (n : Int) : Bool :=
  match x with
  | nan => false
  | infinite s => !s
  | finite s u => n * one < (if s then -(u : Int) else u)

/-! ## Arithmetic -/

/-- The number with the other sign. -/
def neg : Binary64 → Binary64
  | finite s u => finite (!s) u
  | infinite s => infinite (!s)
  | nan => nan

/-- The sum; an exact zero is negative only if both numbers are. -/
def add : Binary64 → Binary64 → Binary64
  | nan, _ => nan
  | _, nan => nan
  | infinite s, infinite t => if s = t then infinite s else nan
  | infinite s, finite _ _ => infinite s
  | finite _ _, infinite t => infinite t
  | finite s u, finite t v =>
    if s = t then ofSteps s (u + v) 1
    else if u = v then zero
    else if u < v then ofSteps t (v - u) 1
    else ofSteps s (u - v) 1

/-- The difference. -/
def sub (x y : Binary64) : Binary64 := x.add y.neg

/-- The product. -/
def mul : Binary64 → Binary64 → Binary64
  | nan, _ => nan
  | _, nan => nan
  | infinite s, infinite t => infinite (s != t)
  | infinite s, finite t v => if v = 0 then nan else infinite (s != t)
  | finite s u, infinite t => if u = 0 then nan else infinite (s != t)
  | finite s u, finite t v => ofSteps (s != t) (u * v) one

/-- The quotient by a number that is not zero; the quotient by zero is no number. -/
def div : Binary64 → Binary64 → Binary64
  | nan, _ => nan
  | _, nan => nan
  | infinite _, infinite _ => nan
  | infinite s, finite t _ => infinite (s != t)
  | finite s _, infinite t => finite (s != t) 0
  | finite s u, finite t v => if v = 0 then nan else ofSteps (s != t) (u * one) v

/-! ## Decimal rounding -/

/-- The number of decimal places from which on every number is left as it is. -/
def maxPlaces : Int := 323

/-- The number of decimal places below which every number becomes zero. -/
def minPlaces : Int := -308

/-- The number nearest to the exact value rounded to `places` decimal places, ties to even. -/
def roundToPlaces (x : Binary64) (places : Int) : Except RangeFault Binary64 :=
  match x with
  | finite s u =>
    if maxPlaces < places then .ok x
    else if places < minPlaces then .ok (finite s 0)
    else
      let up := Nat.pow 10 places.toNat
      let down := Nat.pow 10 (-places).toNat
      (ofRatio s (roundDiv (u * up) (one * down) * down) up).orFault .roundedTooLarge
  | x => .ok x

end Binary64

/-- The words for a number out of range. -/
def RangeFault.message : RangeFault → String
  | .integerTooLarge => "int too large to convert to float"
  | .quotientTooLarge => "integer division result too large for a float"
  | .roundedTooLarge => "rounded value too large to represent"

end PhaseSplit
