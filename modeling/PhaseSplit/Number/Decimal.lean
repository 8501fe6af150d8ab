import PhaseSplit.Number.Binary64

/-!
# Decimals

Finite decimal numbers and their passage to and from `Binary64`.

* `Decimal.toBinary64`, `Decimal.nearest` — the nearest binary number;
* `Binary64.significant` — the decimal of a given number of digits nearest to a number;
* `Binary64.shortest` — the decimal of fewest digits that is read back as the same number, and
  among those the nearest.
-/

namespace PhaseSplit

/-- The decimal `coefficient * 10 ^ exponent`. -/
structure Decimal where
  coefficient : Nat
  exponent : Int
  deriving DecidableEq

namespace Decimal

/-- The numerator of a decimal as a quotient. -/
def num (d : Decimal) : Nat := d.coefficient * Nat.pow 10 d.exponent.toNat

/-- The denominator of a decimal as a quotient. -/
def den (d : Decimal) : Nat := Nat.pow 10 (-d.exponent).toNat

/-- The binary number nearest to a decimal. -/
def toBinary64 (negative : Bool) (d : Decimal) : Binary64 :=
  Binary64.ofRatio negative d.num d.den

/-- The exponent that no decimal of one digit reaches without leaving the range of binary
numbers. -/
def exponentBound : Nat := 400

/-- The binary number nearest to a decimal whose coefficient has `digits` digits at most.  Exponents
that leave no doubt about the result are not computed with. -/
def nearest (negative : Bool) (digits : Nat) (d : Decimal) : Binary64 :=
  if d.coefficient = 0 then .finite negative 0
  else if (exponentBound : Int) < d.exponent then .infinite negative
  else if d.exponent < -((exponentBound + digits : Nat) : Int) then .finite negative 0
  else d.toBinary64 negative

/-- A decimal without zeros at the end of its coefficient; `fuel` bounds their number. -/
def dropZeros : (fuel : Nat) → Decimal → Decimal
  | 0, d => d
  | fuel + 1, d =>
    if d.coefficient = 0 then ⟨0, 0⟩
    else if d.coefficient % 10 = 0 then dropZeros fuel ⟨d.coefficient / 10, d.exponent + 1⟩
    else d

/-- The number of decimal digits of a natural number. -/
def digitCount (n : Nat) : Nat := (Nat.toDigits 10 n).length

/-- The exponent `e` with `10 ^ e ≤ num / den < 10 ^ (e + 1)`, for a positive quotient. -/
def leadingExponent (num den : Nat) : Int :=
  if den ≤ num then digitCount (num / den) - 1
  else
    let k := digitCount (den / num)
    if num * Nat.pow 10 (k - 1) = den then -((k - 1 : Nat) : Int) else -(k : Int)

end Decimal

namespace Binary64

/-- The two decimals around `steps` whose last digit stands at `10 ^ exponent`: the one below or
equal, and the next above. -/
def neighbours (steps : Nat) (exponent : Int) : Decimal × Decimal :=
  let below := steps * Nat.pow 10 (-exponent).toNat / (one * Nat.pow 10 exponent.toNat)
  (⟨below, exponent⟩, ⟨below + 1, exponent⟩)

/-- The nearer of the two decimals around `steps` whose last digit stands at `10 ^ exponent`; in the
middle between them, the one with the even coefficient. -/
def nearer (steps : Nat) (exponent : Int) : Decimal :=
  ⟨roundDiv (steps * Nat.pow 10 (-exponent).toNat) (one * Nat.pow 10 exponent.toNat), exponent⟩

/-- The decimal of `count` digits nearest to a positive number of steps, ties to even. -/
def significant (steps count : Nat) : Decimal :=
  (nearer steps (Decimal.leadingExponent steps one + 1 - count)).dropZeros (count + 1)

/-- The one of two decimals that is `good`; the `near` one of them if both are. -/
def choose? (good : Decimal → Bool) (around : Decimal × Decimal) (near : Decimal) :
    Option Decimal :=
  match good around.1, good around.2 with
  | true, true => some near
  | true, false => some around.1
  | false, true => some around.2
  | false, false => none

/-- A decimal of `count` digits that is read back as `steps`, the nearer one if there are two. -/
def readBack? (steps count : Nat) : Option Decimal :=
  let exponent := Decimal.leadingExponent steps one + 1 - count
  choose? (fun d => d.toBinary64 false == finite false steps) (neighbours steps exponent)
    (nearer steps exponent)

/-- The largest number of digits that a number needs. -/
def maxSignificant : Nat := 17

/-- The decimal of fewest digits that is read back as a positive number of steps. -/
def shortestReadBack? (steps : Nat) : Option Decimal :=
  (List.range maxSignificant).findSome? fun k => readBack? steps (k + 1)

/-- The shortest decimal that is read back as a positive number of steps. -/
def shortest (steps : Nat) : Decimal :=
  ((shortestReadBack? steps).map (Decimal.dropZeros maxSignificant)).getD
    (significant steps maxSignificant)

end Binary64

end PhaseSplit
