/-! Finite binary64 numbers.

A number is a sign and a magnitude that counts units of 2⁻¹⁰⁷⁴, the least positive number.
Comparison is then comparison of integers, and each rounding is one division of natural numbers.
-/

set_option autoImplicit false

namespace TableQuery

structure Double where
  negative : Bool
  units : Nat
  deriving DecidableEq, Repr, Inhabited

namespace Double

def one : Nat := Nat.pow 2 1074

/-- The least magnitude that is too great. -/
def limit : Nat := Nat.pow 2 2098

/-- The value in units. Both zeros give 0. -/
def signedUnits (number : Double) : Int :=
  if number.negative then -(number.units : Int) else number.units

def compare (first second : Double) : Ordering :=
  Ord.compare first.signedUnits second.signedUnits

/-- The natural number nearest to `a / b`; a tie goes to the even neighbour. -/
def divideEven (a b : Nat) : Nat :=
  let double := 2 * (a % b)
  if double < b then a / b
  else if b < double then a / b + 1
  else a / b + a / b % 2

/-- The magnitude nearest to `a / b` units that has at most 53 significant bits. -/
def roundUnits (a b : Nat) : Nat :=
  -- Below 53 bits the difference is 0, so small magnitudes keep every unit.
  let step := Nat.pow 2 ((a / b).log2 + 1 - 53)
  divideEven a (b * step) * step

/-- The number nearest to `a / b` units, unless its magnitude is too great. -/
def round? (negative : Bool) (a b : Nat) : Option Double :=
  let units := roundUnits a b
  if units < limit then some ⟨negative, units⟩ else none

def ofInt (n : Int) : Double :=
  ⟨decide (n < 0), roundUnits (n.natAbs * one) 1⟩

def zero (negative : Bool) : Double :=
  ⟨negative, 0⟩

def times? (first second : Double) : Option Double :=
  round? (first.negative != second.negative) (first.units * second.units) one

def over? (first second : Double) : Option Double :=
  round? (first.negative != second.negative) (first.units * one) second.units

/-- The number nearest to `coefficient * 10 ^ exponent`, unless its magnitude is too great.

Exponents far outside the range are answered first, so that no huge power is computed.
-/
def ofDecimal? (negative : Bool) (coefficient : Nat) (exponent : Int) : Option Double :=
  if coefficient = 0 then some (zero negative)
  else if 400 < exponent then none
  else if exponent + coefficient.log2 < -400 then some (zero negative)
  else
    round? negative (coefficient * Nat.pow 10 exponent.toNat * one) (Nat.pow 10 (-exponent).toNat)

end Double

end TableQuery
