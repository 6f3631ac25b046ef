import TableQuery.Number.Double

/-! Numbers written as text.

A literal is an optional sign and either digits with an optional point and exponent, or one of
the words `inf`, `infinity` and `nan` in any letter case. Nothing may stand around it.
-/

set_option autoImplicit false

namespace TableQuery

/-- The value of a numeric literal; a magnitude that is too great is infinite. -/
inductive Literal where
  | finite (value : Double)
  | infinite (negative : Bool)
  | nan
  deriving DecidableEq, Repr

namespace Literal

def digitsValue (digits : List Char) : Nat :=
  digits.foldl (fun value digit => 10 * value + (digit.toNat - '0'.toNat)) 0

def splitSign : List Char → Bool × List Char
  | '-' :: rest => (true, rest)
  | '+' :: rest => (false, rest)
  | text => (false, text)

def integer? (text : List Char) : Option Int :=
  let (negative, digits) := splitSign text
  if digits.isEmpty || !digits.all Char.isDigit then none
  else if negative then some (-(digitsValue digits : Int))
  else some (digitsValue digits)

/-- The exponent that ends a number; an absent one is 0. -/
def exponent? : List Char → Option Int
  | [] => some 0
  | c :: rest => if c = 'e' ∨ c = 'E' then integer? rest else none

def splitFraction : List Char → List Char × List Char
  | '.' :: rest => (rest.takeWhile Char.isDigit, rest.dropWhile Char.isDigit)
  | text => ([], text)

def decimal? (text : List Char) : Option (Nat × Int) :=
  let whole := text.takeWhile Char.isDigit
  let (fraction, rest) := splitFraction (text.dropWhile Char.isDigit)
  if whole.isEmpty && fraction.isEmpty then none
  else (exponent? rest).map fun exponent =>
    (digitsValue (whole ++ fraction), exponent - fraction.length)

def word? (negative : Bool) (text : List Char) : Option Literal :=
  let lower := text.map Char.toLower
  if lower = "inf".toList ∨ lower = "infinity".toList then some (.infinite negative)
  else if lower = "nan".toList then some .nan
  else none

def ofText? (text : List Char) : Option Literal :=
  let (negative, rest) := splitSign text
  match decimal? rest with
  | some (coefficient, exponent) =>
    some (match Double.ofDecimal? negative coefficient exponent with
      | some value => .finite value
      | none => .infinite negative)
  | none => word? negative rest

def compare? (number : Double) : Literal → Option Ordering
  | .finite value => some (number.compare value)
  | .infinite negative => some (if negative then .gt else .lt)
  | .nan => none

end Literal

end TableQuery
