import TableQuery.Number.Double

/-! The shortest decimal text of a finite binary64 number.

Among the decimal numbers that round to it the text shows one with the fewest digits, and of
those the nearest. The search compares exact integers: a grid of `n` significant digits has a
point in the interval of reals that round to the number only if one of the two points next to
the number lies there.
-/

set_option autoImplicit false

namespace TableQuery.Double

/-- The reals that round to a magnitude: both ends in quarters of a unit. -/
structure Basin where
  low : Nat
  high : Nat
  /-- Whether the ends themselves round to the magnitude. -/
  closed : Bool

/-- Numbers below a power of two lie half as far apart as those above it. -/
def basin (units : Nat) : Basin :=
  let shift := units.log2 + 1 - 53
  let gap := Nat.pow 2 shift
  let significand := units / gap
  { low := 4 * units - (if shift ≠ 0 ∧ significand = Nat.pow 2 52 then gap else 2 * gap)
    high := 4 * units + 2 * gap
    closed := significand % 2 == 0 }

def leadingExponent (units : Nat) : Int :=
  (Nat.toDigits 10 (units * Nat.pow 10 400 / one)).length - 401

/-- The nearest point of the grid `10 ^ exponent` in the basin; a tie goes to the even point. -/
def nearestOnGrid? (units : Nat) (exponent : Int) : Option Nat :=
  let fine := Nat.pow 10 (-exponent).toNat
  let step := 4 * one * Nat.pow 10 exponent.toNat
  let basin := basin units
  let inside (point : Nat) : Bool :=
    let low := basin.low * fine
    let high := basin.high * fine
    if basin.closed then low ≤ point * step && point * step ≤ high
    else low < point * step && point * step < high
  -- The number lies between two neighbours on the grid; the nearer one is tried first.
  let below := 4 * units * fine / step
  let first := divideEven (4 * units * fine) step
  let second := if first = below then below + 1 else below
  if inside first then some first else if inside second then some second else none

structure Digits where
  digits : List Char
  exponent : Int

def digitsOf (point : Nat) (exponent : Int) : Digits :=
  let written := Nat.toDigits 10 point
  { digits := (written.reverse.dropWhile (· == '0')).reverse
    exponent := exponent + written.length - 1 }

/-- Seventeen significant digits always suffice. -/
def shortestDigits (units : Nat) : Digits :=
  let leading := leadingExponent units
  let found := (List.range 17).findSome? fun (more : Nat) =>
    (nearestOnGrid? units (leading - more)).map fun point => digitsOf point (leading - more)
  found.getD ⟨['0'], 0⟩

/-- The exponents of the first digit for which a number is written without a power of ten. -/
structure PlainRange where
  least : Int
  greatest : Int

/-- Numbers from `0.00001` up to below `1e+16` are written plainly. -/
def plainRange : PlainRange :=
  ⟨-5, 15⟩

def plainText (number : Digits) : List Char :=
  if number.exponent < 0 then
    '0' :: '.' :: List.replicate ((-number.exponent).toNat - 1) '0' ++ number.digits
  else
    let size := number.exponent.toNat + 1
    let fraction := number.digits.drop size
    number.digits.take size ++ List.replicate (size - number.digits.length) '0' ++
      '.' :: (if fraction.isEmpty then ['0'] else fraction)

def scientificText (number : Digits) : List Char :=
  let mantissa := match number.digits with
    | first :: rest => if rest.isEmpty then [first] else first :: '.' :: rest
    | [] => ['0']
  let sign := if number.exponent < 0 then '-' else '+'
  mantissa ++ 'e' :: sign :: Nat.toDigits 10 number.exponent.natAbs

def magnitudeText (units : Nat) : List Char :=
  if units = 0 then "0.0".toList
  else
    let number := shortestDigits units
    if plainRange.least ≤ number.exponent ∧ number.exponent ≤ plainRange.greatest then
      plainText number
    else scientificText number

def text (number : Double) : String :=
  String.ofList ((if number.negative then ['-'] else []) ++ magnitudeText number.units)

end TableQuery.Double
