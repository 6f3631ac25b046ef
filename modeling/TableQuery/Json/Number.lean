import TableQuery.Number.Literal
import TableQuery.Value

/-! Numbers in JSON documents.

Digits are collected in a significand of at most 64 bits. A whole number that fits is exact. Any
other number is its significand times or divided by a power of ten, where the significand, the
power and each product or quotient are rounded; a result that is too great is refused.
-/

set_option autoImplicit false

namespace TableQuery.Json

def greatestSignificand : Nat := Nat.pow 2 64 - 1

def digitValue (digit : Char) : Nat :=
  digit.toNat - '0'.toNat

/-- Collects digits while the significand fits, and gives the digits from the first that does
not fit on. -/
def collect (significand : Nat) : List Char → Nat × List Char
  | [] => (significand, [])
  | digit :: rest =>
    let next := significand * 10 + digitValue digit
    if next ≤ greatestSignificand then collect next rest else (significand, digit :: rest)

def greatestPower : Nat := 308

def power (exponent : Nat) : Double :=
  (Double.ofDecimal? false 1 exponent).getD default

/-- Divides by the greatest power once for each round, or until nothing is left, and then by the
last power. -/
def scaleDown (last : Nat) : (rounds : Nat) → Double → Option Double
  | 0, value => value.over? (power last)
  | rounds + 1, value =>
    if value.units = 0 then some value
    else (value.over? (power greatestPower)).bind (scaleDown last rounds)

/-- `significand * 10 ^ exponent`, or nothing when it is too great. -/
def scale? (negative : Bool) (significand : Nat) (exponent : Int) : Option Double :=
  let value := Double.ofInt significand
  let size := exponent.natAbs
  let scaled :=
    -- A great power of ten is out of range, so division goes in rounds.
    if exponent < 0 then
      let rounds := (size - 1) / greatestPower
      scaleDown (size - rounds * greatestPower) rounds value
    else if size ≤ greatestPower then value.times? (power size)
    else if value.units = 0 then some value
    else none
  scaled.map fun number => { number with negative := negative }

def readExponent? : List Char → Option (Int × List Char)
  | [] => some (0, [])
  | c :: rest =>
    if c = 'e' ∨ c = 'E' then
      let (negative, rest) := Literal.splitSign rest
      let digits := rest.takeWhile Char.isDigit
      let value : Int := Literal.digitsValue digits
      if digits.isEmpty then none
      else some (if negative then -value else value, rest.dropWhile Char.isDigit)
    else some (0, c :: rest)

/-- The number after a sign, and the text after the number.

Digits of the whole part that do not fit raise the exponent; digits after the point that do not
fit are dropped, and each one that fits lowers the exponent.
-/
def readUnsigned? (negative : Bool) (text : List Char) : Option (Value × List Char) :=
  let whole := text.takeWhile Char.isDigit
  let rest := text.dropWhile Char.isDigit
  let (significand, excess) := collect 0 whole
  if whole.isEmpty || (whole.head? == some '0' && whole.length != 1) then none
  else match rest with
    | '.' :: after =>
      let fraction := after.takeWhile Char.isDigit
      let (significand, dropped) := collect significand fraction
      let exponent : Int := excess.length - (fraction.length - dropped.length : Nat)
      if fraction.isEmpty then none
      else do
        let (power, rest) ← readExponent? (after.dropWhile Char.isDigit)
        let number ← scale? negative significand (exponent + power)
        return (.float number, rest)
    | 'e' :: _ | 'E' :: _ => do
      let (power, rest) ← readExponent? rest
      let number ← scale? negative significand (excess.length + power)
      return (.float number, rest)
    | _ =>
      if !excess.isEmpty then
        (scale? negative significand excess.length).map fun number => (.float number, rest)
      else if !negative then some (.int significand, rest)
      else if 0 < significand && significand ≤ Value.signedLimit then
        some (.int (-(significand : Int)), rest)
      else some (.float { Double.ofInt significand with negative := true }, rest)

def readNumber? : List Char → Option (Value × List Char)
  | '-' :: rest => readUnsigned? true rest
  | text => readUnsigned? false text

end TableQuery.Json
