import TableQuery.Number.Shortest

/-! The values that table cells hold. -/

set_option autoImplicit false

namespace TableQuery

/-- A cell. Whole numbers and floating-point numbers are different kinds. -/
inductive Value where
  | null
  | bool (value : Bool)
  | int (value : Int)
  | float (value : Double)
  | string (value : String)
  | array (items : List Value)
  | object (fields : List (String × Value))
  deriving Repr, Inhabited

namespace Value

def kind : Value → String
  | null => "null"
  | bool _ => "bool"
  | int _ | float _ => "number"
  | string _ => "string"
  | array _ => "array"
  | object _ => "object"

/-- The least magnitude beyond the signed whole numbers of 64 bits, the least of them apart. -/
def signedLimit : Nat := Nat.pow 2 63

def boolText (value : Bool) : String :=
  if value then "true" else "false"

def intText (value : Int) : String :=
  String.ofList ((if value < 0 then ['-'] else []) ++ Nat.toDigits 10 value.natAbs)

def number? : Value → Option Double
  | int value => some (Double.ofInt value)
  | float value => some value
  | _ => none

mutual

/-- Equality within one kind; the order of an object's fields does not matter. -/
def same : Value → Value → Bool
  | null, null => true
  | bool first, bool second => first == second
  | int first, int second => first == second
  | float first, float second => first.signedUnits == second.signedUnits
  | string first, string second => first == second
  | array first, array second => sameItems first second
  | object first, object second => first.length == second.length && fieldsWithin first second
  | _, _ => false

def sameItems : List Value → List Value → Bool
  | [], [] => true
  | first :: firsts, second :: seconds => same first second && sameItems firsts seconds
  | _, _ => false

def fieldsWithin : List (String × Value) → List (String × Value) → Bool
  | [], _ => true
  | (key, value) :: rest, other =>
    (match other.lookup key with
      | some found => same value found
      | none => false) && fieldsWithin rest other

end

end Value

end TableQuery
