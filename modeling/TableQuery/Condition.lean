import TableQuery.Number.Literal

/-! Filter conditions: a field, an operator and a literal. -/

set_option autoImplicit false

namespace TableQuery

inductive Operator where
  | equal
  | notEqual
  | greater
  | less
  | atLeast
  | atMost
  | like
  deriving DecidableEq, Repr

namespace Operator

def token : Operator → String
  | equal => "="
  | notEqual => "!="
  | greater => ">"
  | less => "<"
  | atLeast => ">="
  | atMost => "<="
  | like => "LIKE"

/-- The comparisons in the order in which they are tried: no token begins a later one. -/
def comparisons : List Operator :=
  [notEqual, atLeast, atMost, greater, less, equal]

def ofToken? (text : String) : Option Operator :=
  (like :: comparisons).find? (·.token == text)

theorem ofToken?_token (operator : Operator) : ofToken? operator.token = some operator := by
  cases operator <;> decide

end Operator

structure Condition where
  field : String
  operator : Operator
  /-- The literal without the quotes around it. -/
  value : String
  deriving DecidableEq, Repr

namespace Condition

/-- A pattern, and a literal that is no number, stands in quotes. -/
def isQuoted (condition : Condition) : Bool :=
  condition.operator == .like || (Literal.ofText? condition.value.toList).isNone

def literalChars (condition : Condition) : List Char :=
  if condition.isQuoted then '\'' :: condition.value.toList ++ ['\'']
  else condition.value.toList

def chars (condition : Condition) : List Char :=
  condition.field.toList ++ ' ' :: condition.operator.token.toList ++ ' ' :: condition.literalChars

def text (condition : Condition) : String :=
  String.ofList condition.chars

end Condition

end TableQuery
