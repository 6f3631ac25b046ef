import TableQuery.Condition
import TableQuery.Pattern
import TableQuery.Row
import TableQuery.Text.Blank

/-! Conditions evaluated on rows.

The cell decides how the literal is read: against a numeric literal a number compares as a
number, every other cell as text. A missing or null cell satisfies only `!=`.
-/

set_option autoImplicit false

namespace TableQuery

inductive EvaluationError where
  | unsupportedOperator (field : String) (operator : Operator) (kind : String)
  | likeDisabled (field : String)
  deriving DecidableEq, Repr

namespace EvaluationError

def unsupportedCode : String :=
  "QUERY_UNSUPPORTED_OPERATOR"

def likeDisabledCode : String :=
  "QUERY_LIKE_NOT_SUPPORTED"

def codes : List String :=
  [unsupportedCode, likeDisabledCode]

def code : EvaluationError → String
  | unsupportedOperator .. => unsupportedCode
  | likeDisabled _ => likeDisabledCode

def field : EvaluationError → String
  | unsupportedOperator field .. => field
  | likeDisabled field => field

def message : EvaluationError → String
  | unsupportedOperator field operator kind =>
    "Unsupported operator: " ++ operator.token ++ " on " ++ kind ++ " value of '" ++ field ++ "'"
  | likeDisabled field =>
    "LIKE condition on '" ++ field ++
      "' cannot be evaluated: pattern matching is disabled (enable like_matching)"

def text (error : EvaluationError) : String :=
  "[ERROR] " ++ error.code ++ ": " ++ error.message

end EvaluationError

def Value.plainText? : Value → Option String
  | .string value => some value
  | .int value => some (Value.intText value)
  | .float value => some value.text
  | .bool value => some (Value.boolText value)
  | _ => none

/-- How a cell stands to a literal. -/
inductive Comparison where
  | ordered (ordering : Ordering)
  /-- The literal is a number that is not comparable with any. -/
  | unordered
  /-- There is no value to compare. -/
  | absent
  /-- The cell is of a kind without an order. -/
  | unsupported (kind : String)
  deriving DecidableEq, Repr

namespace Comparison

def ofText (cell : Value) (literal : String) : Comparison :=
  match cell.plainText? with
  | some text => .ordered (compare text literal)
  | none => .unsupported cell.kind

def ofNumber (number : Double) (literal : Literal) : Comparison :=
  match literal.compare? number with
  | some ordering => .ordered ordering
  | none => .unordered

def ofCell (cell : Option Value) (literal : String) : Comparison :=
  match cell with
  | none | some .null => .absent
  | some cell =>
    -- Only a numeric literal may have blanks around it; a text compares as it stands.
    match cell.number?, Literal.ofText? (Text.trim literal.toList) with
    | some number, some value => ofNumber number value
    | _, _ => ofText cell literal

end Comparison

def Operator.accepts : Operator → Ordering → Bool
  | equal, ordering => ordering == .eq
  | notEqual, ordering => ordering != .eq
  | greater, ordering => ordering == .gt
  | less, ordering => ordering == .lt
  | atLeast, ordering => ordering != .lt
  | atMost, ordering => ordering != .gt
  | like, _ => false

namespace Condition

def compares (condition : Condition) (cell : Option Value) : Except EvaluationError Bool :=
  match Comparison.ofCell cell condition.value with
  | .ordered ordering => .ok (condition.operator.accepts ordering)
  | .unordered | .absent => .ok (condition.operator == .notEqual)
  | .unsupported kind =>
    .error (.unsupportedOperator condition.field condition.operator kind)

/-- A missing or null cell has no form, so no pattern holds of it. -/
def isLike (condition : Condition) : Option Value → Except EvaluationError Bool
  | none | some .null => .ok false
  | some cell =>
    match cell.plainText? with
    | some text => .ok (Pattern.holds condition.value text)
    | none => .error (.unsupportedOperator condition.field .like cell.kind)

/-- Whether a row satisfies a condition; `likeMatching` allows patterns. -/
def holds (likeMatching : Bool) (row : Row) (condition : Condition) :
    Except EvaluationError Bool :=
  let cell := row.get? condition.field
  if condition.operator = .like then
    if likeMatching then condition.isLike cell else .error (.likeDisabled condition.field)
  else condition.compares cell

/-- Whether a row satisfies all conditions. The first one that fails or errs decides. -/
def allHold (likeMatching : Bool) (row : Row) : List Condition → Except EvaluationError Bool
  | [] => .ok true
  | condition :: rest =>
    match condition.holds likeMatching row with
    | .error error => .error error
    | .ok false => .ok false
    | .ok true => allHold likeMatching row rest

end Condition

/-- The rows that satisfy all conditions, in their order; the first row that errs decides. -/
def Table.satisfying (likeMatching : Bool) (conditions : List Condition) :
    Table → Except EvaluationError Table
  | [] => .ok []
  | row :: rest =>
    match Condition.allHold likeMatching row conditions with
    | .error error => .error error
    | .ok kept =>
      match Table.satisfying likeMatching conditions rest with
      | .error error => .error error
      | .ok rows => .ok (if kept then row :: rows else rows)

end TableQuery
