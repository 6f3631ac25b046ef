import TableQuery.Request
import TableQuery.Value

/-! Requests as canonical query text and as values. -/

set_option autoImplicit false

namespace TableQuery

def listed (names : List String) : List Char :=
  [',', ' '].intercalate (names.map String.toList)

def Join.chars (join : Join) : List Char :=
  ' ' :: join.kind.keyword.toList ++ " JOIN ".toList ++ join.table.toList ++ " ON ".toList ++
    join.keys.left.toList ++ " = ".toList ++ join.keys.right.toList

def OrderKey.chars (key : OrderKey) : List Char :=
  key.field.toList ++ ' ' :: key.direction.keyword.toList

namespace Request

def whereChars (conditions : List Condition) : List Char :=
  if conditions.isEmpty then []
  else " WHERE ".toList ++ " AND ".toList.intercalate (conditions.map Condition.chars)

def groupByChars : Option (List String) → List Char
  | none => []
  | some fields => " GROUP BY ".toList ++ listed fields

def orderByChars : Option (List OrderKey) → List Char
  | none => []
  | some keys => " ORDER BY ".toList ++ [',', ' '].intercalate (keys.map OrderKey.chars)

/-- The query in one line: single spaces, keywords in capitals, each clause in its place. -/
def chars (request : Request) : List Char :=
  "SELECT ".toList ++ listed request.fields ++ " FROM ".toList ++ request.table.toList ++
    (request.join.map Join.chars).getD [] ++ whereChars request.conditions ++
    groupByChars request.groupBy ++ orderByChars request.orderBy

def text (request : Request) : String :=
  String.ofList request.chars

end Request

def Condition.toValue (condition : Condition) : Value :=
  .object [("field", .string condition.field), ("operator", .string condition.operator.token),
    ("value", .string condition.value)]

def JoinKind.toValue : JoinKind → Value
  | .inner => .string "Inner"
  | .left => .string "Left"
  | .right => .string "Right"

def Join.toValue (join : Join) : Value :=
  .object [("kind", join.kind.toValue), ("table", .string join.table),
    ("condition", .object [("left", .string join.keys.left), ("right", .string join.keys.right)])]

def Direction.toValue : Direction → Value
  | .ascending => .string "Asc"
  | .descending => .string "Desc"

def OrderKey.toValue (key : OrderKey) : Value :=
  .object [("field", .string key.field), ("direction", key.direction.toValue)]

def Value.ofOption (value : Option Value) : Value :=
  value.getD .null

def Value.ofStrings (texts : List String) : Value :=
  .array (texts.map .string)

def Request.toValue (request : Request) : Value :=
  .object [("fields", .ofStrings request.fields),
    ("table", .string request.table),
    ("where_clauses", .array (request.conditions.map Condition.toValue)),
    ("join", .ofOption (request.join.map Join.toValue)),
    ("group_by_fields", .ofOption (request.groupBy.map .ofStrings)),
    ("order_by_fields",
      .ofOption (request.orderBy.map fun keys => .array (keys.map OrderKey.toValue))),
    ("has_ungrouped_aggregate", .bool request.ungroupedAggregate)]

end TableQuery
