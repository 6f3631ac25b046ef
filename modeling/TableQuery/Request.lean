import TableQuery.Condition
import TableQuery.Join
import TableQuery.Names

/-! What a query asks for. -/

set_option autoImplicit false

namespace TableQuery

inductive Direction where
  | ascending
  | descending
  deriving DecidableEq, Repr

def Direction.keyword : Direction → String
  | .ascending => "ASC"
  | .descending => "DESC"

structure OrderKey where
  field : String
  direction : Direction
  deriving DecidableEq, Repr

structure Request where
  /-- The fields to show; `*` stands for all of them. -/
  fields : List String
  table : String
  /-- The rows to keep satisfy all of these. -/
  conditions : List Condition
  join : Option Join
  /-- Recorded but not applied. -/
  groupBy : Option (List String)
  orderBy : Option (List OrderKey)
  /-- Whether the text calls an aggregate function without grouping. -/
  ungroupedAggregate : Bool
  deriving DecidableEq, Repr

namespace Request

/-- The fields that conditions and order keys read, in order, with repetitions. -/
def referencedFields (request : Request) : List String :=
  request.conditions.map (·.field) ++ (request.orderBy.getD []).map (·.field)

/-- The referenced fields that are not shown, each once, in order of first appearance. -/
def auxiliaryFields (request : Request) : List String :=
  addMissing [] (request.referencedFields.filter (· ∉ request.fields))

theorem mem_auxiliaryFields {request : Request} {name : String} :
    name ∈ request.auxiliaryFields ↔
      name ∈ request.referencedFields ∧ name ∉ request.fields := by
  simp [auxiliaryFields, mem_addMissing]

end Request

end TableQuery
