import TableQuery.Query.Aggregate
import TableQuery.Query.Clauses
import TableQuery.Query.Filter
import TableQuery.Query.Selection

/-! Requests read from query text. -/

set_option autoImplicit false

namespace TableQuery.Request

open Query

def checkJoin : Option Join → Except Rejection Unit
  | some join => if join.keys.isQualified then .ok () else .error (.unqualifiedJoin join.keys)
  | none => .ok ()

def ofChars (query : List Char) : Except Rejection Request := do
  let clauses ← Clauses.ofQuery query
  let selection ← Selection.ofText clauses.selection
  checkJoin selection.join
  let conditions ← match clauses.filter with
    | some text => readConditions text
    | none => .ok []
  return {
    fields := selection.fields
    table := selection.table
    conditions
    join := selection.join
    groupBy := clauses.groupBy
    orderBy := clauses.orderBy
    ungroupedAggregate := hasUngroupedAggregate query clauses.groupBy }

def ofText (query : String) : Except Rejection Request :=
  ofChars query.toList

end TableQuery.Request
