import TableQuery.Request
import TableQuery.Row

/-! The fields of results. -/

set_option autoImplicit false

namespace TableQuery

def wildcard : String :=
  "*"

namespace Row

def selected (row : Row) (field : String) : List (String × Value) :=
  if field = wildcard then row.entries else [(field, (row.get? field).getD .null)]

/-- The requested fields in their order. A field that the row lacks is null. -/
def project (row : Row) (fields : List String) : Row :=
  .ofEntries (fields.flatMap row.selected)

end Row

/-- The keys of a table's rows under the table's name, each once, in order of first appearance. -/
def Table.qualifiedKeys (name : String) (rows : Table) : List String :=
  addMissing [] ((rows.flatMap Row.keys).map fun key => name ++ "." ++ key)

/-- Puts the keys of both tables in place of each wildcard. -/
def expandWildcard (fields : List String) (mainTable : String) (main : Table) (joinedTable : String)
    (joined : Table) : List String :=
  fields.flatMap fun field =>
    if field = wildcard then
      main.qualifiedKeys mainTable ++ joined.qualifiedKeys joinedTable
    else [field]

end TableQuery
