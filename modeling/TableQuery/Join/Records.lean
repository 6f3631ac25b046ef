import TableQuery.Join
import TableQuery.Row

/-! The records of a join.

A main row and a joined row match when both hold the key of the join, with the same non-null
value. A record has the requested fields. `table.field` reads the main row if `table` is the main
table, and else the joined row; a name without a table reads the main row if it has that key, and
else the joined row. On the side that an outer join leaves open every field is null.
-/

set_option autoImplicit false

namespace TableQuery

/-- The rows that make up a record: at least one of the two sides. -/
inductive RowPair where
  | both (main joined : Row)
  | mainOnly (main : Row)
  | joinedOnly (joined : Row)

namespace RowPair

def main? : RowPair → Option Row
  | both main _ => some main
  | mainOnly main => some main
  | joinedOnly _ => none

def joined? : RowPair → Option Row
  | both _ joined => some joined
  | mainOnly _ => none
  | joinedOnly joined => some joined

def side (mainTable : String) (name : QualifiedName) (pair : RowPair) : Option Row :=
  if name.table = "" then
    if pair.main?.any fun row => (row.get? name.field).isSome then pair.main? else pair.joined?
  else if name.table = mainTable then pair.main?
  else pair.joined?

/-- The value of a field; null where its side has none. -/
def resolve (mainTable : String) (pair : RowPair) (field : String) : Value :=
  let name := QualifiedName.ofName field
  ((pair.side mainTable name).bind fun row => row.get? name.field).getD .null

def record (mainTable : String) (fields : List String) (pair : RowPair) : Row :=
  .ofEntries (fields.map fun field => (field, pair.resolve mainTable field))

end RowPair

/-- Equal non-null values. -/
def sameKey : Option Value → Option Value → Bool
  | some .null, _ | _, some .null => false
  | some first, some second => first.same second
  | _, _ => false

def JoinKeys.hold (keys : JoinKeys) (main joined : Row) : Bool :=
  sameKey (main.get? keys.leftName.field) (joined.get? keys.rightName.field)

/-- The pairs with one driving row: its matches, or the row alone. -/
def orAlone (alone : RowPair) (pairs : List RowPair) : List RowPair :=
  if pairs.isEmpty then [alone] else pairs

namespace JoinKind

/-- The row pairs of a join. INNER and LEFT follow the main table, RIGHT the joined one; the
matches of one row follow the other table. -/
def pairs (kind : JoinKind) (keys : JoinKeys) (main joined : Table) : List RowPair :=
  let withMain (row : Row) :=
    (joined.filter fun other => keys.hold row other).map (RowPair.both row)
  let withJoined (row : Row) :=
    (main.filter fun other => keys.hold other row).map fun other => RowPair.both other row
  match kind with
  | inner => main.flatMap withMain
  | left => main.flatMap fun row => orAlone (.mainOnly row) (withMain row)
  | right => joined.flatMap fun row => orAlone (.joinedOnly row) (withJoined row)

def records (kind : JoinKind) (keys : JoinKeys) (mainTable : String) (fields : List String)
    (main joined : Table) : Table :=
  (kind.pairs keys main joined).map (RowPair.record mainTable fields)

end JoinKind

end TableQuery
