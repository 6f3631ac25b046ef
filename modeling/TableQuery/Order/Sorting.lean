import TableQuery.Request
import TableQuery.Row

/-! Rows in order.

A missing cell comes before null, null before booleans, then numbers, texts, arrays and objects.
Arrays tie with each other, and so do objects. Rows that tie on every key keep their order.
-/

set_option autoImplicit false

namespace TableQuery

def rank : Option Value → Nat
  | none => 0
  | some .null => 1
  | some (.bool _) => 2
  | some (.int _) | some (.float _) => 3
  | some (.string _) => 4
  | some (.array _) => 5
  | some (.object _) => 6

def compareAlike : Option Value → Option Value → Ordering
  | some (.bool first), some (.bool second) => compare first second
  | some (.string first), some (.string second) => compare first second
  | some first, some second =>
    match first.number?, second.number? with
    | some first, some second => first.compare second
    | _, _ => .eq
  | _, _ => .eq

def compareCells (first second : Option Value) : Ordering :=
  (compare (rank first) (rank second)).then (compareAlike first second)

namespace OrderKey

def compareRows (key : OrderKey) (first second : Row) : Ordering :=
  let ordering := compareCells (first.get? key.field) (second.get? key.field)
  match key.direction with
  | .ascending => ordering
  | .descending => ordering.swap

/-- The first key that tells two rows apart decides. -/
def compareAll : List OrderKey → Row → Row → Ordering
  | [], _, _ => .eq
  | key :: rest, first, second => (key.compareRows first second).then (compareAll rest first second)

end OrderKey

def Table.sort (rows : Table) (keys : List OrderKey) : Table :=
  rows.mergeSort fun first second => OrderKey.compareAll keys first second != .gt

theorem Table.sort_perm (rows : Table) (keys : List OrderKey) : (rows.sort keys).Perm rows :=
  List.mergeSort_perm rows _

end TableQuery
