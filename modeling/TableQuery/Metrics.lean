import TableQuery.Json.Printer

/-! Query counters: words of 64 bits that wrap around. -/

set_option autoImplicit false

namespace TableQuery

@[ext] structure Metrics where
  queriesExecuted : UInt64 := 0
  queriesFailed : UInt64 := 0
  rowsLoaded : UInt64 := 0
  rowsJoined : UInt64 := 0
  rowsFilteredOut : UInt64 := 0
  rowsReturned : UInt64 := 0
  deriving DecidableEq, Repr

namespace Metrics

instance : Zero Metrics where
  zero := {}

instance : Add Metrics where
  add first second :=
    { queriesExecuted := first.queriesExecuted + second.queriesExecuted
      queriesFailed := first.queriesFailed + second.queriesFailed
      rowsLoaded := first.rowsLoaded + second.rowsLoaded
      rowsJoined := first.rowsJoined + second.rowsJoined
      rowsFilteredOut := first.rowsFilteredOut + second.rowsFilteredOut
      rowsReturned := first.rowsReturned + second.rowsReturned }

theorem add_comm (first second : Metrics) : first + second = second + first := by
  ext1 <;> exact UInt64.add_comm _ _

theorem add_assoc (first second third : Metrics) :
    first + second + third = first + (second + third) := by
  ext1 <;> exact UInt64.add_assoc _ _ _

theorem zero_add (metrics : Metrics) : 0 + metrics = metrics := by
  ext1 <;> exact UInt64.zero_add _

theorem add_zero (metrics : Metrics) : metrics + 0 = metrics := by
  ext1 <;> exact UInt64.add_zero _

def entries (metrics : Metrics) : List (String × UInt64) :=
  [("queries_executed", metrics.queriesExecuted), ("queries_failed", metrics.queriesFailed),
   ("rows_loaded", metrics.rowsLoaded), ("rows_joined", metrics.rowsJoined),
   ("rows_filtered_out", metrics.rowsFilteredOut), ("rows_returned", metrics.rowsReturned)]

def toValue (metrics : Metrics) : Value :=
  .object (metrics.entries.map fun entry => (entry.1, .int entry.2.toNat))

end Metrics

/-- A count that a query adds to the counters. Queries are counted one by one. -/
inductive Count where
  | queryExecuted
  | queryFailed
  | rowsLoaded (rows : Nat)
  | rowsJoined (rows : Nat)
  | rowsFilteredOut (rows : Nat)
  | rowsReturned (rows : Nat)
  deriving DecidableEq, Repr

def Count.metrics : Count → Metrics
  | queryExecuted => { queriesExecuted := 1 }
  | queryFailed => { queriesFailed := 1 }
  | rowsLoaded rows => { rowsLoaded := rows.toUInt64 }
  | rowsJoined rows => { rowsJoined := rows.toUInt64 }
  | rowsFilteredOut rows => { rowsFilteredOut := rows.toUInt64 }
  | rowsReturned rows => { rowsReturned := rows.toUInt64 }

end TableQuery
