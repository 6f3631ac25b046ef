import TableQuery.Json.Reader
import TableQuery.Source

/-! Tables held in memory. -/

set_option autoImplicit false

namespace TableQuery

/-- Tables by name; of two with one name the first counts. -/
structure Memory where
  tables : List (String × Table)

namespace Memory

def empty : Memory :=
  ⟨[]⟩

def insert (memory : Memory) (name : String) (rows : Table) : Memory :=
  ⟨(name, rows) :: memory.tables⟩

def hasTable (memory : Memory) (name : String) : Bool :=
  (memory.tables.lookup name).isSome

def load (memory : Memory) : Source := fun name =>
  match memory.tables.lookup name with
  | some rows => .ok rows
  | none => .error (.tableNotFound name)

def readRows (table : String) (index : Nat) : List Value → Except SourceError Table
  | [] => .ok []
  | .object fields :: rest => (readRows table (index + 1) rest).map (Row.ofEntries fields :: ·)
  | _ :: _ => .error (.rowNotObject table index)

def readTables : List (String × Value) → Except SourceError (List (String × Table))
  | [] => .ok []
  | (name, .array items) :: rest => do
    let rows ← readRows name 0 items
    let tables ← readTables rest
    return (name, rows) :: tables
  | (name, _) :: _ => .error (.tableNotArray name)

def ofValue : Value → Except SourceError Memory
  | .object tables => (readTables tables).map Memory.mk
  | _ => .error .documentNotObject

def ofJson (document : String) : Except SourceError Memory :=
  match Json.value? document with
  | some value => ofValue value
  | none => .error .invalidDocument

@[simp] theorem load_insert (memory : Memory) (name other : String) (rows : Table) :
    (memory.insert name rows).load other =
      if other = name then .ok rows else memory.load other := by
  by_cases same : other = name
  · simp [load, insert, same]
  · simp [load, insert, List.lookup_cons, beq_false_of_ne same, same]

end Memory

end TableQuery
