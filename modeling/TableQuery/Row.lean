import TableQuery.Names
import TableQuery.Value

/-! Rows: fields in insertion order, each key once. -/

set_option autoImplicit false

namespace TableQuery

def keysOf (entries : List (String × Value)) : List String :=
  entries.map Prod.fst

/-- A repeated key keeps its place and takes the new value; a new key goes to the end. -/
def putEntry (key : String) (value : Value) : List (String × Value) → List (String × Value)
  | [] => [(key, value)]
  | entry :: rest =>
    if entry.1 = key then (entry.1, value) :: rest else entry :: putEntry key value rest

theorem keysOf_putEntry (key : String) (value : Value) (entries : List (String × Value)) :
    keysOf (putEntry key value entries) =
      if key ∈ keysOf entries then keysOf entries else keysOf entries ++ [key] := by
  induction entries with
  | nil => simp [putEntry, keysOf]
  | cons entry rest ih =>
    simp only [keysOf] at ih
    by_cases same : entry.1 = key
    · simp [putEntry, keysOf, same]
    · have other : ¬ key = entry.1 := fun equal => same equal.symm
      by_cases member : key ∈ rest.map Prod.fst
      · simp [putEntry, keysOf, same, other, ih, member]
      · simp [putEntry, keysOf, same, other, ih, member]

theorem lookup_putEntry (key other : String) (value : Value) (entries : List (String × Value)) :
    (putEntry key value entries).lookup other =
      if other = key then some value else entries.lookup other := by
  induction entries with
  | nil =>
    by_cases same : other = key
    · simp [putEntry, same]
    · simp [putEntry, List.lookup_cons, beq_false_of_ne same, same]
  | cons entry rest ih =>
    obtain ⟨first, held⟩ := entry
    by_cases same : first = key
    · subst same
      by_cases equal : other = first
      · simp [putEntry, equal]
      · simp [putEntry, List.lookup_cons, beq_false_of_ne equal, equal]
    · by_cases equal : other = first
      · subst equal
        simp [putEntry, same]
      · simp [putEntry, same, List.lookup_cons, ih, beq_false_of_ne equal]

structure Row where
  entries : List (String × Value)
  distinct : (keysOf entries).Nodup

namespace Row

@[ext] theorem ext {first second : Row} (same : first.entries = second.entries) :
    first = second := by
  cases first; cases second; simp_all

instance : Inhabited Row where
  default := ⟨[], by simp [keysOf]⟩

instance : EmptyCollection Row where
  emptyCollection := default

def keys (row : Row) : List String :=
  keysOf row.entries

def get? (row : Row) (key : String) : Option Value :=
  row.entries.lookup key

def insert (row : Row) (key : String) (value : Value) : Row where
  entries := putEntry key value row.entries
  distinct := by
    rw [keysOf_putEntry]
    split
    · exact row.distinct
    · rename_i absent
      rw [List.nodup_append]
      exact ⟨row.distinct, by simp, by
        intro first member second other equal
        simp only [List.mem_singleton] at other
        exact absent (other ▸ equal ▸ member)⟩

def insertAll (row : Row) (entries : List (String × Value)) : Row :=
  entries.foldl (fun row entry => row.insert entry.1 entry.2) row

def ofEntries (entries : List (String × Value)) : Row :=
  (∅ : Row).insertAll entries

def toValue (row : Row) : Value :=
  .object row.entries

@[simp] theorem keys_empty : (∅ : Row).keys = [] := rfl

@[simp] theorem get?_empty (key : String) : (∅ : Row).get? key = none := rfl

theorem keys_nodup (row : Row) : row.keys.Nodup :=
  row.distinct

theorem keys_insert (row : Row) (key : String) (value : Value) :
    (row.insert key value).keys = if key ∈ row.keys then row.keys else row.keys ++ [key] :=
  keysOf_putEntry key value row.entries

theorem get?_insert (row : Row) (key other : String) (value : Value) :
    (row.insert key value).get? other = if other = key then some value else row.get? other :=
  lookup_putEntry key other value row.entries

theorem get?_insertAll (row : Row) (entries : List (String × Value)) (key : String) :
    (row.insertAll entries).get? key = (entries.reverse.lookup key).or (row.get? key) := by
  induction entries generalizing row with
  | nil => rfl
  | cons entry rest ih =>
    have step : row.insertAll (entry :: rest) = (row.insert entry.1 entry.2).insertAll rest := rfl
    obtain ⟨first, value⟩ := entry
    rw [step, ih, List.reverse_cons, List.lookup_append, Option.or_assoc, get?_insert]
    by_cases same : key = first
    · simp [same]
    · simp [same, List.lookup_cons, beq_false_of_ne same]

theorem keys_insertAll (row : Row) (entries : List (String × Value)) :
    (row.insertAll entries).keys = addMissing row.keys (keysOf entries) := by
  induction entries generalizing row with
  | nil => rfl
  | cons entry rest ih =>
    have step : row.insertAll (entry :: rest) = (row.insert entry.1 entry.2).insertAll rest := rfl
    rw [step, ih, keys_insert]
    rfl

theorem get?_ofEntries (entries : List (String × Value)) (key : String) :
    (ofEntries entries).get? key = entries.reverse.lookup key := by
  simp [ofEntries, get?_insertAll]

theorem keys_ofEntries (entries : List (String × Value)) :
    (ofEntries entries).keys = addMissing [] (keysOf entries) :=
  keys_insertAll ∅ entries

end Row

abbrev Table : Type := List Row

end TableQuery
