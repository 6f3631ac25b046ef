import TableQuery.Proofs.Serialization

/-! Tables from documents.

A document is an object of tables, and a table is an array of rows, which are objects. Then its
tables are its members, row for row. Of any other document the first fault is reported and no table
is loaded.
-/

set_option autoImplicit false

namespace TableQuery

namespace Value

def isRow : Value → Bool
  | object _ => true
  | _ => false

def isTable : Value → Bool
  | array items => items.all isRow
  | _ => false

end Value

theorem Row.toValue_ofEntries {fields : List (String × Value)} (distinct : (keysOf fields).Nodup) :
    (Row.ofEntries fields).toValue = .object fields := by
  rw [toValue, entries_ofEntries distinct]

namespace Memory

def tableValue (rows : Table) : Value :=
  .array (rows.map Row.toValue)

theorem tableValue_injective : Function.Injective tableValue :=
  Value.array_map_injective Row.toValue_injective

/-- The first fault of a document, given what it was parsed to: the error, and what it is about. -/
inductive Fault : Option Value → SourceError → (table reason : String) → Prop where
  | invalid : Fault none .invalidDocument SourceError.document "invalid JSON"
  | notTables {value : Value} (other : ∀ members, value ≠ .object members) :
      Fault (some value) .documentNotObject SourceError.document "expected an object of tables"
  | notArray {before after : List (String × Value)} {name : String} {value : Value}
      (tables : ∀ member ∈ before, member.2.isTable = true)
      (other : ∀ items, value ≠ .array items) :
      Fault (some (.object (before ++ (name, value) :: after))) (.tableNotArray name) name
        "expected an array of rows"
  | notRow {before after : List (String × Value)} {name : String} {rows rest : List Value}
      {item : Value} (tables : ∀ member ∈ before, member.2.isTable = true)
      (objects : ∀ row ∈ rows, row.isRow = true) (other : item.isRow = false) :
      Fault (some (.object (before ++ (name, .array (rows ++ item :: rest)) :: after)))
        (.rowNotObject name rows.length) name
        ("row " ++ SourceError.natText rows.length ++ " is not an object")

section Rows
variable {table : String} {index : Nat}

theorem map_toValue_of_readRows {items : List Value} (formed : ∀ item ∈ items, item.WellFormed)
    {rows : Table} (read : readRows table index items = .ok rows) :
    rows.map Row.toValue = items := by
  induction items generalizing index rows with
  | nil =>
    cases read
    rfl
  | cons item rest ih =>
    obtain ⟨here, later⟩ := List.forall_mem_cons.1 formed
    cases here with
    | object distinct _ =>
      obtain ⟨others, reads, rfl⟩ := map_eq_ok_iff.1 read
      rw [List.map_cons, Row.toValue_ofEntries distinct, ih later reads]
    | _ => cases read

theorem exists_readRows_cons (table : String) (index : Nat) {item : Value}
    (object : item.isRow = true) :
    ∃ row, ∀ rest, readRows table index (item :: rest) =
      (readRows table (index + 1) rest).map (row :: ·) := by
  cases item with
  | object fields => exact ⟨.ofEntries fields, fun rest => rfl⟩
  | _ => cases object

theorem exists_readRows (table : String) (index : Nat) {items : List Value}
    (objects : ∀ item ∈ items, item.isRow = true) :
    ∃ rows, readRows table index items = .ok rows := by
  induction items generalizing index with
  | nil => exact ⟨[], rfl⟩
  | cons item rest ih =>
    obtain ⟨here, later⟩ := List.forall_mem_cons.1 objects
    obtain ⟨row, step⟩ := exists_readRows_cons table index here
    obtain ⟨rows, reads⟩ := ih (index + 1) later
    exact ⟨row :: rows, by rw [step, reads]; rfl⟩

theorem readRows_of_stray {before : List Value} (objects : ∀ item ∈ before, item.isRow = true)
    {item : Value} (other : item.isRow = false) (after : List Value) :
    readRows table index (before ++ item :: after) =
      .error (.rowNotObject table (index + before.length)) := by
  induction before generalizing index with
  | nil =>
    cases item with
    | object fields => cases other
    | _ => rfl
  | cons first before ih =>
    obtain ⟨here, later⟩ := List.forall_mem_cons.1 objects
    obtain ⟨row, step⟩ := exists_readRows_cons table index here
    rw [List.cons_append, step, ih later, List.length_cons, Nat.add_assoc, Nat.add_comm 1]
    rfl

end Rows

section Tables

theorem map_tableValue_of_readTables {members : List (String × Value)}
    (formed : ∀ member ∈ members, member.2.WellFormed) {tables : List (String × Table)}
    (read : readTables members = .ok tables) :
    tables.map (fun entry => (entry.1, tableValue entry.2)) = members := by
  induction members generalizing tables with
  | nil =>
    cases read
    rfl
  | cons member rest ih =>
    obtain ⟨name, value⟩ := member
    obtain ⟨here, later⟩ := List.forall_mem_cons.1 formed
    cases here with
    | array each =>
      obtain ⟨rows, reads, read⟩ := bind_eq_ok_iff.1 read
      obtain ⟨others, reads', same⟩ := bind_eq_ok_iff.1 read
      cases same
      rw [List.map_cons, ih later reads', tableValue, map_toValue_of_readRows each reads]
    | _ => cases read

theorem exists_readTables_cons (name : String) {value : Value} (table : value.isTable = true) :
    ∃ rows, ∀ rest, readTables ((name, value) :: rest) =
      (readTables rest).map ((name, rows) :: ·) := by
  cases value with
  | array items =>
    obtain ⟨rows, reads⟩ := exists_readRows name 0 (List.all_eq_true.1 table)
    exact ⟨rows, fun rest => by rw [readTables, reads]; rfl⟩
  | _ => cases table

theorem exists_readTables {members : List (String × Value)}
    (tables : ∀ member ∈ members, member.2.isTable = true) :
    ∃ read, readTables members = .ok read := by
  induction members with
  | nil => exact ⟨[], rfl⟩
  | cons member rest ih =>
    obtain ⟨here, later⟩ := List.forall_mem_cons.1 tables
    obtain ⟨rows, step⟩ := exists_readTables_cons member.1 here
    obtain ⟨others, reads⟩ := ih later
    exact ⟨(member.1, rows) :: others, by rw [step, reads]; rfl⟩

/-- Tables in front of a fault do not hide it. -/
theorem readTables_append_error {before rest : List (String × Value)}
    (tables : ∀ member ∈ before, member.2.isTable = true) {error : SourceError}
    (stops : readTables rest = .error error) : readTables (before ++ rest) = .error error := by
  induction before with
  | nil => exact stops
  | cons member before ih =>
    obtain ⟨here, later⟩ := List.forall_mem_cons.1 tables
    obtain ⟨rows, step⟩ := exists_readTables_cons member.1 here
    rw [List.cons_append, step, ih later]
    rfl

end Tables

section Faults
variable {parsed : Option Value} {error : SourceError} {table reason : String}

theorem ofJson_eq (document : String) : ofJson document =
    match Json.value? document with
    | some (.object members) => (readTables members).map Memory.mk
    | some _ => .error .documentNotObject
    | none => .error .invalidDocument := by
  rw [ofJson]
  cases Json.value? document with
  | none => rfl
  | some value => cases value <;> rfl

theorem exists_ofJson {document : String} {members : List (String × Value)}
    (parsed : Json.value? document = some (.object members))
    (tables : ∀ member ∈ members, member.2.isTable = true) :
    ∃ memory, ofJson document = .ok memory := by
  obtain ⟨read, reads⟩ := exists_readTables tables
  refine ⟨⟨read⟩, ?_⟩
  rw [ofJson_eq, parsed]
  exact congrArg (Except.map Memory.mk) reads

theorem ofJson_of_fault {document : String}
    (fault : Fault (Json.value? document) error table reason) : ofJson document = .error error := by
  rw [ofJson_eq]
  generalize Json.value? document = parsed at fault
  cases fault with
  | invalid => rfl
  | @notTables value other =>
    cases value with
    | object members => exact absurd rfl (other members)
    | _ => rfl
  | @notArray before after name value tables other =>
    have stops : readTables ((table, value) :: after) = .error (.tableNotArray table) := by
      cases value with
      | array items => exact absurd rfl (other items)
      | _ => rfl
    dsimp only
    rw [readTables_append_error tables stops]
    rfl
  | @notRow before after name rows rest item tables objects other =>
    have stops : readTables ((table, .array (rows ++ item :: rest)) :: after) =
        .error (.rowNotObject table rows.length) := by
      rw [readTables, readRows_of_stray objects other, Nat.zero_add]
      rfl
    dsimp only
    rw [readTables_append_error tables stops]
    rfl

theorem Fault.reported (fault : Fault parsed error table reason) :
    error.isMissing = false ∧ error.text = SourceError.readFailed table reason := by
  cases fault <;> exact ⟨rfl, rfl⟩

theorem exists_fault (stray : ¬∃ members, parsed = some (.object members) ∧
      ∀ member ∈ members, member.2.isTable = true) :
    ∃ error table reason, Fault parsed error table reason := by
  cases parsed with
  | none => exact ⟨_, _, _, .invalid⟩
  | some value =>
    cases value with
    | object members =>
      obtain ⟨before, ⟨name, value⟩, after, rfl, tables, other⟩ :=
        exists_first_failing fun tables => stray ⟨members, rfl, tables⟩
      cases value with
      | array items =>
        obtain ⟨rows, item, rest, rfl, objects, other⟩ :=
          exists_first_failing (mt List.all_eq_true.2 other)
        exact ⟨_, _, _, .notRow tables objects (Bool.eq_false_iff.2 other)⟩
      | _ => exact ⟨_, _, _, .notArray tables (by simp)⟩
    | _ => exact ⟨_, _, _, .notTables (by simp)⟩

theorem exists_ofJson_iff {document : String} : (∃ memory, ofJson document = .ok memory) ↔
    ∃ members, Json.value? document = some (.object members) ∧
      ∀ member ∈ members, member.2.isTable = true := by
  constructor
  · rintro ⟨memory, loaded⟩
    by_contra stray
    obtain ⟨error, table, reason, fault⟩ := exists_fault stray
    rw [ofJson_of_fault fault] at loaded
    cases loaded
  · rintro ⟨members, parsed, tables⟩
    exact exists_ofJson parsed tables

theorem ofJson_eq_error_iff {document : String} : ofJson document = .error error ↔
    ∃ table reason, Fault (Json.value? document) error table reason := by
  constructor
  · intro failed
    have unloaded : ¬∃ memory, ofJson document = .ok memory := by simp [failed]
    -- The fault that there is then has to be the one reported.
    obtain ⟨first, table, reason, fault⟩ := exists_fault (mt exists_ofJson_iff.2 unloaded)
    rw [ofJson_of_fault fault] at failed
    cases failed
    exact ⟨table, reason, fault⟩
  · rintro ⟨table, reason, fault⟩
    exact ofJson_of_fault fault

end Faults

/-- What loading a document gives: the tables that it is an object of, or its first fault. -/
structure LoadsDocument (document : String) (loaded : Except SourceError Memory) : Prop where
  succeeds_iff : (∃ memory, loaded = .ok memory) ↔
    ∃ members, Json.value? document = some (.object members) ∧
      ∀ member ∈ members, member.2.isTable = true
  present_iff : ∀ memory members, loaded = .ok memory →
    Json.value? document = some (.object members) →
    ∀ name, memory.hasTable name = true ↔ name ∈ keysOf members
  rows_iff : ∀ memory members, loaded = .ok memory →
    Json.value? document = some (.object members) →
    ∀ name rows, memory.load name = .ok rows ↔ (name, tableValue rows) ∈ members
  fails_iff : ∀ error, loaded = .error error ↔
    ∃ table reason, Fault (Json.value? document) error table reason
  reported : ∀ error table reason, Fault (Json.value? document) error table reason →
    error.isMissing = false ∧ error.text = SourceError.readFailed table reason

theorem map_tableValue_of_ofJson {document : String} {memory : Memory}
    {members : List (String × Value)} (loaded : ofJson document = .ok memory)
    (parsed : Json.value? document = some (.object members)) :
    memory.tables.map (fun entry => (entry.1, tableValue entry.2)) = members ∧
      (keysOf members).Nodup := by
  rw [ofJson_eq, parsed] at loaded
  obtain ⟨tables, reads, rfl⟩ := map_eq_ok_iff.1 loaded
  cases Json.wellFormed_of_value? parsed with
  | object distinct each => exact ⟨map_tableValue_of_readTables each reads, distinct⟩

theorem load_eq_ok_iff {memory : Memory} (distinct : (memory.tables.map Prod.fst).Nodup)
    {name : String} {rows : Table} :
    memory.load name = .ok rows ↔ (name, rows) ∈ memory.tables := by
  rw [← lookup_eq_some_iff_mem distinct, load]
  cases memory.tables.lookup name <;> simp

theorem hasTable_iff {memory : Memory} {name : String} :
    memory.hasTable name = true ↔ name ∈ memory.tables.map Prod.fst := by
  rw [hasTable, isSome_lookup_iff]

/-- A table of a document is the member with its name. -/
theorem load_iff_of_ofJson {document : String} {memory : Memory} {members : List (String × Value)}
    (loaded : ofJson document = .ok memory) (parsed : Json.value? document = some (.object members))
    {name : String} {rows : Table} :
    memory.load name = .ok rows ↔ (name, tableValue rows) ∈ members := by
  obtain ⟨rfl, distinct⟩ := map_tableValue_of_ofJson loaded parsed
  rw [keysOf, List.map_map] at distinct
  rw [load_eq_ok_iff distinct, List.mem_map]
  constructor
  · intro member
    exact ⟨_, member, rfl⟩
  · rintro ⟨⟨name', rows'⟩, member, same⟩
    obtain ⟨rfl, equal⟩ := Prod.mk.inj same
    rwa [← tableValue_injective equal]

/-- A document is loaded as a whole or not at all. -/
theorem ofJson_loads (document : String) : LoadsDocument document (ofJson document) where
  succeeds_iff := exists_ofJson_iff
  present_iff := by
    intro memory members loaded parsed name
    obtain ⟨rfl, -⟩ := map_tableValue_of_ofJson loaded parsed
    rw [hasTable_iff, keysOf, List.map_map]
    rfl
  rows_iff := fun _ _ loaded parsed _ _ => load_iff_of_ofJson loaded parsed
  fails_iff := fun _ => ofJson_eq_error_iff
  reported := fun _ _ _ fault => fault.reported

-- The second element of the second member is a number.
example : ofJson "\x7b\"a\":[\x7b\x7d],\"b\":[\x7b\x7d,2]\x7d" = .error (.rowNotObject "b" 1) := rfl

end Memory

end TableQuery
