import Mathlib.Data.List.Perm.Subperm
import TableQuery.Proofs.Contents
import TableQuery.Proofs.Number.RoundTrip
import TableQuery.Proofs.Traversal
import TableQuery.Source.Csv
import TableQuery.Source.Memory

/-! The values that sources give.

In each object a key stands once: a repeated key takes its last value, and the cells of a file are
no objects. Between such values equality is symmetric. The numbers in a file's cells have the format
of floating-point numbers, as far as they are no whole ones.
-/

set_option autoImplicit false

namespace TableQuery

/-- In every object inside the value each key stands once. -/
inductive Value.WellFormed : Value → Prop
  | null : WellFormed .null
  | bool (value : Bool) : WellFormed (.bool value)
  | int (value : Int) : WellFormed (.int value)
  | float (value : Double) : WellFormed (.float value)
  | string (value : String) : WellFormed (.string value)
  | array {items : List Value} (each : ∀ item ∈ items, WellFormed item) : WellFormed (.array items)
  | object {fields : List (String × Value)} (distinct : (keysOf fields).Nodup)
      (each : ∀ field ∈ fields, WellFormed field.2) : WellFormed (.object fields)

/-- Every floating-point number in the value has the format of such numbers. -/
inductive Value.Representable : Value → Prop
  | null : Representable .null
  | bool (value : Bool) : Representable (.bool value)
  | int (value : Int) : Representable (.int value)
  | float {value : Double} (format : value.Representable) : Representable (.float value)
  | string (value : String) : Representable (.string value)
  | array {items : List Value} (each : ∀ item ∈ items, Representable item) :
      Representable (.array items)
  | object {fields : List (String × Value)} (each : ∀ field ∈ fields, Representable field.2) :
      Representable (.object fields)

def Row.WellFormed (row : Row) : Prop :=
  ∀ entry ∈ row.entries, entry.2.WellFormed

theorem Row.WellFormed.get? {row : Row} (formed : row.WellFormed) {key : String} {value : Value}
    (held : row.get? key = some value) : value.WellFormed :=
  have each : row.All Value.WellFormed := formed
  each.get? held

namespace Value

variable {fields others : List (String × Value)}

theorem fieldsWithin_iff : fieldsWithin fields others = true ↔
    ∀ field ∈ fields, ∃ found, others.lookup field.1 = some found ∧ field.2.same found = true := by
  induction fields with
  | nil => simp [fieldsWithin]
  | cons field rest ih =>
    obtain ⟨key, value⟩ := field
    rw [fieldsWithin, Bool.and_eq_true, ih, List.forall_mem_cons]
    cases others.lookup key <;> simp

/-- An object that lies within another one of its size holds the keys of the other, and no more. -/
theorem fieldsWithin_of_within (distinct : (keysOf fields).Nodup)
    (distinct' : (keysOf others).Nodup) (size : fields.length = others.length)
    (within : ∀ field ∈ fields, ∃ found,
      others.lookup field.1 = some found ∧ found.same field.2 = true) :
    fieldsWithin others fields = true := by
  have subset : keysOf fields ⊆ keysOf others := by
    intro key member
    obtain ⟨field, here, rfl⟩ := List.mem_map.1 member
    obtain ⟨found, held, -⟩ := within field here
    obtain ⟨before, after, split, -⟩ := List.lookup_eq_some_iff.1 held
    simp [keysOf, split]
  -- Both hold equally many keys, so the keys of the one are those of the other.
  have level : (keysOf others).length ≤ (keysOf fields).length := by
    simp [keysOf, size]
  have perm := (distinct.subperm subset).perm_of_length_le level
  rw [fieldsWithin_iff]
  intro other member
  obtain ⟨field, here, same⟩ := List.mem_map.1 (perm.mem_iff.2 (List.mem_map_of_mem member))
  obtain ⟨found, held, equal⟩ := within field here
  rw [same, lookup_of_mem distinct' member, Option.some.injEq] at held
  exact ⟨field.2, same ▸ lookup_of_mem distinct here, held ▸ equal⟩

mutual

theorem same_symm : ∀ first second : Value, first.WellFormed → second.WellFormed →
    first.same second = true → second.same first = true
  | .null, second, _, _, same => by cases second <;> simp_all [Value.same]
  | .bool _, second, _, _, same => by cases second <;> simp_all [Value.same]
  | .int _, second, _, _, same => by cases second <;> simp_all [Value.same]
  | .float _, second, _, _, same => by cases second <;> simp_all [Value.same]
  | .string _, second, _, _, same => by cases second <;> simp_all [Value.same]
  | .array items, second, .array each, formed, same => by
    cases second with
    | array others =>
      cases formed with
      | array each' => exact sameItems_symm items others each each' same
    | _ => cases same
  | .object fields, second, .object distinct each, formed, same => by
    cases second with
    | object others =>
      cases formed with
      | object distinct' each' =>
        rw [Value.same, Bool.and_eq_true, beq_iff_eq] at same ⊢
        have within := within_symm fields others each each' same.2
        exact ⟨same.1.symm, fieldsWithin_of_within distinct distinct' same.1 within⟩
    | _ => cases same

theorem sameItems_symm : ∀ items others : List Value, (∀ item ∈ items, item.WellFormed) →
    (∀ other ∈ others, other.WellFormed) → sameItems items others = true →
    sameItems others items = true
  | [], others, _, _, same => by
    cases others with
    | nil => rfl
    | cons other more => cases same
  | item :: rest, others, each, each', same => by
    cases others with
    | nil => cases same
    | cons other more =>
      rw [List.forall_mem_cons] at each each'
      rw [sameItems, Bool.and_eq_true] at same ⊢
      exact ⟨same_symm item other each.1 each'.1 same.1,
        sameItems_symm rest more each.2 each'.2 same.2⟩

theorem within_symm : ∀ fields others : List (String × Value),
    (∀ field ∈ fields, field.2.WellFormed) → (∀ other ∈ others, other.2.WellFormed) →
    fieldsWithin fields others = true → ∀ field ∈ fields, ∃ found,
      others.lookup field.1 = some found ∧ found.same field.2 = true
  | [], _, _, _, _ => by simp
  | (key, value) :: rest, others, each, each', within => by
    rw [List.forall_mem_cons] at each
    rw [fieldsWithin, Bool.and_eq_true] at within
    rw [List.forall_mem_cons]
    refine ⟨?_, within_symm rest others each.2 each' within.2⟩
    cases found : others.lookup key with
    | none => simp [found] at within
    | some other =>
      rw [found] at within
      obtain ⟨before, after, split, -⟩ := List.lookup_eq_some_iff.1 found
      have formed := each' (key, other) (by simp [split])
      exact ⟨other, rfl, same_symm value other each.1 formed within.1⟩

end

theorem same_comm {first second : Value} (formed : first.WellFormed)
    (formed' : second.WellFormed) : first.same second = second.same first := by
  rw [Bool.eq_iff_iff]
  exact ⟨same_symm first second formed formed', same_symm second first formed' formed⟩

end Value

/-! What the readers give. -/

theorem Row.wellFormed_ofEntries {entries : List (String × Value)}
    (each : ∀ entry ∈ entries, entry.2.WellFormed) : (ofEntries entries).WellFormed :=
  all_ofEntries each

namespace Json

variable {α : Type} {holds : α → Prop} {readItem? : List Char → Option (α × List Char)}

theorem forall_of_readItems?
    (each : ∀ text item rest, readItem? text = some (item, rest) → holds item) {close : Char}
    {bound : Nat} {text rest : List Char} {items : List α}
    (read : readItems? readItem? close bound text = some (items, rest)) :
    ∀ item ∈ items, holds item := by
  induction bound generalizing text items rest with
  | zero => cases read
  | succ bound ih =>
    obtain ⟨⟨item, behind⟩, first, read⟩ := Option.bind_eq_some_iff.1 read
    have here := each _ _ _ first
    dsimp only at read
    split at read
    · obtain ⟨⟨more, last⟩, later, same⟩ := Option.bind_eq_some_iff.1 read
      cases same
      exact List.forall_mem_cons.2 ⟨here, ih later⟩
    · split at read
      · cases read
        exact List.forall_mem_singleton.2 here
      · cases read
    · cases read

theorem forall_of_readGroup?
    (each : ∀ text item rest, readItem? text = some (item, rest) → holds item) {close : Char}
    {text rest : List Char} {items : List α}
    (read : readGroup? readItem? close text = some (items, rest)) : ∀ item ∈ items, holds item := by
  rw [readGroup?] at read
  split at read
  · cases read
  · split at read
    · cases read
      exact List.forall_mem_nil _
    · exact forall_of_readItems? each read

theorem wellFormed_of_readUnsigned? {negative : Bool} {text rest : List Char} {value : Value}
    (read : readUnsigned? negative text = some (value, rest)) : value.WellFormed := by
  have scaled : ∀ {number : Option Double} {rest' : List Char},
      (number.bind fun number => some (Value.float number, rest')) = some (value, rest) →
        value.WellFormed := by
    intro number rest' scale
    obtain ⟨number, -, same⟩ := Option.bind_eq_some_iff.1 scale
    cases same
    exact .float number
  simp only [readUnsigned?] at read
  split at read
  · cases read
  · split at read
    · split at read
      · cases read
      · obtain ⟨⟨power, behind⟩, -, read⟩ := Option.bind_eq_some_iff.1 read
        exact scaled read
    · obtain ⟨⟨power, behind⟩, -, read⟩ := Option.bind_eq_some_iff.1 read
      exact scaled read
    · obtain ⟨⟨power, behind⟩, -, read⟩ := Option.bind_eq_some_iff.1 read
      exact scaled read
    · split at read
      · rw [Option.map_eq_bind] at read
        exact scaled read
      · split at read
        · cases read
          exact .int _
        · split at read
          · cases read
            exact .int _
          · cases read
            exact .float _

theorem wellFormed_of_readNumber? {text rest : List Char} {value : Value}
    (read : readNumber? text = some (value, rest)) : value.WellFormed := by
  rw [readNumber?.eq_def] at read
  split at read <;> exact wellFormed_of_readUnsigned? read

theorem wellFormed_of_readMember? {readValue? : List Char → Option (Value × List Char)}
    (each : ∀ text value rest, readValue? text = some (value, rest) → value.WellFormed)
    {text rest : List Char} {member : String × Value}
    (read : readMember? readValue? text = some (member, rest)) : member.2.WellFormed := by
  obtain ⟨⟨key, behind⟩, -, read⟩ := Option.bind_eq_some_iff.1 read
  dsimp only at read
  split at read
  · obtain ⟨⟨value, last⟩, here, same⟩ := Option.bind_eq_some_iff.1 read
    cases same
    exact each _ _ _ here
  · cases read

theorem wellFormed_of_readValue?_of_below {depth : Nat} {text rest : List Char} {value : Value}
    (below : ∀ lower, depth = lower + 1 → ∀ text value rest,
      readValue? lower text = some (value, rest) → value.WellFormed)
    (read : readValue? depth text = some (value, rest)) : value.WellFormed := by
  unfold readValue? at read
  split at read
  · cases depth with
    | zero => cases read
    | succ depth =>
      obtain ⟨⟨items, last⟩, group, same⟩ := Option.map_eq_some_iff.1 read
      cases same
      exact .array (forall_of_readGroup? (below _ rfl) group)
  · cases depth with
    | zero => cases read
    | succ depth =>
      obtain ⟨⟨fields, last⟩, group, same⟩ := Option.map_eq_some_iff.1 read
      cases same
      have each : ∀ field ∈ fields, field.2.WellFormed :=
        forall_of_readGroup? (fun _ _ _ member => wellFormed_of_readMember? (below _ rfl) member)
          group
      exact .object (Row.ofEntries fields).distinct (Row.wellFormed_ofEntries each)
  · obtain ⟨⟨body, last⟩, -, same⟩ := Option.map_eq_some_iff.1 read
    cases same
    exact .string _
  · obtain ⟨last, -, same⟩ := Option.map_eq_some_iff.1 read
    cases same
    exact .null
  · obtain ⟨last, -, same⟩ := Option.map_eq_some_iff.1 read
    cases same
    exact .bool true
  · obtain ⟨last, -, same⟩ := Option.map_eq_some_iff.1 read
    cases same
    exact .bool false
  · exact wellFormed_of_readNumber? read

theorem wellFormed_of_readValue? {depth : Nat} {text rest : List Char} {value : Value}
    (read : readValue? depth text = some (value, rest)) : value.WellFormed := by
  induction depth generalizing text value rest with
  | zero => exact wellFormed_of_readValue?_of_below (by rintro lower ⟨⟩) read
  | succ depth ih =>
    refine wellFormed_of_readValue?_of_below ?_ read
    rintro lower ⟨⟩ text value rest
    exact ih

theorem wellFormed_of_value? {text : String} {value : Value} (read : value? text = some value) :
    value.WellFormed := by
  obtain ⟨⟨found, rest⟩, here, read⟩ := Option.bind_eq_some_iff.1 read
  dsimp only at read
  split at read
  · cases read
    exact wellFormed_of_readValue? here
  · cases read

end Json

def Source.WellFormed (source : Source) : Prop :=
  ∀ table rows, source table = .ok rows → ∀ row ∈ rows, row.WellFormed

namespace Memory

theorem wellFormed_of_readRows {table : String} {index : Nat} {items : List Value} {rows : Table}
    (each : ∀ item ∈ items, item.WellFormed) (read : readRows table index items = .ok rows) :
    ∀ row ∈ rows, row.WellFormed := by
  induction items generalizing index rows with
  | nil =>
    cases read
    exact List.forall_mem_nil _
  | cons item rest ih =>
    rw [List.forall_mem_cons] at each
    cases formed : each.1 with
    | object distinct fields =>
      obtain ⟨later, reads, rfl⟩ := map_eq_ok_iff.1 read
      exact List.forall_mem_cons.2 ⟨Row.wellFormed_ofEntries fields, ih each.2 reads⟩
    | _ => cases read

theorem wellFormed_of_readTables {fields : List (String × Value)} {tables : List (String × Table)}
    (each : ∀ field ∈ fields, field.2.WellFormed) (read : readTables fields = .ok tables) :
    ∀ entry ∈ tables, ∀ row ∈ entry.2, row.WellFormed := by
  induction fields generalizing tables with
  | nil =>
    cases read
    exact List.forall_mem_nil _
  | cons field rest ih =>
    obtain ⟨name, value⟩ := field
    rw [List.forall_mem_cons] at each
    cases formed : each.1 with
    | array items =>
      obtain ⟨rows, first, read⟩ := bind_eq_ok_iff.1 read
      obtain ⟨more, later, same⟩ := bind_eq_ok_iff.1 read
      cases same
      exact List.forall_mem_cons.2 ⟨wellFormed_of_readRows items first, ih each.2 later⟩
    | _ => cases read

theorem wellFormed_load_of_ofJson {document : String} {memory : Memory}
    (read : ofJson document = .ok memory) : memory.load.WellFormed := by
  intro table rows loaded row member
  rw [ofJson] at read
  split at read
  · rename_i value parsed
    rw [ofValue.eq_def] at read
    split at read
    · cases Json.wellFormed_of_value? parsed with
      | object distinct each =>
        obtain ⟨tables, reads, rfl⟩ := map_eq_ok_iff.1 read
        rw [load] at loaded
        split at loaded
        · rename_i held found
          cases loaded
          obtain ⟨before, after, split, -⟩ := List.lookup_eq_some_iff.1 found
          exact wellFormed_of_readTables each reads (table, rows) (by simp_all) row member
        · cases loaded
    · cases read
  · cases read

end Memory

namespace Csv

variable {holds : Value → Prop} {inferNumbers : Bool}

theorem number?_cases {cell : String} {value : Value} (read : number? cell = some value) :
    (∃ n, value = .int n) ∨ ∃ number : Double, value = .float number ∧ number.Representable := by
  have float : ∀ text, number?.float? text = some value →
      ∃ number : Double, value = .float number ∧ number.Representable := by
    intro text read
    rw [number?.float?] at read
    split at read
    · rename_i found
      cases read
      exact ⟨_, rfl, Double.representable_of_ofText? found⟩
    · cases read
  unfold number? at read
  dsimp only at read
  split at read
  · split at read
    · cases read
      exact .inl ⟨_, rfl⟩
    · exact .inr (float _ read)
  · exact .inr (float _ read)

theorem holds_cellValue (whole : ∀ n, holds (.int n))
    (float : ∀ number : Double, number.Representable → holds (.float number))
    (string : ∀ text, holds (.string text)) (cell : String) :
    holds (cellValue inferNumbers cell) := by
  unfold cellValue
  cases inferNumbers with
  | false => exact string cell
  | true =>
    rw [if_pos rfl]
    cases read : number? cell with
    | none => exact string cell
    | some value =>
      rcases number?_cases read with ⟨n, rfl⟩ | ⟨number, rfl, format⟩
      · exact whole n
      · exact float number format

theorem all_of_readRows (each : ∀ cell, holds (cellValue inferNumbers cell)) {table : String}
    {header : List String} {index : Nat} {records : List (List String)} {rows : Table}
    (read : readRows table inferNumbers header index records = .ok rows) :
    ∀ row ∈ rows, row.All holds := by
  induction records generalizing index rows with
  | nil =>
    cases read
    exact List.forall_mem_nil _
  | cons record rest ih =>
    rw [readRows] at read
    split at read
    · cases read
    · obtain ⟨later, reads, rfl⟩ := map_eq_ok_iff.1 read
      refine List.forall_mem_cons.2 ⟨Row.all_ofEntries fun entry member => ?_, ih reads⟩
      obtain ⟨cell, -, same⟩ := List.mem_map.1 (List.of_mem_zip member).2
      exact same ▸ each cell

theorem all_load {directory : Directory} (each : ∀ cell, holds (cellValue directory.inferNumbers cell))
    {reader : Reader} {table : String} {rows : Table}
    (loaded : directory.load reader table = .ok rows) : ∀ row ∈ rows, row.All holds := by
  rw [Directory.load] at loaded
  split at loaded
  · rw [ofText] at loaded
    split at loaded
    · cases loaded
    · cases loaded
      exact List.forall_mem_nil _
    · exact all_of_readRows each loaded
  · cases loaded
  · cases loaded

theorem wellFormed_load (directory : Directory) (reader : Reader) :
    (directory.load reader).WellFormed :=
  fun _ _ => all_load (holds_cellValue .int (fun number _ => .float number) .string)

theorem representable_load (directory : Directory) {reader : Reader} {table : String} {rows : Table}
    (loaded : directory.load reader table = .ok rows) :
    ∀ row ∈ rows, row.All Value.Representable :=
  all_load (holds_cellValue .int (fun _ => .float) .string) loaded

end Csv

end TableQuery
