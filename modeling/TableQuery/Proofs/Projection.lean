import Mathlib.Data.List.Basic
import TableQuery.Projection
import TableQuery.Proofs.Names

/-! Rows by the fields that they show.

A row is determined by its keys and by what it holds under each of them. Projecting a row puts
together one list of keys, of which each counts where it stands first.
-/

set_option autoImplicit false

namespace TableQuery

section Wildcard

def replaceWildcard (names fields : List String) : List String :=
  fields.flatMap fun field => if field = wildcard then names else [field]

theorem mem_replaceWildcard {names fields : List String} {name : String} :
    name ∈ replaceWildcard names fields ↔
      (name ∈ fields ∧ name ≠ wildcard) ∨ (wildcard ∈ fields ∧ name ∈ names) := by
  unfold replaceWildcard
  rw [List.mem_flatMap]
  constructor
  · rintro ⟨field, member, chosen⟩
    split at chosen
    · rename_i all
      exact .inr ⟨all ▸ member, chosen⟩
    · rename_i apart
      rw [List.mem_singleton] at chosen
      exact .inl ⟨chosen ▸ member, chosen ▸ apart⟩
  · rintro (⟨member, apart⟩ | ⟨all, member⟩)
    · refine ⟨name, member, ?_⟩
      rw [if_neg apart]
      exact List.mem_singleton_self name
    · refine ⟨wildcard, all, ?_⟩
      rw [if_pos rfl]
      exact member

theorem replaceWildcard_of_notMem {fields : List String} (named : wildcard ∉ fields)
    (names : List String) : replaceWildcard names fields = fields := by
  unfold replaceWildcard
  rw [List.flatMap_congr fun field member => if_neg fun same : field = wildcard =>
    named (same ▸ member)]
  exact List.flatMap_singleton' fields

end Wildcard

theorem lookup_of_mem {α : Type} {entries : List (String × α)}
    (distinct : (entries.map Prod.fst).Nodup) {entry : String × α} (member : entry ∈ entries) :
    entries.lookup entry.1 = some entry.2 := by
  induction entries with
  | nil => cases member
  | cons first rest ih =>
    obtain ⟨absent, distinct⟩ := List.nodup_cons.1 distinct
    rcases List.mem_cons.1 member with rfl | member
    · exact List.lookup_cons_self
    · have other : entry.1 ≠ first.1 := by
        intro same
        exact absent (same ▸ List.mem_map_of_mem member)
      rw [List.lookup_cons, beq_false_of_ne other]
      exact ih distinct member

theorem isSome_lookup_iff {α : Type} {entries : List (String × α)} {key : String} :
    (entries.lookup key).isSome = true ↔ key ∈ entries.map Prod.fst := by
  rw [List.lookup_isSome_iff]
  simp only [List.mem_map, beq_iff_eq, eq_comm (a := key)]

theorem lookup_eq_some_iff_mem {α : Type} {entries : List (String × α)}
    (distinct : (entries.map Prod.fst).Nodup) {key : String} {value : α} :
    entries.lookup key = some value ↔ (key, value) ∈ entries := by
  constructor
  · intro found
    obtain ⟨before, after, split, -⟩ := List.lookup_eq_some_iff.1 found
    simp [split]
  · exact lookup_of_mem distinct

theorem putEntry_of_notMem {key : String} {entries : List (String × Value)}
    (absent : key ∉ keysOf entries) (value : Value) :
    putEntry key value entries = entries ++ [(key, value)] := by
  induction entries with
  | nil => rfl
  | cons entry rest ih =>
    obtain ⟨other, later⟩ := List.ne_and_not_mem_of_not_mem_cons absent
    rw [putEntry, if_neg fun same => other same.symm, ih later, List.cons_append]

namespace Row

def shownAt (row : Row) (key : String) : Value :=
  (row.get? key).getD .null

theorem mem_keys_of_get? {row : Row} {key : String} {value : Value}
    (held : row.get? key = some value) : key ∈ row.keys := by
  obtain ⟨before, after, split, -⟩ := List.lookup_eq_some_iff.1 held
  unfold keys keysOf
  rw [split]
  simp

theorem entries_eq (row : Row) : row.entries = row.keys.map fun key => (key, row.shownAt key) := by
  unfold keys keysOf
  rw [List.map_map]
  have same : row.entries.map ((fun key => (key, row.shownAt key)) ∘ Prod.fst) =
      row.entries.map id := by
    apply List.map_congr_left
    intro entry member
    have found : row.get? entry.1 = some entry.2 := lookup_of_mem row.distinct member
    simp only [Function.comp_apply, shownAt, found, Option.getD_some, id_eq]
  rw [same, List.map_id]

theorem get?_ofEntries_map (value : String → Value) (names : List String) (name : String) :
    (Row.ofEntries (names.map fun name => (name, value name))).get? name =
      if name ∈ names then some (value name) else none := by
  rw [Row.get?_ofEntries, ← List.map_reverse]
  -- The entries of one name agree, so it does not count which of them is found.
  have found (names : List String) :
      (names.map fun name => (name, value name)).lookup name =
        if name ∈ names then some (value name) else none := by
    induction names with
    | nil => rfl
    | cons first rest ih =>
      rw [List.map_cons, List.lookup_cons]
      by_cases same : name = first
      · simp [same]
      · simp [same, ih, beq_false_of_ne same]
  rw [found]
  simp only [List.mem_reverse]

theorem keys_ofEntries_map (value : String → Value) (names : List String) :
    (Row.ofEntries (names.map fun name => (name, value name))).keys = names.eraseDups := by
  rw [keys_ofEntries, addMissing_nil, keysOf, List.map_map]
  exact congrArg List.eraseDups (List.map_id names)

theorem entries_insertAll {row : Row} {entries : List (String × Value)}
    (distinct : (row.keys ++ keysOf entries).Nodup) :
    (row.insertAll entries).entries = row.entries ++ entries := by
  induction entries generalizing row with
  | nil => exact (List.append_nil _).symm
  | cons entry rest ih =>
    obtain ⟨key, value⟩ := entry
    have absent : key ∉ row.keys := fun member =>
      (List.nodup_append.1 distinct).2.2 key member key List.mem_cons_self rfl
    have keys : (row.insert key value).keys = row.keys ++ [key] := by
      rw [keys_insert, if_neg absent]
    have step : row.insertAll ((key, value) :: rest) = (row.insert key value).insertAll rest := rfl
    rw [step, ih (by rw [keys, List.append_assoc]; exact distinct)]
    have held : (row.insert key value).entries = row.entries ++ [(key, value)] :=
      putEntry_of_notMem absent value
    rw [held, List.append_assoc, List.singleton_append]

theorem entries_ofEntries {entries : List (String × Value)} (distinct : (keysOf entries).Nodup) :
    (ofEntries entries).entries = entries :=
  entries_insertAll distinct

theorem project_eq (row : Row) (fields : List String) :
    row.project fields =
      .ofEntries ((replaceWildcard row.keys fields).map fun key => (key, row.shownAt key)) := by
  unfold project replaceWildcard
  congr 1
  rw [List.map_flatMap]
  apply List.flatMap_congr
  intro field _
  unfold selected
  by_cases all : field = wildcard
  · rw [if_pos all, if_pos all]
    exact row.entries_eq
  · rw [if_neg all, if_neg all]
    rfl

/-- A projected row has the requested keys, each where it is requested first. -/
theorem keys_project (row : Row) (fields : List String) :
    (row.project fields).keys = (replaceWildcard row.keys fields).eraseDups := by
  rw [project_eq, keys_ofEntries_map]

theorem get?_project {row : Row} {fields : List String} {key : String}
    (member : key ∈ (row.project fields).keys) :
    (row.project fields).get? key = some (row.shownAt key) := by
  rw [keys_project, List.mem_eraseDups] at member
  rw [project_eq, get?_ofEntries_map, if_pos member]

end Row

section Expansion
variable {mainTable joinedTable : String} {main joined : Table} {fields : List String}

theorem qualified_injective (table : String) :
    Function.Injective fun key => table ++ "." ++ key := by
  intro one other same
  have chars := congrArg String.toList same
  simp only [String.toList_append, List.append_cancel_left_eq] at chars
  exact String.toList_inj.1 chars

theorem Table.qualifiedKeys_eq (name : String) (rows : Table) :
    rows.qualifiedKeys name =
      (rows.flatMap Row.keys).eraseDups.map fun key => name ++ "." ++ key := by
  unfold qualifiedKeys
  rw [← addMissing_nil, ← addMissing_map (qualified_injective name)]
  rfl

theorem ne_wildcard_of_mem_qualifiedKeys {name key : String} {rows : Table}
    (member : key ∈ rows.qualifiedKeys name) : key ≠ wildcard := by
  intro same
  obtain ⟨inner, -, rfl⟩ : ∃ inner ∈ rows.flatMap Row.keys, name ++ "." ++ inner = key := by
    simpa [Table.qualifiedKeys, mem_addMissing] using member
  -- The wildcard is one character, and not the dot.
  have shape := congrArg String.toList same
  have dot : '.' ∈ wildcard.toList := by
    rw [← shape]
    simp
  revert dot
  decide

theorem wildcard_notMem_expandWildcard (fields : List String) :
    wildcard ∉ expandWildcard fields mainTable main joinedTable joined := by
  intro member
  rcases mem_replaceWildcard.1 member with ⟨-, apart⟩ | ⟨-, key⟩
  · exact apart rfl
  · rcases List.mem_append.1 key with key | key
    · exact ne_wildcard_of_mem_qualifiedKeys key rfl
    · exact ne_wildcard_of_mem_qualifiedKeys key rfl

theorem mem_expandWildcard {field : String} (member : field ∈ fields) (apart : field ≠ wildcard) :
    field ∈ expandWildcard fields mainTable main joinedTable joined :=
  mem_replaceWildcard.2 (.inl ⟨member, apart⟩)

theorem expandWildcard_of_notMem (named : wildcard ∉ fields) :
    expandWildcard fields mainTable main joinedTable joined = fields :=
  replaceWildcard_of_notMem named _

end Expansion

end TableQuery
