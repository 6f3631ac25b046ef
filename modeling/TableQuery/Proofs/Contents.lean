import TableQuery.Proofs.Projection

/-! Rows whose values share a property.

The property is handed on: to a row that is put together from entries that have it, and to what a
projection shows of a row, if the missing value has it too.
-/

set_option autoImplicit false

namespace TableQuery

variable {holds : Value → Prop}

def Row.All (holds : Value → Prop) (row : Row) : Prop :=
  ∀ entry ∈ row.entries, holds entry.2

theorem mem_of_mem_putEntry {key : String} {value : Value} {entries : List (String × Value)}
    {entry : String × Value} (member : entry ∈ putEntry key value entries) :
    entry.2 = value ∨ entry ∈ entries := by
  induction entries with
  | nil => exact .inl (congrArg Prod.snd (List.mem_singleton.1 member))
  | cons first rest ih =>
    rw [putEntry] at member
    split at member
    · rcases List.mem_cons.1 member with rfl | member
      · exact .inl rfl
      · exact .inr (List.mem_cons_of_mem _ member)
    · rcases List.mem_cons.1 member with rfl | member
      · exact .inr List.mem_cons_self
      · exact (ih member).imp_right (List.mem_cons_of_mem _)

namespace Row

variable {row : Row} {key : String}

theorem All.get? (each : row.All holds) {value : Value} (held : row.get? key = some value) :
    holds value := by
  obtain ⟨before, after, split, -⟩ := List.lookup_eq_some_iff.1 held
  exact each (key, value) (by simp [split])

theorem All.insertAll (each : row.All holds) {entries : List (String × Value)}
    (others : ∀ entry ∈ entries, holds entry.2) : (row.insertAll entries).All holds := by
  induction entries generalizing row with
  | nil => exact each
  | cons entry rest ih =>
    rw [List.forall_mem_cons] at others
    refine ih (fun other member => ?_) others.2
    rcases mem_of_mem_putEntry member with same | member
    · exact same ▸ others.1
    · exact each other member

theorem all_ofEntries {entries : List (String × Value)} (each : ∀ entry ∈ entries, holds entry.2) :
    (ofEntries entries).All holds :=
  have empty : (∅ : Row).All holds := List.forall_mem_nil _
  empty.insertAll each

variable (missing : holds .null)
include missing

theorem All.shownAt (each : row.All holds) (key : String) : holds (row.shownAt key) := by
  unfold Row.shownAt
  cases held : row.get? key with
  | none => exact missing
  | some value => exact each.get? held

theorem All.project (each : row.All holds) (fields : List String) :
    (row.project fields).All holds := by
  rw [project_eq]
  apply all_ofEntries
  rw [List.forall_mem_map]
  exact fun key _ => each.shownAt missing key

end Row

end TableQuery
