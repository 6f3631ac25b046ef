import TableQuery.Engine
import TableQuery.Proofs.Cells
import TableQuery.Proofs.Projection

/-! The fields of records.

A record of a join holds the fields that are shown or read, and no others. Each of them has the value
that the full record of its pair has, on which every field of both tables can be read.
-/

set_option autoImplicit false

namespace TableQuery

namespace RowPair

variable (mainTable : String) (pair : RowPair)

/-- The full record of a pair: each field holds what its side has, or null. -/
def cells : Cells :=
  fun field => some (pair.resolve mainTable field)

theorem get?_record {fields : List String} {field : String} (held : field ∈ fields) :
    (pair.record mainTable fields).get? field = pair.cells mainTable field := by
  unfold record
  rw [Row.get?_ofEntries_map (pair.resolve mainTable), if_pos held]
  rfl

theorem project_record {fields shown : List String} (within : ∀ field ∈ shown, field ∈ fields)
    (named : wildcard ∉ shown) :
    (pair.record mainTable fields).project shown = pair.record mainTable shown := by
  unfold Row.project
  have taken : shown.flatMap (pair.record mainTable fields).selected =
      shown.flatMap fun field => [(field, pair.resolve mainTable field)] := by
    rw [List.flatMap_def, List.flatMap_def]
    congr 1
    apply List.map_congr_left
    intro field member
    have apart : field ≠ wildcard := fun same => named (same ▸ member)
    rw [Row.selected, if_neg apart, get?_record mainTable pair (within field member)]
    rfl
  rw [taken, ← List.map_eq_flatMap]
  rfl

end RowPair

section Fields

variable {request : Request} {mainTable joinedTable : String} {main joined : Table}

theorem mem_recordFields_of_referenced {field : String}
    (referenced : field ∈ request.referencedFields) (apart : field ≠ wildcard) :
    field ∈ Engine.recordFields request
      (expandWildcard request.fields mainTable main joinedTable joined) := by
  apply mem_addMissing.2
  by_cases shown : field ∈ request.fields
  · exact .inl (mem_expandWildcard shown apart)
  · exact .inr (Request.mem_auxiliaryFields.2 ⟨referenced, shown⟩)

theorem RowPair.project_recordFields {shown : List String} (named : wildcard ∉ shown)
    (pair : RowPair) :
    (pair.record mainTable (Engine.recordFields request shown)).project shown =
      pair.record mainTable shown := by
  apply RowPair.project_record mainTable pair _ named
  intro field member
  exact mem_addMissing.2 (.inl member)

end Fields

end TableQuery
