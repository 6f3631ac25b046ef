import TableQuery.Proofs.Cells

/-! Sorting by several keys.

Sorting once by a list of keys is sorting by one of its parts after another, the last part first. A
key on a field that an earlier key reads decides nothing.
-/

set_option autoImplicit false

namespace TableQuery

namespace OrderKey

theorem compareAll_append (first second : List OrderKey) :
    compareAll (first ++ second) = compareLex (compareAll first) (compareAll second) := by
  funext one other
  induction first with
  | nil => rfl
  | cons key rest ih =>
    rw [List.cons_append, compareAll, ih]
    exact (Ordering.then_assoc _ _ _).symm

/-- The direction of a key does not count for the rows that tie on it. -/
theorem compareRows_eq_eq_iff {key : OrderKey} {first second : Row} :
    key.compareRows first second = .eq ↔
      compareCells (first.get? key.field) (second.get? key.field) = .eq := by
  unfold compareRows
  cases key.direction with
  | ascending => exact Iff.rfl
  | descending => exact Ordering.swap_eq_eq

theorem compareAll_of_repeated_field {keys : List OrderKey} {field : String}
    {direction : Direction} (member : ⟨field, direction⟩ ∈ keys) (other : Direction)
    (later : List OrderKey) :
    compareAll (keys ++ ⟨field, other⟩ :: later) = compareAll (keys ++ later) := by
  rw [compareAll_append, compareAll_append]
  funext first second
  unfold compareLex
  cases decided : compareAll keys first second with
  | lt => rfl
  | gt => rfl
  | eq =>
    -- Rows that come to the second key tie on the first one, so they tie on it as well.
    have tied := compareRows_eq_eq_iff.1 (compareAll_eq_eq_iff.1 decided _ member)
    have again : compareRows ⟨field, other⟩ first second = .eq := compareRows_eq_eq_iff.2 tied
    rw [compareAll, again]
    rfl

end OrderKey

namespace Table

variable (rows : Table)

theorem sort_eq_of_compareAll {keys others : List OrderKey}
    (same : OrderKey.compareAll keys = OrderKey.compareAll others) :
    rows.sort keys = rows.sort others := by
  unfold sort
  rw [same]

theorem sort_append (first second : List OrderKey) :
    rows.sort (first ++ second) = (rows.sort second).sort first := by
  have once := rows.stablySorted_sort (first ++ second)
  rw [OrderKey.compareAll_append] at once
  exact once.unique ((rows.stablySorted_sort second).compose (stablySorted_sort _ first))

theorem sort_self (keys : List OrderKey) : (rows.sort keys).sort keys = rows.sort keys :=
  (stablySorted_sort _ keys).unique
    { perm := .refl _
      ordered := (rows.stablySorted_sort keys).ordered
      stable := fun _ => rfl }

/-- Several sorts are one sort by all their keys, those of the last sort in front. Sorting again by
the same keys changes nothing, and neither does a key on a field that an earlier key reads. -/
theorem sort_sort (first second : List OrderKey) :
    (rows.sort second).sort first = rows.sort (first ++ second) ∧
      (rows.sort first).sort first = rows.sort first ∧
      ∀ (before between after : List OrderKey) (field : String) (direction other : Direction),
        rows.sort (before ++ ⟨field, direction⟩ :: (between ++ ⟨field, other⟩ :: after)) =
          rows.sort (before ++ ⟨field, direction⟩ :: (between ++ after)) := by
  refine ⟨(rows.sort_append first second).symm, rows.sort_self first, ?_⟩
  intro before between after field direction other
  have moved (later : List OrderKey) : before ++ ⟨field, direction⟩ :: (between ++ later) =
      (before ++ ⟨field, direction⟩ :: between) ++ later := by
    rw [List.append_assoc, List.cons_append]
  have earlier : (⟨field, direction⟩ : OrderKey) ∈ before ++ ⟨field, direction⟩ :: between :=
    List.mem_append_right _ List.mem_cons_self
  rw [moved, moved]
  exact rows.sort_eq_of_compareAll (OrderKey.compareAll_of_repeated_field earlier other after)

end Table

end TableQuery
