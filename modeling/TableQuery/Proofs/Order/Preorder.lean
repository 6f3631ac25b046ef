import TableQuery.Proofs.Cells

/-! The laws of the order of rows.

A sort is only as good as its comparison. The one of rows rounds whole numbers before it compares
them, lets all arrays tie and all objects too, and turns round for each descending key. It is a total
preorder nevertheless.
-/

set_option autoImplicit false

namespace TableQuery

structure TotalPreorder {α : Type} (compare : α → α → Ordering) : Prop where
  swap : ∀ first second, compare second first = (compare first second).swap
  refl : ∀ item, compare item item = .eq
  trans : ∀ first second third, compare first second ≠ .gt → compare second third ≠ .gt →
    compare first third ≠ .gt
  /-- Each verdict is handed on: less, equal and greater alike. -/
  chain : ∀ verdict first second third, compare first second = verdict →
    compare second third = verdict → compare first third = verdict
  /-- Items that tie compare alike with every other item. -/
  congr : ∀ first second, compare first second = .eq → ∀ other,
    compare first other = compare second other ∧ compare other first = compare other second

theorem totalPreorder_of_transCmp {α : Type} (compare : α → α → Ordering) [Std.TransCmp compare] :
    TotalPreorder compare where
  swap _ _ := Std.OrientedCmp.eq_swap
  refl _ := Std.ReflCmp.compare_self
  trans := by
    intro first second third left right
    simp only [Ordering.ne_gt_iff_isLE] at left right ⊢
    exact Std.TransCmp.isLE_trans left right
  chain := by
    intro verdict first second third left right
    cases verdict with
    | lt => exact Std.TransCmp.lt_trans left right
    | eq => exact Std.TransCmp.eq_trans left right
    | gt => exact Std.TransCmp.gt_trans left right
  congr := by
    intro first second tied other
    exact ⟨Std.TransCmp.congr_left tied, Std.TransCmp.congr_right tied⟩

namespace OrderKey

theorem compareAll_totalPreorder (keys : List OrderKey) : TotalPreorder (compareAll keys) :=
  totalPreorder_of_transCmp (compareAll keys)

/-- Two whole numbers that are rounded to the same one tie, so a text and a missing cell come on the
same side of both. -/
theorem compareAll_totalPreorder_of_rounded_ids :
    let keys : List OrderKey := [⟨"id", .descending⟩, ⟨"tags", .ascending⟩]
    let high : Row := .ofEntries [("id", .int 9007199254740993), ("tags", .array [.null])]
    let low : Row := .ofEntries [("id", .int 9007199254740992), ("tags", .array [])]
    compareAll keys high low = .eq ∧
      ∀ other : Row, compareAll keys high other = compareAll keys low other ∧
        compareAll keys other high = compareAll keys other low := by
  intro keys high low
  have tied : compareAll keys high low = .eq := by decide +kernel
  exact ⟨tied, (compareAll_totalPreorder keys).congr high low tied⟩

end OrderKey

end TableQuery
