import Mathlib.Data.List.Basic
import TableQuery.Order.Sorting

/-! Stable sorting.

Cells and records are in a total preorder, so that a sort has one result: no item stands in front
of a lesser one, and the items that tie stand as they stood.
-/

set_option autoImplicit false

namespace TableQuery

section
variable {α : Type}

/-- The items in order, those that tie as they stood before. -/
structure StablySorted (compare : α → α → Ordering) (items sorted : List α) : Prop where
  perm : sorted.Perm items
  ordered : sorted.Pairwise fun first second => compare first second ≠ .gt
  stable : ∀ item, sorted.filter (compare item · == .eq) = items.filter (compare item · == .eq)

theorem transCmp_view {β : Type} (compare : α → α → Ordering) [Std.TransCmp compare]
    (view : β → α) : Std.TransCmp fun first second => compare (view first) (view second) where
  eq_swap := Std.OrientedCmp.eq_swap
  isLE_trans := Std.TransCmp.isLE_trans

variable {compare : α → α → Ordering} [Std.TransCmp compare]

theorem ne_gt_trans (first second third : α) (left : (compare first second != .gt) = true)
    (right : (compare second third != .gt) = true) : (compare first third != .gt) = true := by
  simp only [bne_iff_ne, Ordering.ne_gt_iff_isLE] at left right ⊢
  exact Std.TransCmp.isLE_trans left right

theorem ne_gt_total (first second : α) :
    (compare first second != .gt || compare second first != .gt) = true := by
  have swapped : compare second first = (compare first second).swap := Std.OrientedCmp.eq_swap
  rw [swapped]
  cases compare first second <;> rfl

theorem stablySorted_mergeSort (items : List α) :
    StablySorted compare items
      (items.mergeSort fun first second => compare first second != .gt) where
  perm := List.mergeSort_perm items _
  ordered := by
    apply (List.pairwise_mergeSort ne_gt_trans ne_gt_total items).imp
    intro first second least
    exact bne_iff_ne.1 least
  stable := by
    intro item
    -- The items that tie are in order as they stand, so the sort keeps their sequence.
    have tied : (items.filter (compare item · == .eq)).Pairwise
        fun first second => (compare first second != .gt) = true := by
      apply List.pairwise_of_forall_mem_list
      intro first here second there
      have one := beq_iff_eq.1 (List.mem_filter.1 here).2
      have other := beq_iff_eq.1 (List.mem_filter.1 there).2
      rw [← Std.TransCmp.congr_left one, other]
      rfl
    have kept := (List.sublist_mergeSort ne_gt_trans ne_gt_total tied List.filter_sublist).filter
      (compare item · == .eq)
    rw [List.filter_filter] at kept
    simp only [Bool.and_self] at kept
    symm
    apply kept.eq_of_length
    exact ((List.mergeSort_perm items _).filter _).length_eq.symm

omit [Std.TransCmp compare] in
theorem stablySorted_of_tied {items : List α} (tied : ∀ first second, compare first second = .eq) :
    StablySorted compare items items where
  perm := .refl _
  ordered := List.pairwise_of_forall fun first second => by simp [tied first second]
  stable _ := rfl

theorem head_eq_of_ordered {first second : α} {firsts seconds : List α}
    (left : (first :: firsts).Pairwise fun one other => compare one other ≠ .gt)
    (right : (second :: seconds).Pairwise fun one other => compare one other ≠ .gt)
    (perm : (first :: firsts).Perm (second :: seconds))
    (stable : ∀ item, (first :: firsts).filter (compare item · == .eq) =
      (second :: seconds).filter (compare item · == .eq)) : first = second := by
  have least {item other : α} {items : List α}
      (ordered : (item :: items).Pairwise fun one other => compare one other ≠ .gt)
      (member : other ∈ item :: items) : (compare item other).isLE := by
    rcases List.mem_cons.1 member with rfl | member
    · exact Std.ReflCmp.isLE_rfl
    · exact Ordering.ne_gt_iff_isLE.1 (List.rel_of_pairwise_cons ordered member)
  -- Each head is the least of all items, so the heads tie, and tied items stand alike.
  have tied : compare first second = .eq := Std.OrientedCmp.isLE_antisymm
    (least left (perm.mem_iff.2 List.mem_cons_self))
    (least right (perm.mem_iff.1 List.mem_cons_self))
  have heads := stable first
  rw [List.filter_cons_of_pos (by simp [Std.ReflCmp.compare_self]),
    List.filter_cons_of_pos (by simp [tied])] at heads
  exact (List.cons.inj heads).1

theorem eq_of_ordered {first second : List α}
    (left : first.Pairwise fun one other => compare one other ≠ .gt)
    (right : second.Pairwise fun one other => compare one other ≠ .gt)
    (perm : first.Perm second)
    (stable : ∀ item, first.filter (compare item · == .eq) =
      second.filter (compare item · == .eq)) : first = second := by
  induction first generalizing second with
  | nil => exact perm.nil_eq
  | cons item items ih =>
    cases second with
    | nil => exact absurd perm.symm.nil_eq (List.cons_ne_nil _ _).symm
    | cons other others =>
      obtain rfl := head_eq_of_ordered left right perm stable
      congr 1
      apply ih left.of_cons right.of_cons (List.perm_cons item |>.1 perm)
      intro tied
      have rest := stable tied
      rw [List.filter_cons, List.filter_cons] at rest
      split at rest
      · exact (List.cons.inj rest).2
      · exact rest

namespace StablySorted

variable {items sorted : List α}

theorem unique {first second : List α} (left : StablySorted compare items first)
    (right : StablySorted compare items second) : first = second :=
  eq_of_ordered left.ordered right.ordered (left.perm.trans right.perm.symm) fun item =>
    (left.stable item).trans (right.stable item).symm

theorem sublist_of_tied (arranged : StablySorted compare items sorted) {first second : α}
    (pair : [first, second].Sublist sorted) (tied : compare first second = .eq) :
    [first, second].Sublist items := by
  have both : ∀ item ∈ [first, second], (compare first item == .eq) = true := by
    simp [tied, Std.ReflCmp.compare_self]
  have kept := pair.filter (compare first · == .eq)
  rw [List.filter_eq_self.2 both, arranged.stable] at kept
  exact kept.trans List.filter_sublist

omit [Std.TransCmp compare] in
theorem filter (arranged : StablySorted compare items sorted) (keep : α → Bool) :
    StablySorted compare (items.filter keep) (sorted.filter keep) where
  perm := arranged.perm.filter keep
  ordered := arranged.ordered.sublist List.filter_sublist
  stable item := by rw [List.filter_comm, arranged.stable, List.filter_comm]

omit [Std.TransCmp compare] in
/-- A list sorted by one order and then by another is sorted by both, of which the later one
counts more. -/
theorem compose {major : α → α → Ordering} [Std.TransCmp major] {middle : List α}
    (inner : StablySorted compare items middle) (outer : StablySorted major middle sorted) :
    StablySorted (compareLex major compare) items sorted where
  perm := outer.perm.trans inner.perm
  ordered := by
    rw [List.pairwise_iff_forall_sublist]
    intro first second pair
    unfold compareLex
    cases decided : major first second with
    | lt => exact Ordering.noConfusion
    | gt => exact absurd decided (List.pairwise_iff_forall_sublist.1 outer.ordered pair)
    | eq =>
      -- The later sort has not moved items that tie in it, so the order between them is the inner one.
      exact List.pairwise_iff_forall_sublist.1 inner.ordered (outer.sublist_of_tied pair decided)
  stable item := by
    have both (other : α) : (compareLex major compare item other == .eq) =
        ((compare item other == .eq) && (major item other == .eq)) := by
      unfold compareLex
      cases major item other <;> cases compare item other <;> rfl
    simp only [both, ← List.filter_filter]
    rw [outer.stable, List.filter_comm, inner.stable, List.filter_comm]

end StablySorted

theorem mergeSort_filter (items : List α) (keep : α → Bool) :
    (items.filter keep).mergeSort (fun first second => compare first second != .gt) =
      (items.mergeSort fun first second => compare first second != .gt).filter keep :=
  (stablySorted_mergeSort _).unique ((stablySorted_mergeSort items).filter keep)

end

section Cells

def amount : Option Value → Int
  | some (.bool value) => value.toInt
  | some (.int value) => (Double.ofInt value).signedUnits
  | some (.float value) => value.signedUnits
  | _ => 0

def wording : Option Value → String
  | some (.string value) => value
  | _ => ""

theorem compare_boolInt (first second : Bool) :
    Ord.compare first.toInt second.toInt = Ord.compare first second := by
  cases first <;> cases second <;> rfl

/-- Cells of one kind differ in their numbers or in their texts. -/
theorem compareAlike_eq {first second : Option Value} (alike : rank first = rank second) :
    compareAlike first second =
      (Ord.compare (amount first) (amount second)).then
        (Ord.compare (wording first) (wording second)) := by
  -- Cells of two kinds differ in rank, and arrays and objects tie on both sides.
  rcases first with _ | (_ | _ | _ | _ | _ | _ | _) <;>
    rcases second with _ | (_ | _ | _ | _ | _ | _ | _) <;>
    first
    | (simp [rank] at alike; done)
    | simp [compareAlike, amount, wording, compare_boolInt, Value.number?, Double.compare]

/-- The kind of a cell, its number and its text decide, in this order. -/
theorem compareCells_eq : compareCells =
    compareLex (compareOn rank) (compareLex (compareOn amount) (compareOn wording)) := by
  funext first second
  unfold compareCells compareLex compareOn
  by_cases alike : rank first = rank second
  · rw [compareAlike_eq alike]
  · cases decided : Ord.compare (rank first) (rank second) with
    | eq => exact absurd (Nat.compare_eq_eq.1 decided) alike
    | lt => rfl
    | gt => rfl

instance : Std.TransCmp compareCells := by
  rw [compareCells_eq]
  infer_instance

end Cells

end TableQuery
