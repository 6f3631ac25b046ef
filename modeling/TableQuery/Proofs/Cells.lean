import TableQuery.Condition.Evaluation
import TableQuery.Proofs.Order.Stability

/-! Records by their cells.

Conditions and order keys look at a record only through the cells of the fields that they name.
Two records that agree on these fields are kept alike and ordered alike.
-/

set_option autoImplicit false

namespace TableQuery

/-- A record by its cells: what each field holds, whether it is shown or not. -/
abbrev Cells : Type := String → Option Value

def AgreeOn (names : List String) (first second : Cells) : Prop :=
  ∀ name ∈ names, first name = second name

namespace AgreeOn

variable {name : String} {names : List String} {first second : Cells}

theorem head (agree : AgreeOn (name :: names) first second) : first name = second name :=
  agree name List.mem_cons_self

theorem tail (agree : AgreeOn (name :: names) first second) : AgreeOn names first second :=
  fun other member => agree other (List.mem_cons_of_mem _ member)

end AgreeOn

namespace Condition

def holdsOf (likeMatching : Bool) (cells : Cells) (condition : Condition) :
    Except EvaluationError Bool :=
  let cell := cells condition.field
  if condition.operator = .like then
    if likeMatching then condition.isLike cell else .error (.likeDisabled condition.field)
  else condition.compares cell

def allHoldOf (likeMatching : Bool) (cells : Cells) : List Condition → Except EvaluationError Bool
  | [] => .ok true
  | condition :: rest =>
    match condition.holdsOf likeMatching cells with
    | .error error => .error error
    | .ok false => .ok false
    | .ok true => allHoldOf likeMatching cells rest

theorem allHold_eq (likeMatching : Bool) (row : Row) (conditions : List Condition) :
    allHold likeMatching row conditions = allHoldOf likeMatching row.get? conditions := by
  induction conditions with
  | nil => rfl
  | cons condition rest ih => rw [allHold, ih]; rfl

theorem allHoldOf_congr {likeMatching : Bool} {conditions : List Condition} {first second : Cells}
    (agree : AgreeOn (conditions.map (·.field)) first second) :
    allHoldOf likeMatching first conditions = allHoldOf likeMatching second conditions := by
  induction conditions with
  | nil => rfl
  | cons condition rest ih =>
    unfold allHoldOf holdsOf
    rw [agree.head, ih agree.tail]

/-- Later conditions count for the records that satisfy the earlier ones, and for no others. -/
theorem allHoldOf_append {likeMatching : Bool} {cells : Cells} (first second : List Condition) :
    allHoldOf likeMatching cells (first ++ second) =
      match allHoldOf likeMatching cells first with
      | .error error => .error error
      | .ok false => .ok false
      | .ok true => allHoldOf likeMatching cells second := by
  induction first with
  | nil => rfl
  | cons condition rest ih =>
    rw [List.cons_append, allHoldOf, allHoldOf, ih]
    cases condition.holdsOf likeMatching cells with
    | error error => rfl
    | ok holds => cases holds <;> rfl

theorem allHoldOf_eq_true_iff {likeMatching : Bool} {cells : Cells} {conditions : List Condition} :
    allHoldOf likeMatching cells conditions = .ok true ↔
      ∀ condition ∈ conditions, condition.holdsOf likeMatching cells = .ok true := by
  induction conditions with
  | nil => simp [allHoldOf]
  | cons condition rest ih =>
    rw [List.forall_mem_cons, ← ih, allHoldOf]
    cases condition.holdsOf likeMatching cells with
    | error error => simp
    | ok holds => cases holds <;> simp

end Condition

section Screening
variable {ε α : Type}

def fault? : Except ε Bool → Option ε
  | .error error => some error
  | .ok _ => none

def isKept : Except ε Bool → Bool
  | .error _ => false
  | .ok kept => kept

@[simp] theorem fault?_ok (kept : Bool) : fault? (.ok kept : Except ε Bool) = none := rfl

@[simp] theorem isKept_ok (kept : Bool) : isKept (.ok kept : Except ε Bool) = kept := rfl

/-- The first fault of all verdicts, or else the items that are kept. -/
def screen (verdict : α → Except ε Bool) (items : List α) : Except ε (List α) :=
  match items.findSome? fun item => fault? (verdict item) with
  | some error => .error error
  | none => .ok (items.filter fun item => isKept (verdict item))

theorem screen_cons (verdict : α → Except ε Bool) (item : α) (items : List α) :
    screen verdict (item :: items) =
      match verdict item with
      | .error error => .error error
      | .ok kept => (screen verdict items).map fun rest => if kept then item :: rest else rest := by
  unfold screen
  rw [List.findSome?_cons, List.filter_cons]
  cases verdict item with
  | error error => rfl
  | ok kept =>
    simp only [fault?_ok, isKept_ok]
    cases items.findSome? fun item => fault? (verdict item) <;> rfl

theorem fault?_eq_none_iff {verdict : Except ε Bool} :
    fault? verdict = none ↔ ∃ kept, verdict = .ok kept := by
  cases verdict <;> simp [fault?]

theorem screen_eq_ok_iff {verdict : α → Except ε Bool} {items kept : List α} :
    screen verdict items = .ok kept ↔
      (∀ item ∈ items, ∃ keeps, verdict item = .ok keeps) ∧
        items.filter (fun item => isKept (verdict item)) = kept := by
  unfold screen
  simp only [← fault?_eq_none_iff, ← List.findSome?_eq_none_iff]
  cases items.findSome? fun item => fault? (verdict item) <;> simp

end Screening

theorem Table.satisfying_map {α : Type} {likeMatching : Bool} {conditions : List Condition}
    {row : α → Row} {cells : α → Cells}
    (agree : ∀ item, AgreeOn (conditions.map (·.field)) (row item).get? (cells item))
    (items : List α) :
    Table.satisfying likeMatching conditions (items.map row) =
      (screen (fun item => Condition.allHoldOf likeMatching (cells item) conditions) items).map
        (List.map row) := by
  induction items with
  | nil => rfl
  | cons item items ih =>
    rw [List.map_cons, Table.satisfying, Condition.allHold_eq,
      Condition.allHoldOf_congr (agree item), ih, screen_cons]
    -- The verdict on the first row comes before those on the rest.
    cases Condition.allHoldOf likeMatching (cells item) conditions with
    | error error => rfl
    | ok kept =>
      cases screen (fun item => Condition.allHoldOf likeMatching (cells item) conditions) items with
      | error error => rfl
      | ok rest => cases kept <;> rfl

theorem Table.satisfying_eq_screen (likeMatching : Bool) (conditions : List Condition) (rows : Table) :
    rows.satisfying likeMatching conditions =
      screen (fun row => Condition.allHoldOf likeMatching row.get? conditions) rows := by
  have made : Table.satisfying likeMatching conditions (rows.map id) =
      (screen (fun row => Condition.allHoldOf likeMatching row.get? conditions) rows).map
        (List.map id) :=
    Table.satisfying_map (fun _ _ _ => rfl) rows
  rw [List.map_id] at made
  rw [made]
  cases screen (fun row => Condition.allHoldOf likeMatching row.get? conditions) rows with
  | error error => rfl
  | ok kept => exact congrArg Except.ok (List.map_id kept)

section Records

def OrderKey.compareField (key : OrderKey) (first second : Cells) : Ordering :=
  match key.direction with
  | .ascending => compareCells (first key.field) (second key.field)
  | .descending => (compareCells (first key.field) (second key.field)).swap

def compareRecords : List OrderKey → Cells → Cells → Ordering
  | [] => fun _ _ => .eq
  | key :: rest => compareLex key.compareField (compareRecords rest)

theorem OrderKey.compareAll_eq (keys : List OrderKey) (first second : Row) :
    OrderKey.compareAll keys first second = compareRecords keys first.get? second.get? := by
  induction keys with
  | nil => rfl
  | cons key rest ih => simp only [OrderKey.compareAll, compareRecords, compareLex, ih]; rfl

theorem compareRecords_congr {keys : List OrderKey} {first second other another : Cells}
    (left : AgreeOn (keys.map (·.field)) first other)
    (right : AgreeOn (keys.map (·.field)) second another) :
    compareRecords keys first second = compareRecords keys other another := by
  induction keys with
  | nil => rfl
  | cons key rest ih =>
    have here : key.compareField first second = key.compareField other another := by
      unfold OrderKey.compareField
      rw [left.head, right.head]
    simp only [compareRecords, compareLex, here, ih left.tail right.tail]

instance (key : OrderKey) : Std.TransCmp key.compareField where
  eq_swap := by
    intro first second
    have swapped : compareCells (first key.field) (second key.field) =
        (compareCells (second key.field) (first key.field)).swap := Std.OrientedCmp.eq_swap
    unfold OrderKey.compareField
    cases key.direction <;> simp only [swapped]
  isLE_trans := by
    intro first second third left right
    unfold OrderKey.compareField at left right ⊢
    cases direction : key.direction with
    | ascending =>
      simp only [direction] at left right ⊢
      exact Std.TransCmp.isLE_trans left right
    | descending =>
      -- Against the order the two steps are taken the other way round.
      have swapped (one other : Cells) : (compareCells (one key.field) (other key.field)).swap =
          compareCells (other key.field) (one key.field) := Std.OrientedCmp.eq_swap.symm
      simp only [direction, swapped] at left right ⊢
      exact Std.TransCmp.isLE_trans right left

instance (keys : List OrderKey) : Std.TransCmp (compareRecords keys) := by
  induction keys with
  | nil => exact { eq_swap := rfl, isLE_trans := fun _ _ => rfl }
  | cons key rest ih => exact inferInstanceAs (Std.TransCmp (compareLex _ _))

instance (key : OrderKey) : Std.TransCmp key.compareRows :=
  transCmp_view key.compareField Row.get?

instance (keys : List OrderKey) : Std.TransCmp (OrderKey.compareAll keys) := by
  have same : OrderKey.compareAll keys = fun first second =>
      compareRecords keys first.get? second.get? := by
    funext first second
    exact OrderKey.compareAll_eq keys first second
  rw [same]
  exact transCmp_view (compareRecords keys) Row.get?

theorem OrderKey.compareAll_eq_eq_iff {keys : List OrderKey} {first second : Row} :
    OrderKey.compareAll keys first second = .eq ↔
      ∀ key ∈ keys, key.compareRows first second = .eq := by
  induction keys with
  | nil => simp [OrderKey.compareAll]
  | cons key rest ih => rw [OrderKey.compareAll, Ordering.then_eq_eq, ih, List.forall_mem_cons]

theorem Table.stablySorted_sort (rows : Table) (keys : List OrderKey) :
    StablySorted (OrderKey.compareAll keys) rows (rows.sort keys) :=
  stablySorted_mergeSort rows

theorem Table.sort_map {α : Type} {keys : List OrderKey} {row : α → Row} {cells : α → Cells}
    (agree : ∀ item, AgreeOn (keys.map (·.field)) (row item).get? (cells item)) (items : List α) :
    Table.sort (items.map row) keys =
      (items.mergeSort fun first second =>
        compareRecords keys (cells first) (cells second) != .gt).map row := by
  symm
  apply List.map_mergeSort
  intro first _ second _
  rw [OrderKey.compareAll_eq, compareRecords_congr (agree first) (agree second)]

end Records

end TableQuery
