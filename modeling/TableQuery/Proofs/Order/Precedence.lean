import TableQuery.Proofs.Cells

/-! Which row comes first.

Cells stand in the order of their kinds, and cells of one kind in the order of what they hold. The
first key that tells two rows apart decides between them. A sort puts rows into this order, and
leaves rows that no key tells apart as they stood.
-/

set_option autoImplicit false

namespace TableQuery

section Cells

def kindOf : Option Value → String
  | none => "missing"
  | some value => value.kind

def kinds : List String :=
  ["missing", "null", "bool", "number", "string", "array", "object"]

/-- The first cell comes before the second one. No array precedes another, and no object does. -/
inductive CellPrecedes : Option Value → Option Value → Prop where
  | kind {first second : Option Value}
      (earlier : kinds.idxOf (kindOf first) < kinds.idxOf (kindOf second)) :
      CellPrecedes first second
  | bool : CellPrecedes (some (.bool false)) (some (.bool true))
  | number {first second : Value} {one other : Double} (left : first.number? = some one)
      (right : second.number? = some other) (below : one.signedUnits < other.signedUnits) :
      CellPrecedes (some first) (some second)
  | string {first second : String} (below : first < second) :
      CellPrecedes (some (.string first)) (some (.string second))

theorem rank_eq_idxOf (cell : Option Value) : rank cell = kinds.idxOf (kindOf cell) := by
  rcases cell with _ | (_ | _ | _ | _ | _ | _ | _) <;> rfl

theorem compareCells_eq_lt_iff {first second : Option Value} :
    compareCells first second = .lt ↔ rank first < rank second ∨
      rank first = rank second ∧ compareAlike first second = .lt := by
  unfold compareCells
  rw [Ordering.then_eq_lt, Nat.compare_eq_lt, Nat.compare_eq_eq]

theorem compareCells_numbers {first second : Value} {one other : Double}
    (left : first.number? = some one) (right : second.number? = some other) :
    compareCells (some first) (some second) = one.compare other := by
  cases first <;> cases second <;>
    simp_all [Value.number?, compareCells, compareAlike, rank]

theorem CellPrecedes.of_alike {first second : Option Value}
    (below : compareAlike first second = .lt) : CellPrecedes first second := by
  unfold compareAlike at below
  split at below
  · rename_i first second
    cases first <;> cases second <;> first | exact .bool | cases below
  · exact .string (compareOfLessAndEq_eq_lt.1 below)
  · split at below
    · rename_i left right
      exact .number left right (Int.compare_eq_lt.1 below)
    · cases below
  · cases below

theorem cellPrecedes_iff {first second : Option Value} :
    CellPrecedes first second ↔ compareCells first second = .lt := by
  constructor
  · intro precedes
    cases precedes with
    | kind earlier =>
      rw [← rank_eq_idxOf, ← rank_eq_idxOf] at earlier
      exact compareCells_eq_lt_iff.2 (.inl earlier)
    | bool => rfl
    | number left right below =>
      rw [compareCells_numbers left right]
      exact Int.compare_eq_lt.2 below
    | string below =>
      exact compareCells_eq_lt_iff.2 (.inr ⟨rfl, compareOfLessAndEq_eq_lt.2 below⟩)
  · intro below
    rcases compareCells_eq_lt_iff.1 below with earlier | ⟨-, alike⟩
    · rw [rank_eq_idxOf, rank_eq_idxOf] at earlier
      exact .kind earlier
    · exact .of_alike alike

end Cells

namespace OrderKey

def Precedes (key : OrderKey) (first second : Row) : Prop :=
  match key.direction with
  | .ascending => CellPrecedes (first.get? key.field) (second.get? key.field)
  | .descending => CellPrecedes (second.get? key.field) (first.get? key.field)

def Ties (key : OrderKey) (first second : Row) : Prop :=
  ¬key.Precedes first second ∧ ¬key.Precedes second first

variable {key : OrderKey} {first second : Row}

theorem precedes_iff : key.Precedes first second ↔ key.compareRows first second = .lt := by
  unfold Precedes compareRows
  cases key.direction with
  | ascending => exact cellPrecedes_iff
  | descending =>
    dsimp only
    rw [cellPrecedes_iff, Ordering.swap_eq_lt]
    exact Std.OrientedCmp.gt_iff_lt.symm

theorem ties_iff : key.Ties first second ↔ key.compareRows first second = .eq := by
  have swapped : key.compareRows second first = (key.compareRows first second).swap :=
    Std.OrientedCmp.eq_swap
  unfold Ties
  rw [precedes_iff, precedes_iff, swapped]
  cases key.compareRows first second <;> simp

end OrderKey

/-- The first key that tells the rows apart puts the first one before the second one. -/
inductive RowPrecedes : List OrderKey → Row → Row → Prop where
  | here {key : OrderKey} {rest : List OrderKey} {first second : Row}
      (precedes : key.Precedes first second) : RowPrecedes (key :: rest) first second
  | later {key : OrderKey} {rest : List OrderKey} {first second : Row}
      (ties : key.Ties first second) (precedes : RowPrecedes rest first second) :
      RowPrecedes (key :: rest) first second

section Rows
variable {keys : List OrderKey} {first second : Row}

theorem rowPrecedes_iff :
    RowPrecedes keys first second ↔ OrderKey.compareAll keys first second = .lt := by
  constructor
  · intro precedes
    induction precedes with
    | here precedes => exact Ordering.then_eq_lt.2 (.inl (OrderKey.precedes_iff.1 precedes))
    | later ties _ ih => exact Ordering.then_eq_lt.2 (.inr ⟨OrderKey.ties_iff.1 ties, ih⟩)
  · intro below
    induction keys with
    | nil => cases below
    | cons key rest ih =>
      rcases Ordering.then_eq_lt.1 below with decided | ⟨tied, below⟩
      · exact .here (OrderKey.precedes_iff.2 decided)
      · exact .later (OrderKey.ties_iff.2 tied) (ih below)

theorem forall_ties_iff :
    (∀ key ∈ keys, key.Ties first second) ↔ OrderKey.compareAll keys first second = .eq := by
  simp only [OrderKey.ties_iff, OrderKey.compareAll_eq_eq_iff]

end Rows

namespace Table

theorem pairwise_zipIdx (rows : Table) : rows.zipIdx.Pairwise fun first second =>
    first.2 < second.2 := by
  have places : (rows.zipIdx.map Prod.snd).Pairwise (· < ·) := by
    rw [List.zipIdx_map_snd]
    exact List.pairwise_lt_range'
  exact List.pairwise_map.1 places

/-- A sort is stable. Of the rows, each with the place at which it stood, none stands before one
that precedes it, and those that tie on all keys stand in the order of their places. -/
theorem sort_stable (rows : Table) (keys : List OrderKey) :
    ∃ placed : List (Row × Nat), placed.map Prod.fst = rows.sort keys ∧
      placed.Perm rows.zipIdx ∧ placed.Pairwise fun first second =>
        ¬RowPrecedes keys second.1 first.1 ∧
          ((∀ key ∈ keys, key.Ties first.1 second.1) → first.2 < second.2) := by
  -- The rows are sorted with their places, which the comparison does not look at.
  let order (first second : Row × Nat) : Ordering := OrderKey.compareAll keys first.1 second.1
  have : Std.TransCmp order := transCmp_view (OrderKey.compareAll keys) Prod.fst
  have arranged : StablySorted order rows.zipIdx _ := stablySorted_mergeSort rows.zipIdx
  refine ⟨_, ?_, arranged.perm, ?_⟩
  · have rowsOnly := List.map_mergeSort (f := Prod.fst) (l := rows.zipIdx)
      (r := fun first second => order first second != .gt)
      (s := fun first second => OrderKey.compareAll keys first second != .gt)
      fun _ _ _ _ => rfl
    rw [rowsOnly, List.zipIdx_map_fst]
    rfl
  · rw [List.pairwise_iff_forall_sublist]
    intro first second pair
    constructor
    · intro precedes
      apply List.pairwise_iff_forall_sublist.1 arranged.ordered pair
      exact Std.OrientedCmp.gt_iff_lt.2 (rowPrecedes_iff.1 precedes)
    · intro ties
      have stood := arranged.sublist_of_tied pair (forall_ties_iff.1 ties)
      exact List.pairwise_iff_forall_sublist.1 rows.pairwise_zipIdx stood

end Table

end TableQuery
