import Mathlib.Data.List.Flatten
import Mathlib.Data.List.Perm.Basic
import TableQuery.Proofs.Join.Driving

/-! The three joins of the same two tables.

All of them pair the same rows. LEFT and RIGHT keep in addition the rows of one side that match
nothing. Without the records of these rows LEFT is INNER, and RIGHT is INNER in another order.
-/

set_option autoImplicit false

namespace TableQuery

def Row.Lacks (row : Row) (key : String) : Prop :=
  row.get? key = none ∨ row.get? key = some .null

section Rows
variable {keep : Row → Bool} {first second : Row → Table} {rows : Table}

theorem flatMap_filter_eq (same : ∀ row, keep row = true → first row = second row)
    (empty : ∀ row, keep row = false → second row = []) :
    (rows.filter keep).flatMap first = rows.flatMap second := by
  induction rows with
  | nil => rfl
  | cons row rest ih =>
    rw [List.flatMap_cons, ← ih, List.filter_cons]
    cases kept : keep row with
    | true => rw [if_pos rfl, List.flatMap_cons, same row kept]
    | false => rw [if_neg Bool.false_ne_true, empty row kept, List.nil_append]

theorem length_flatMap_filter_add
    (single : ∀ row ∈ rows, keep row = false → (first row).length = 1) :
    (rows.flatMap first).length =
      ((rows.filter keep).flatMap first).length + rows.countP fun row => !keep row := by
  induction rows with
  | nil => rfl
  | cons row rest ih =>
    rw [List.forall_mem_cons] at single
    rw [List.flatMap_cons, List.length_append, ih single.2, List.filter_cons, List.countP_cons]
    cases kept : keep row with
    | true => simp [Nat.add_assoc]
    | false =>
      simp only [single.1 kept, Bool.not_false, Bool.false_eq_true, if_true, if_false]
      omega

end Rows

/-- A join that keeps the rows of one side, beside the INNER join of the same tables: it has the
records of one row after another, and without those of the rows that match nothing it has the
`same` records as INNER. -/
structure KeepsSide (same : Table → Table → Prop) (rows : Table) (matching : Row → Nat)
    (recordsOf : Row → Table) (inner whole : Table) : Prop where
  row_by_row : whole = rows.flatMap recordsOf
  each : ∀ row ∈ rows, (recordsOf row).length = max 1 (matching row)
  matched : same ((rows.filter fun row => matching row ≠ 0).flatMap recordsOf) inner
  length : whole.length = inner.length + rows.countP fun row => matching row = 0

/-- How many records a side adds to INNER follows from how many each of its rows has. -/
theorem KeepsSide.of_rows {same : Table → Table → Prop} {rows : Table} {matching : Row → Nat}
    {recordsOf : Row → Table} {inner : Table}
    (level : ∀ one other, same one other → one.length = other.length)
    (each : ∀ row ∈ rows, (recordsOf row).length = max 1 (matching row))
    (matched : same ((rows.filter fun row => matching row ≠ 0).flatMap recordsOf) inner) :
    KeepsSide same rows matching recordsOf inner (rows.flatMap recordsOf) where
  row_by_row := rfl
  each := each
  matched := matched
  length := by
    have single : ∀ row ∈ rows, decide (matching row ≠ 0) = false →
        (recordsOf row).length = 1 := by
      intro row member alone
      rw [each row member, not_not.1 (of_decide_eq_false alone)]
      rfl
    rw [length_flatMap_filter_add single, level _ _ matched]
    simp

theorem KeepsSide.sublist {rows : Table} {matching : Row → Nat} {recordsOf : Row → Table}
    {inner whole : Table} (kept : KeepsSide Eq rows matching recordsOf inner whole) :
    inner.Sublist whole := by
  rw [kept.row_by_row, ← kept.matched]
  exact List.filter_sublist.flatMap _

section Pairs
variable {holds : Row → Bool} {together : Row → RowPair} {others : Table}

theorem length_orAlone (alone : RowPair) (pairs : List RowPair) :
    (orAlone alone pairs).length = max 1 pairs.length := by
  cases pairs with
  | nil => rfl
  | cons pair rest => simp [orAlone]

theorem length_matches (holds : Row → Bool) (together : Row → RowPair) (others : Table) :
    ((others.filter holds).map together).length = others.countP holds := by
  rw [List.length_map, List.countP_eq_length_filter]

theorem orAlone_matches (found : others.countP holds ≠ 0) (alone : RowPair) :
    orAlone alone ((others.filter holds).map together) = (others.filter holds).map together := by
  rw [← length_matches holds together] at found
  obtain ⟨pair, member⟩ := List.exists_mem_of_length_pos (Nat.pos_of_ne_zero found)
  exact orAlone_of_mem member

theorem matches_eq_nil (absent : others.countP holds = 0) :
    (others.filter holds).map together = [] := by
  rwa [← length_matches holds together, List.length_eq_zero_iff] at absent

theorem flatMap_if (pick : Row → RowPair) :
    (others.flatMap fun other => if holds other then [pick other] else []) =
      (others.filter holds).map pick := by
  induction others with
  | nil => rfl
  | cons other more ih =>
    rw [List.flatMap_cons, ih]
    cases here : holds other <;> simp [here]

/-- Each matching pair is counted once, whichever side is gone through first. -/
theorem flatMap_matches_perm (matched : Row → Row → Prop) [DecidableRel matched]
    (together : Row → Row → RowPair) (rows others : Table) :
    (others.flatMap fun other =>
      (rows.filter fun row => matched row other).map fun row => together row other).Perm
    (rows.flatMap fun row =>
      (others.filter fun other => matched row other).map (together row)) := by
  induction rows with
  | nil => simp
  | cons row rest ih =>
    -- The first row stands in front of the matches of each other row.
    have split : ∀ other, ((row :: rest).filter fun row => matched row other).map
        (fun row => together row other) =
          (if decide (matched row other) then [together row other] else []) ++
            (rest.filter fun row => matched row other).map fun row => together row other := by
      intro other
      by_cases here : matched row other <;> simp [here]
    simp only [split]
    rw [List.flatMap_cons, ← flatMap_if]
    exact (List.flatMap_append_perm _ _ _).symm.trans (ih.append_left _)

end Pairs

namespace JoinKeys

variable {keys : JoinKeys} {row other : Row}

def matchesOfMain (keys : JoinKeys) (joined : Table) (row : Row) : Nat :=
  joined.countP fun other => keys.Match row other

def matchesOfJoined (keys : JoinKeys) (main : Table) (other : Row) : Nat :=
  main.countP fun row => keys.Match row other

theorem not_match_of_lacks_left (lacks : row.Lacks keys.leftName.field) :
    ¬keys.Match row other := by
  rintro ⟨left, right, held, -, filled, -⟩
  rcases lacks with missing | null
  · rw [missing] at held
    cases held
  · rw [null] at held
    cases held
    exact filled rfl

theorem not_match_of_lacks_right (lacks : other.Lacks keys.rightName.field) :
    ¬keys.Match row other := by
  rintro ⟨left, right, -, held, -, filled, -⟩
  rcases lacks with missing | null
  · rw [missing] at held
    cases held
  · rw [null] at held
    cases held
    exact filled rfl

end JoinKeys

namespace JoinKind

variable {keys : JoinKeys} {mainTable : String} {fields : List String} {main joined : Table}

theorem records_left_eq : left.records keys mainTable fields main joined =
    main.flatMap fun row => left.records keys mainTable fields [row] joined := by
  simp [records, pairs, List.map_flatMap]

theorem records_right_eq : right.records keys mainTable fields main joined =
    joined.flatMap fun row => right.records keys mainTable fields main [row] := by
  simp [records, pairs, List.map_flatMap]

theorem records_inner_eq : inner.records keys mainTable fields main joined =
    main.flatMap fun row => ((joined.filter fun other => keys.Match row other).map
      (RowPair.both row)).map (RowPair.record mainTable fields) := by
  simp [records, pairs, JoinKeys.hold_eq, List.map_flatMap]

theorem records_left_row (row : Row) : left.records keys mainTable fields [row] joined =
    (orAlone (.mainOnly row) ((joined.filter fun other => keys.Match row other).map
      (RowPair.both row))).map (RowPair.record mainTable fields) := by
  simp [records, pairs, JoinKeys.hold_eq]

theorem records_right_row (row : Row) : right.records keys mainTable fields main [row] =
    (orAlone (.joinedOnly row) ((main.filter fun other => keys.Match other row).map
      fun other => RowPair.both other row)).map (RowPair.record mainTable fields) := by
  simp [records, pairs, JoinKeys.hold_eq]

theorem keepsSide_left : KeepsSide Eq main (keys.matchesOfMain joined)
    (fun row => left.records keys mainTable fields [row] joined)
    (inner.records keys mainTable fields main joined)
    (left.records keys mainTable fields main joined) := by
  rw [records_left_eq]
  refine .of_rows (fun one other same => congrArg List.length same) (fun row _ => ?_) ?_
  · rw [records_left_row, List.length_map, length_orAlone, length_matches, JoinKeys.matchesOfMain]
  · rw [records_inner_eq]
    apply flatMap_filter_eq
    · intro row found
      rw [records_left_row, orAlone_matches (of_decide_eq_true found)]
    · intro row absent
      rw [matches_eq_nil (not_not.1 (of_decide_eq_false absent)), List.map_nil]

theorem keepsSide_right : KeepsSide List.Perm joined (keys.matchesOfJoined main)
    (fun row => right.records keys mainTable fields main [row])
    (inner.records keys mainTable fields main joined)
    (right.records keys mainTable fields main joined) := by
  rw [records_right_eq]
  refine .of_rows (fun one other same => same.length_eq) (fun row _ => ?_) ?_
  · rw [records_right_row, List.length_map, length_orAlone, length_matches,
      JoinKeys.matchesOfJoined]
  · have matched : (joined.filter fun row => keys.matchesOfJoined main row ≠ 0).flatMap
        (fun row => right.records keys mainTable fields main [row]) =
          joined.flatMap fun row => ((main.filter fun other => keys.Match other row).map
            fun other => RowPair.both other row).map (RowPair.record mainTable fields) := by
      apply flatMap_filter_eq
      · intro row found
        rw [records_right_row, orAlone_matches (of_decide_eq_true found)]
      · intro row absent
        rw [matches_eq_nil (not_not.1 (of_decide_eq_false absent)), List.map_nil]
    -- Gone through by joined rows and by main rows, the pairs are the same.
    have perm := (flatMap_matches_perm keys.Match RowPair.both main joined).map
      (RowPair.record mainTable fields)
    rw [List.map_flatMap, List.map_flatMap] at perm
    rw [matched, records_inner_eq]
    exact perm

/-- The joins of two tables are consistent: LEFT keeps the main rows and RIGHT the joined ones, and
a row without the key of the join matches nothing. -/
structure Consistent (keys : JoinKeys) (mainTable : String) (fields : List String)
    (main joined : Table) : Prop where
  inner_sublist : (inner.records keys mainTable fields main joined).Sublist
    (left.records keys mainTable fields main joined)
  left : KeepsSide Eq main (keys.matchesOfMain joined)
    (fun row => left.records keys mainTable fields [row] joined)
    (inner.records keys mainTable fields main joined)
    (left.records keys mainTable fields main joined)
  right : KeepsSide List.Perm joined (keys.matchesOfJoined main)
    (fun row => right.records keys mainTable fields main [row])
    (inner.records keys mainTable fields main joined)
    (right.records keys mainTable fields main joined)
  main_lacks : ∀ row : Row, row.Lacks keys.leftName.field → keys.matchesOfMain joined row = 0
  joined_lacks : ∀ row : Row, row.Lacks keys.rightName.field → keys.matchesOfJoined main row = 0

theorem records_consistent (keys : JoinKeys) (mainTable : String) (fields : List String)
    (main joined : Table) : Consistent keys mainTable fields main joined where
  inner_sublist := keepsSide_left.sublist
  left := keepsSide_left
  right := keepsSide_right
  main_lacks := by
    intro row lacks
    refine List.countP_eq_zero.2 fun other _ => ?_
    simpa using JoinKeys.not_match_of_lacks_left lacks
  joined_lacks := by
    intro row lacks
    refine List.countP_eq_zero.2 fun other _ => ?_
    simpa using JoinKeys.not_match_of_lacks_right lacks

end JoinKind

end TableQuery
