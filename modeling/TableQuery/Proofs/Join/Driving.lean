import TableQuery.Join.Records

/-! The pairs of a join, one driving row after another.

A driving row stands with each of its matches in turn. A row without a match stands alone if the
join keeps its side, and is left out if not.
-/

set_option autoImplicit false

namespace TableQuery

namespace JoinKeys

variable {keys : JoinKeys} {main joined : Row}

def Match (keys : JoinKeys) (main joined : Row) : Prop :=
  ∃ left right, main.get? keys.leftName.field = some left ∧
    joined.get? keys.rightName.field = some right ∧
    left ≠ .null ∧ right ≠ .null ∧ left.same right = true

theorem sameKey_iff {first second : Option Value} :
    sameKey first second = true ↔ ∃ left right, first = some left ∧ second = some right ∧
      left ≠ .null ∧ right ≠ .null ∧ left.same right = true := by
  rcases first with _ | left
  · cases second with
    | none => simp [sameKey]
    | some right => cases right <;> simp [sameKey]
  · rcases second with _ | right
    · cases left <;> simp [sameKey]
    · cases left <;> cases right <;> simp [sameKey]

theorem hold_iff : keys.hold main joined = true ↔ keys.Match main joined :=
  sameKey_iff

instance : Decidable (keys.Match main joined) :=
  decidable_of_iff _ hold_iff

theorem hold_eq (main joined : Row) : keys.hold main joined = decide (keys.Match main joined) := by
  rw [Bool.eq_iff_iff, hold_iff, decide_eq_true_iff]

end JoinKeys

theorem orAlone_of_mem {alone pair : RowPair} {pairs : List RowPair} (member : pair ∈ pairs) :
    orAlone alone pairs = pairs := by
  unfold orAlone
  cases pairs with
  | nil => cases member
  | cons first rest => rfl

theorem filter_eq_nil_of_absent {holds : Row → Prop} [DecidablePred holds] {others : Table}
    (absent : ∀ other ∈ others, ¬holds other) :
    (others.filter fun other => holds other) = [] :=
  List.filter_eq_nil_iff.2 fun other member => by simpa using absent other member

/-- The pairs of driving rows, in the order of these rows and of their matches. -/
inductive Drives (matched : Row → Row → Prop) [DecidableRel matched]
    (together : Row → Row → RowPair) (alone : Row → List RowPair) (others : Table) :
    Table → List RowPair → Prop where
  | nil : Drives matched together alone others [] []
  | matched {row : Row} {rest : Table} {pairs : List RowPair}
      (found : ∃ other ∈ others, matched row other)
      (later : Drives matched together alone others rest pairs) :
      Drives matched together alone others (row :: rest)
        ((others.filter fun other => matched row other).map (together row) ++ pairs)
  | alone {row : Row} {rest : Table} {pairs : List RowPair}
      (absent : ∀ other ∈ others, ¬matched row other)
      (later : Drives matched together alone others rest pairs) :
      Drives matched together alone others (row :: rest) (alone row ++ pairs)

section
variable {matched : Row → Row → Prop} [DecidableRel matched] {together : Row → Row → RowPair}
  {alone : Row → List RowPair} {others : Table}

/-- The driving rows determine the pairs: no row both has a match and has none. -/
theorem Drives.unique {rows : Table} {first second : List RowPair}
    (left : Drives matched together alone others rows first)
    (right : Drives matched together alone others rows second) : first = second := by
  induction left generalizing second with
  | nil =>
    cases right
    rfl
  | matched found _ ih =>
    cases right with
    | matched _ later => rw [ih later]
    | alone absent _ =>
      obtain ⟨other, member, here⟩ := found
      exact absurd here (absent other member)
  | alone absent _ ih =>
    cases right with
    | matched found _ =>
      obtain ⟨other, member, here⟩ := found
      exact absurd here (absent other member)
    | alone _ later => rw [ih later]

theorem drives_flatMap (block : Row → List RowPair)
    (found : ∀ row, (∃ other ∈ others, matched row other) →
      block row = (others.filter fun other => matched row other).map (together row))
    (absent : ∀ row, (∀ other ∈ others, ¬matched row other) → block row = alone row)
    (rows : Table) : Drives matched together alone others rows (rows.flatMap block) := by
  induction rows with
  | nil => exact .nil
  | cons row rest ih =>
    rw [List.flatMap_cons]
    by_cases any : ∃ other ∈ others, matched row other
    · rw [found row any]
      exact .matched any ih
    · have lone : ∀ other ∈ others, ¬matched row other := by
        intro other member here
        exact any ⟨other, member, here⟩
      rw [absent row lone]
      exact .alone lone ih

end

namespace JoinKind

/-- INNER and LEFT are driven by the main table and RIGHT by the joined one. LEFT and RIGHT keep
the driving rows without a match. -/
def Drives (kind : JoinKind) (keys : JoinKeys) (main joined : Table) : List RowPair → Prop :=
  match kind with
  | inner => TableQuery.Drives keys.Match .both (fun _ => []) joined main
  | left => TableQuery.Drives keys.Match .both (fun row => [.mainOnly row]) joined main
  | right =>
    TableQuery.Drives (fun other row => keys.Match row other) (fun other row => .both row other)
      (fun other => [.joinedOnly other]) main joined

variable {kind : JoinKind} {keys : JoinKeys} {main joined : Table}

theorem drives_pairs : kind.Drives keys main joined (kind.pairs keys main joined) := by
  unfold Drives pairs
  simp only [JoinKeys.hold_eq]
  cases kind with
  | inner =>
    apply drives_flatMap
    · intro row _
      rfl
    · intro row absent
      rw [filter_eq_nil_of_absent absent]
      rfl
  | left =>
    apply drives_flatMap
    · intro row found
      obtain ⟨other, member, here⟩ := found
      have kept : other ∈ joined.filter fun other => keys.Match row other :=
        List.mem_filter.2 ⟨member, decide_eq_true here⟩
      exact orAlone_of_mem (List.mem_map_of_mem kept)
    · intro row absent
      rw [filter_eq_nil_of_absent absent]
      rfl
  | right =>
    apply drives_flatMap
    · intro row found
      obtain ⟨other, member, here⟩ := found
      have kept : other ∈ main.filter fun other => keys.Match other row :=
        List.mem_filter.2 ⟨member, decide_eq_true here⟩
      exact orAlone_of_mem (List.mem_map_of_mem kept)
    · intro row absent
      rw [filter_eq_nil_of_absent absent]
      rfl

/-- The driving pairs are the pairs that the join makes, in the same order. -/
theorem drives_iff {pairs : List RowPair} :
    kind.Drives keys main joined pairs ↔ pairs = kind.pairs keys main joined := by
  constructor
  · intro drives
    have made : kind.Drives keys main joined (kind.pairs keys main joined) := drives_pairs
    cases kind <;> exact TableQuery.Drives.unique drives made
  · intro same
    rw [same]
    exact drives_pairs

end JoinKind

end TableQuery
