import TableQuery.Proofs.Condition.Coherence
import TableQuery.Proofs.Order.Precedence

/-! Bounds on sorted rows.

A comparison with a literal follows the order in which rows are sorted: of the texts of a field, and
of its numbers if the literal is a number too. So the rows below a bound are at one end of a sorted
table, and the rows above it at the other end.
-/

set_option autoImplicit false

namespace TableQuery

/-- The field holds texts, or it holds numbers and the literal is a number too. -/
inductive Commensurable (rows : Table) (field literal : String) : Prop where
  | texts (each : ∀ row ∈ rows, ∃ text, row.get? field = some (.string text))
  | numbers {read : Literal} (reads : Literal.ofText? (Text.trim literal.toList) = some read)
      (each : ∀ row ∈ rows, ∃ value number,
        row.get? field = some value ∧ value.number? = some number)

namespace Commensurable

variable {rows : Table} {field literal : String}

theorem perm {others : Table} (commensurable : Commensurable rows field literal)
    (perm : others.Perm rows) : Commensurable others field literal := by
  cases commensurable with
  | texts each => exact .texts fun row member => each row (perm.mem_iff.1 member)
  | numbers reads each => exact .numbers reads fun row member => each row (perm.mem_iff.1 member)

theorem single (commensurable : Commensurable rows field literal) {row : Row}
    (member : row ∈ rows) : ∀ value, row.get? field = some value → ¬IsNested value := by
  rintro value held (items | fields)
  all_goals
    cases commensurable with
    | texts each =>
      obtain ⟨text, same⟩ := each row member
      cases held.symm.trans same
    | numbers _ each =>
      obtain ⟨value, number, same, numeric⟩ := each row member
      cases held.symm.trans same
      cases numeric

end Commensurable

namespace Comparison

inductive Follows : Comparison → Comparison → Prop where
  | ordered {first second : Ordering} (le : (Ord.compare first second).isLE) :
      Follows (.ordered first) (.ordered second)
  | unordered : Follows .unordered .unordered

theorem compare_bound_mono {α : Type} {compare : α → α → Ordering} [Std.TransCmp compare]
    {first second : α} (le : (compare first second).isLE) (bound : α) :
    (Ord.compare (compare first bound) (compare second bound)).isLE := by
  cases above : compare second bound with
  | lt =>
    rw [Std.TransCmp.lt_of_isLE_of_lt le above]
    rfl
  | eq =>
    have below : (compare first bound).isLE := Std.TransCmp.isLE_trans le (by rw [above]; rfl)
    revert below
    cases compare first bound <;> decide
  | gt => cases compare first bound <;> rfl

theorem follows_of_numbers {first second : Double} (le : (first.compare second).isLE)
    (read : Literal) : Follows (ofNumber first read) (ofNumber second read) := by
  cases read with
  | finite bound =>
    have : Std.TransCmp Double.compare := transCmp_view Ord.compare Double.signedUnits
    exact .ordered (compare_bound_mono le bound)
  | infinite negative => cases negative <;> exact .ordered rfl
  | nan => exact .unordered

/-- Of two cells the lower one compares lower with every literal. -/
theorem follows_of_le {rows : Table} {field literal : String}
    (commensurable : Commensurable rows field literal) {first second : Row} (here : first ∈ rows)
    (there : second ∈ rows) (le : (compareCells (first.get? field) (second.get? field)).isLE) :
    Follows (ofCell (first.get? field) literal) (ofCell (second.get? field) literal) := by
  cases commensurable with
  | texts each =>
    obtain ⟨one, left⟩ := each first here
    obtain ⟨other, right⟩ := each second there
    rw [left, right] at le ⊢
    have texts : (Ord.compare one other).isLE := by simpa [compareCells, compareAlike, rank] using le
    exact .ordered (compare_bound_mono texts literal)
  | @numbers read reads each =>
    obtain ⟨left, one, first, numeric⟩ := each first here
    obtain ⟨right, other, second, numeric'⟩ := each second there
    rw [first, second, compareCells_numbers numeric numeric'] at le
    rw [first, second, ofCell_of_numeric numeric reads, ofCell_of_numeric numeric' reads]
    exact follows_of_numbers le read

end Comparison

namespace Operator

variable {operator : Operator} {first second : Ordering}

theorem accepts_of_le (lower : operator ∈ [less, atMost]) (le : (compare first second).isLE)
    (accepted : operator.accepts second = true) : operator.accepts first = true := by
  simp only [List.mem_cons, List.not_mem_nil, or_false] at lower
  revert le accepted
  rcases lower with rfl | rfl <;> cases first <;> cases second <;> decide

theorem accepts_of_ge (upper : operator ∈ [greater, atLeast]) (le : (compare first second).isLE)
    (accepted : operator.accepts first = true) : operator.accepts second = true := by
  simp only [List.mem_cons, List.not_mem_nil, or_false] at upper
  revert le accepted
  rcases upper with rfl | rfl <;> cases first <;> cases second <;> decide

end Operator

namespace Condition

variable {likeMatching : Bool} {condition : Condition} {rows : Table}

/-- The rows that satisfy the condition stand before those that do not, and no row errs. -/
def SatisfiedFirst (likeMatching : Bool) (condition : Condition) (rows : Table) : Prop :=
  ∃ kept rest, rows = kept ++ rest ∧
    (∀ row ∈ kept, condition.holds likeMatching row = .ok true) ∧
    ∀ row ∈ rest, condition.holds likeMatching row = .ok false

/-- The rows that satisfy the condition stand after those that do not, and no row errs. -/
def SatisfiedLast (likeMatching : Bool) (condition : Condition) (rows : Table) : Prop :=
  ∃ rest kept, rows = rest ++ kept ∧
    (∀ row ∈ rest, condition.holds likeMatching row = .ok false) ∧
    ∀ row ∈ kept, condition.holds likeMatching row = .ok true

theorem satisfiedLast_iff : SatisfiedLast likeMatching condition rows ↔
    SatisfiedFirst likeMatching condition rows.reverse := by
  constructor
  · rintro ⟨rest, kept, rfl, failed, satisfied⟩
    refine ⟨kept.reverse, rest.reverse, List.reverse_append, ?_, ?_⟩
    · simpa only [List.mem_reverse] using satisfied
    · simpa only [List.mem_reverse] using failed
  · rintro ⟨kept, rest, split, satisfied, failed⟩
    refine ⟨rest.reverse, kept.reverse, ?_, ?_, ?_⟩
    · rw [← List.reverse_append, ← split, List.reverse_reverse]
    · simpa only [List.mem_reverse] using failed
    · simpa only [List.mem_reverse] using satisfied

theorem satisfiedFirst_of_pairwise
    (each : ∀ row ∈ rows, ∃ verdict, condition.holds likeMatching row = .ok verdict)
    (ordered : rows.Pairwise fun first second => condition.holds likeMatching second = .ok true →
      condition.holds likeMatching first = .ok true) :
    SatisfiedFirst likeMatching condition rows := by
  induction rows with
  | nil => exact ⟨[], [], rfl, List.forall_mem_nil _, List.forall_mem_nil _⟩
  | cons row rows ih =>
    rw [List.forall_mem_cons] at each
    rw [List.pairwise_cons] at ordered
    obtain ⟨verdict, here⟩ := each.1
    cases verdict with
    | true =>
      obtain ⟨kept, rest, rfl, satisfied, failed⟩ := ih each.2 ordered.2
      exact ⟨row :: kept, rest, rfl, List.forall_mem_cons.2 ⟨here, satisfied⟩, failed⟩
    | false =>
      -- Behind the first row that fails none satisfies the condition.
      refine ⟨[], row :: rows, rfl, List.forall_mem_nil _, List.forall_mem_cons.2 ⟨here, ?_⟩⟩
      intro other member
      obtain ⟨verdict, there⟩ := each.2 other member
      cases verdict with
      | false => exact there
      | true => cases here.symm.trans (ordered.1 other member there)

variable {field literal : String} {operator : Operator}

theorem exists_verdict (commensurable : Commensurable rows field literal)
    (member : operator ∈ Operator.comparisons) {row : Row} (inside : row ∈ rows) :
    ∃ verdict, holds likeMatching row ⟨field, operator, literal⟩ = .ok verdict := by
  obtain ⟨verdict, -, -, succeeds⟩ := exists_coherent (commensurable.single inside) field literal
  exact ⟨verdict operator, (holds_of_comparison member likeMatching row).trans (succeeds operator)⟩

/-- What compares lower than a cell below a bound is below that bound too, and what compares higher
than a cell above a bound is above it. -/
theorem compares_of_follows {first second : Option Value}
    (follows : (Comparison.ofCell first literal).Follows (Comparison.ofCell second literal)) :
    (operator ∈ [Operator.less, .atMost] → compares ⟨field, operator, literal⟩ second = .ok true →
        compares ⟨field, operator, literal⟩ first = .ok true) ∧
      (operator ∈ [Operator.greater, .atLeast] →
        compares ⟨field, operator, literal⟩ first = .ok true →
        compares ⟨field, operator, literal⟩ second = .ok true) := by
  unfold compares
  dsimp only
  generalize Comparison.ofCell first literal = one at follows ⊢
  generalize Comparison.ofCell second literal = other at follows ⊢
  cases follows with
  | ordered le =>
    simp only [Except.ok.injEq]
    exact ⟨fun lower => Operator.accepts_of_le lower le, fun upper => Operator.accepts_of_ge upper le⟩
  | unordered => exact ⟨fun _ => id, fun _ => id⟩

theorem satisfied_of_ascending (commensurable : Commensurable rows field literal)
    (ascending : rows.Pairwise fun first second =>
      (compareCells (first.get? field) (second.get? field)).isLE)
    (member : operator ∈ Operator.comparisons) (likeMatching : Bool) :
    (operator ∈ [Operator.less, .atMost] →
        SatisfiedFirst likeMatching ⟨field, operator, literal⟩ rows) ∧
      (operator ∈ [Operator.greater, .atLeast] →
        SatisfiedLast likeMatching ⟨field, operator, literal⟩ rows) := by
  have reads (row : Row) : holds likeMatching row ⟨field, operator, literal⟩ =
      compares ⟨field, operator, literal⟩ (row.get? field) := holds_of_comparison member _ row
  constructor
  · intro lower
    apply satisfiedFirst_of_pairwise fun row inside => exists_verdict commensurable member inside
    apply ascending.imp_of_mem
    intro first second here there le
    rw [reads, reads]
    exact (compares_of_follows (Comparison.follows_of_le commensurable here there le)).1 lower
  · intro upper
    -- Read from its end, the table has the satisfying rows in front.
    rw [satisfiedLast_iff]
    apply satisfiedFirst_of_pairwise fun row inside =>
      exists_verdict commensurable member (List.mem_reverse.1 inside)
    rw [List.pairwise_reverse]
    apply ascending.imp_of_mem
    intro first second here there le
    rw [reads, reads]
    exact (compares_of_follows (Comparison.follows_of_le commensurable here there le)).2 upper

end Condition

namespace Table

variable {rows : Table} {field literal : String}

theorem pairwise_sort_ascending (rows : Table) (field : String) :
    (rows.sort [⟨field, .ascending⟩]).Pairwise fun first second =>
      (compareCells (first.get? field) (second.get? field)).isLE := by
  apply (rows.stablySorted_sort _).ordered.imp
  intro first second ordered
  rw [OrderKey.compareAll, OrderKey.compareAll, Ordering.then_eq] at ordered
  exact Ordering.ne_gt_iff_isLE.1 ordered

theorem pairwise_reverse_sort_descending (rows : Table) (field : String) :
    (rows.sort [⟨field, .descending⟩]).reverse.Pairwise fun first second =>
      (compareCells (first.get? field) (second.get? field)).isLE := by
  rw [List.pairwise_reverse]
  apply (rows.stablySorted_sort _).ordered.imp
  intro first second ordered
  have swapped : compareCells (second.get? field) (first.get? field) =
      (compareCells (first.get? field) (second.get? field)).swap := Std.OrientedCmp.eq_swap
  rw [OrderKey.compareAll, OrderKey.compareAll, Ordering.then_eq, OrderKey.compareRows,
    ← swapped] at ordered
  exact Ordering.ne_gt_iff_isLE.1 ordered

/-- A bound splits a table sorted by its field, in which every row stands again. In ascending order
the rows below the bound come first and those above it come last, in descending order the other way
round. -/
theorem sort_splits_at_bound (commensurable : Commensurable rows field literal)
    (likeMatching : Bool) :
    (∀ direction, (rows.sort [⟨field, direction⟩]).Perm rows) ∧
      (∀ operator ∈ [Operator.less, .atMost],
        Condition.SatisfiedFirst likeMatching ⟨field, operator, literal⟩
            (rows.sort [⟨field, .ascending⟩]) ∧
          Condition.SatisfiedLast likeMatching ⟨field, operator, literal⟩
            (rows.sort [⟨field, .descending⟩])) ∧
      ∀ operator ∈ [Operator.greater, .atLeast],
        Condition.SatisfiedLast likeMatching ⟨field, operator, literal⟩
            (rows.sort [⟨field, .ascending⟩]) ∧
          Condition.SatisfiedFirst likeMatching ⟨field, operator, literal⟩
            (rows.sort [⟨field, .descending⟩]) := by
  have up {operator : Operator} (member : operator ∈ Operator.comparisons) :=
    Condition.satisfied_of_ascending (commensurable.perm (rows.sort_perm _))
      (rows.pairwise_sort_ascending field) member likeMatching
  -- A descending table is an ascending one when it is read from its end.
  have down {operator : Operator} (member : operator ∈ Operator.comparisons) :=
    Condition.satisfied_of_ascending
      (commensurable.perm ((List.reverse_perm _).trans (rows.sort_perm _)))
      (rows.pairwise_reverse_sort_descending field) member likeMatching
  refine ⟨fun direction => rows.sort_perm _, ?_, ?_⟩
  · intro operator lower
    have member : operator ∈ Operator.comparisons := by
      revert lower
      cases operator <;> decide
    exact ⟨(up member).1 lower, Condition.satisfiedLast_iff.2 ((down member).1 lower)⟩
  · intro operator upper
    have member : operator ∈ Operator.comparisons := by
      revert upper
      cases operator <;> decide
    have first := Condition.satisfiedLast_iff.1 ((down member).2 upper)
    rw [List.reverse_reverse] at first
    exact ⟨(up member).2 upper, first⟩

/-- Two numbers around the bound round to it, and one is a zero below zero. -/
def boundedIds : Table :=
  [.ofEntries [("id", .int 9007199254740993)], .ofEntries [("id", .float ⟨true, 0⟩)],
    .ofEntries [("id", .int 9007199254740991)], .ofEntries [("id", .int 9007199254740992)]]

theorem sort_splits_at_bound_of_rounded_ids :
    Commensurable boundedIds "id" " 9007199254740993 " ∧
      Condition.SatisfiedFirst false ⟨"id", .less, " 9007199254740993 "⟩
        (boundedIds.sort [⟨"id", .ascending⟩]) ∧
      Condition.SatisfiedFirst false ⟨"id", .atLeast, " 9007199254740993 "⟩
        (boundedIds.sort [⟨"id", .descending⟩]) := by
  have numeric : (Literal.ofText? (Text.trim " 9007199254740993 ".toList)).isSome := by
    decide +kernel
  obtain ⟨read, reads⟩ := Option.isSome_iff_exists.1 numeric
  have commensurable : Commensurable boundedIds "id" " 9007199254740993 " := by
    refine .numbers reads ?_
    intro row member
    simp only [boundedIds, List.mem_cons, List.not_mem_nil, or_false] at member
    rcases member with rfl | rfl | rfl | rfl <;> exact ⟨_, _, rfl, rfl⟩
  obtain ⟨-, below, above⟩ := sort_splits_at_bound commensurable false
  exact ⟨commensurable, (below .less (by decide)).1, (above .atLeast (by decide)).2⟩

end Table

end TableQuery
