import Mathlib.Algebra.Ring.Int.Defs
import TableQuery.Proofs.Condition.Coherence
import TableQuery.Proofs.Number.WholeLiteral

/-! Whole numbers compared with each other.

A whole number in a cell and one in a literal are both rounded before they are compared. They compare
as they are unless they round to one number; then they compare as equals.
-/

set_option autoImplicit false

namespace TableQuery

def Operator.relates (operator : Operator) (n m : Int) : Bool :=
  match operator with
  | equal => n = m
  | notEqual => n ≠ m
  | greater => m < n
  | less => n < m
  | atLeast => m ≤ n
  | atMost => n ≤ m
  | like => false

theorem Operator.accepts_compare (operator : Operator) (n m : Int) :
    operator.accepts (Ord.compare n m) = operator.relates n m := by
  rcases Int.lt_trichotomy n m with below | rfl | above
  · have other : n ≠ m := Int.ne_of_lt below
    rw [Int.compare_eq_lt.2 below]
    cases operator <;> simp [accepts, relates, bne, below, other, Int.le_of_lt below]
  · rw [Int.compare_eq_eq.2 rfl]
    cases operator <;> simp [accepts, relates]
  · have other : n ≠ m := Int.ne_of_gt above
    rw [Int.compare_eq_gt.2 above]
    cases operator <;> simp [accepts, relates, bne, above, other, Int.le_of_lt above]

namespace Condition

variable {likeMatching : Bool} {row : Row} {field literal : String} {n m : Int}

/-- The six comparisons of the field with the literal are those of the two numbers. -/
def ComparesAs (likeMatching : Bool) (row : Row) (field literal : String) (n m : Int) : Prop :=
  ∀ operator ∈ Operator.comparisons,
    holds likeMatching row ⟨field, operator, literal⟩ = .ok (operator.relates n m)

theorem holds_of_whole (held : row.get? field = some (.int n))
    (read : Literal.integer? (Text.trim literal.toList) = some m) (small : m.natAbs ≤ 2 ^ 64)
    {operator : Operator} (member : operator ∈ Operator.comparisons) :
    holds likeMatching row ⟨field, operator, literal⟩ =
      .ok (operator.accepts ((Double.ofInt n).compare (Double.ofInt m))) := by
  obtain ⟨value, reads, nearest⟩ := Literal.exists_finite_of_integer? read small
  have ordered : Comparison.ofCell (row.get? field) literal =
      .ordered ((Double.ofInt n).compare (Double.ofInt m)) := by
    rw [held, Comparison.ofCell_of_numeric rfl reads, Double.compare, ← nearest]
    rfl
  rw [holds_of_comparison member, compares_of_ordered ordered]

theorem comparesAs_of_ne (held : row.get? field = some (.int n))
    (read : Literal.integer? (Text.trim literal.toList) = some m) (small : m.natAbs ≤ 2 ^ 64)
    (other : Double.ofInt n ≠ Double.ofInt m) : ComparesAs likeMatching row field literal n m := by
  intro operator member
  rw [holds_of_whole held read small member, Double.compare_ofInt, if_neg other,
    Operator.accepts_compare]

theorem comparesAs_of_eq (held : row.get? field = some (.int n))
    (read : Literal.integer? (Text.trim literal.toList) = some m) (small : m.natAbs ≤ 2 ^ 64)
    (same : Double.ofInt n = Double.ofInt m) : ComparesAs likeMatching row field literal m m := by
  have tied : Ord.compare m m = .eq := Int.compare_eq_eq.2 rfl
  intro operator member
  rw [holds_of_whole held read small member, Double.compare_ofInt, if_pos same, ← tied,
    Operator.accepts_compare]

/-- A whole number compares exactly with a literal of a whole number, unless both round to one
number and differ; then they compare as equals. If one of the two has at most 53 bits this does not
happen. -/
theorem comparesAs_iff (held : row.get? field = some (.int n))
    (read : Literal.integer? (Text.trim literal.toList) = some m)
    (inRange : -2 ^ 63 ≤ m ∧ m < 2 ^ 64) :
    (ComparesAs likeMatching row field literal n m ↔ n = m ∨ Double.ofInt n ≠ Double.ofInt m) ∧
      (Double.ofInt n = Double.ofInt m → ComparesAs likeMatching row field literal m m) ∧
      (n.natAbs < 2 ^ 53 ∨ m.natAbs < 2 ^ 53 → n = m ∨ Double.ofInt n ≠ Double.ofInt m) := by
  have small : m.natAbs ≤ 2 ^ 64 := by omega
  refine ⟨⟨?_, ?_⟩, comparesAs_of_eq held read small, ?_⟩
  · intro exactly
    -- If both round to one number, the verdict on equality is that of equal numbers.
    by_cases same : Double.ofInt n = Double.ofInt m
    · have equals : ComparesAs likeMatching row field literal m m :=
        comparesAs_of_eq held read small same
      have verdict := (exactly .equal (by decide)).symm.trans (equals .equal (by decide))
      left
      simpa [Operator.relates] using verdict
    · exact .inr same
  · rintro (rfl | other)
    · exact comparesAs_of_eq held read small rfl
    · exact comparesAs_of_ne held read small other
  · intro precise
    rw [ne_eq, Double.ofInt_eq_iff]
    rcases Int.lt_trichotomy n m with below | rfl | above
    · exact .inr (Int.ne_of_lt (Double.signedUnits_ofInt_lt below precise))
    · exact .inl rfl
    · exact .inr (Int.ne_of_gt (Double.signedUnits_ofInt_lt above precise.symm))

theorem comparesAs_iff_of_greatest_id :
    let row : Row := .ofEntries [("id", .int 18446744073709551615)]
    let literal := Value.intText 18446744073709549568
    row.get? "id" = some (.int 18446744073709551615) ∧
      Literal.integer? (Text.trim literal.toList) = some 18446744073709549568 ∧
      ComparesAs false row "id" literal 18446744073709551615 18446744073709549568 := by
  intro row literal
  have held : row.get? "id" = some (.int 18446744073709551615) := rfl
  have read := Literal.integer?_trim_intText 18446744073709549568
  have apart : Double.ofInt 18446744073709551615 ≠ Double.ofInt 18446744073709549568 := by
    decide +kernel
  exact ⟨held, read, (comparesAs_iff held read (by decide)).1.2 (.inr apart)⟩

theorem holds_equal_of_neighbouring_ids :
    let row : Row := .ofEntries [("id", .int 9007199254740993)]
    row.get? "id" = some (.int 9007199254740993) ∧
      Literal.integer? (Text.trim "9007199254740992".toList) = some 9007199254740992 ∧
      holds false row ⟨"id", .equal, "9007199254740992"⟩ = .ok true ∧
      Operator.equal.relates 9007199254740993 9007199254740992 = false := by
  intro row
  have held : row.get? "id" = some (.int 9007199254740993) := rfl
  have read : Literal.integer? (Text.trim "9007199254740992".toList) =
      some 9007199254740992 := by decide
  have same : Double.ofInt 9007199254740993 = Double.ofInt 9007199254740992 := by decide +kernel
  have equals : ComparesAs false row "id" "9007199254740992" 9007199254740992 9007199254740992 :=
    comparesAs_of_eq held read (by decide) same
  exact ⟨held, read, equals .equal (by decide), by decide⟩

end Condition

end TableQuery
