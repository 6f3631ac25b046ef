import TableQuery.Condition.Evaluation

/-! The six comparisons against each other.

A cell stands below, at or above a literal, or in no order to it, and each comparison operator
reads its verdict off that. So the verdicts agree with each other, and a field that is missing
compares as one that holds null.
-/

set_option autoImplicit false

namespace TableQuery

inductive IsNested : Value → Prop where
  | array (items : List Value) : IsNested (.array items)
  | object (fields : List (String × Value)) : IsNested (.object fields)

/-- A cell without a value, or a number against a literal that is no number at all. -/
inductive Incomparable (literal : String) : Option Value → Prop where
  | missing : Incomparable literal none
  | null : Incomparable literal (some .null)
  | nan {cell : Value} {number : Double} (numeric : cell.number? = some number)
      (nan : Literal.ofText? (Text.trim literal.toList) = some .nan) :
      Incomparable literal (some cell)

/-- The laws between the verdicts of the six comparisons on one cell and one literal. -/
structure Coherent (verdict : Operator → Bool) : Prop where
  notEqual : verdict .notEqual = !verdict .equal
  atLeast : verdict .atLeast = (verdict .greater || verdict .equal)
  atMost : verdict .atMost = (verdict .less || verdict .equal)
  exclusive : [Operator.less, .equal, .greater].countP verdict ≤ 1

namespace Operator

variable (ordering : Ordering)

theorem coherent_accepts : Coherent (·.accepts ordering) := by
  cases ordering <;> exact ⟨rfl, rfl, rfl, by decide⟩

theorem coherent_notEqual : Coherent (· == .notEqual) :=
  ⟨rfl, rfl, rfl, by decide⟩

theorem countP_accepts :
    [Operator.less, .equal, .greater].countP (·.accepts ordering) = 1 := by
  cases ordering <;> rfl

end Operator

namespace Comparison

variable {cell : Option Value} {value : Value} {number : Double} {literal : String}

theorem ofCell_of_numeric (numeric : value.number? = some number) {read : Literal}
    (reads : Literal.ofText? (Text.trim literal.toList) = some read) :
    ofCell (some value) literal = ofNumber number read := by
  cases value <;> simp_all [Value.number?, ofCell]

theorem ofCell_of_nested (nested : IsNested value) (literal : String) :
    ofCell (some value) literal = .unsupported value.kind := by
  cases nested <;> rfl

theorem ofCell_of_incomparable (incomparable : Incomparable literal cell) :
    ofCell cell literal = .unordered ∨ ofCell cell literal = .absent := by
  cases incomparable with
  | missing => exact .inr rfl
  | null => exact .inr rfl
  | nan numeric nan => exact .inl (ofCell_of_numeric numeric nan)

theorem exists_ordered_of_numeric (numeric : value.number? = some number)
    (comparable : ¬Incomparable literal (some value)) :
    ∃ ordering, ofCell (some value) literal = .ordered ordering := by
  cases reads : Literal.ofText? (Text.trim literal.toList) with
  | none => cases value <;> simp_all [Value.number?, ofCell, ofText, Value.plainText?]
  | some read =>
    rw [ofCell_of_numeric numeric reads]
    cases read with
    | finite other => exact ⟨_, rfl⟩
    | infinite negative => exact ⟨_, rfl⟩
    | nan => exact absurd (.nan numeric reads) comparable

theorem exists_ordered (single : ∀ value, cell = some value → ¬IsNested value)
    (comparable : ¬Incomparable literal cell) :
    ∃ ordering, ofCell cell literal = .ordered ordering := by
  cases cell with
  | none => exact absurd .missing comparable
  | some value =>
    cases value with
    | null => exact absurd .null comparable
    | bool held => exact ⟨_, rfl⟩
    | int held => exact exists_ordered_of_numeric rfl comparable
    | float held => exact exists_ordered_of_numeric rfl comparable
    | string held => exact ⟨_, rfl⟩
    | array items => exact absurd (.array items) (single _ rfl)
    | object fields => exact absurd (.object fields) (single _ rfl)

end Comparison

namespace Condition

variable {field literal : String} {cell : Option Value}

theorem compares_of_ordered {ordering : Ordering}
    (ordered : Comparison.ofCell cell literal = .ordered ordering) (operator : Operator) :
    compares ⟨field, operator, literal⟩ cell = .ok (operator.accepts ordering) := by
  rw [compares, ordered]

theorem compares_of_incomparable (incomparable : Incomparable literal cell) (operator : Operator) :
    compares ⟨field, operator, literal⟩ cell = .ok (operator == .notEqual) := by
  rw [compares]
  rcases Comparison.ofCell_of_incomparable incomparable with same | same <;> rw [same]

theorem compares_of_nested {value : Value} (nested : IsNested value) (operator : Operator) :
    compares ⟨field, operator, literal⟩ (some value) =
      .error (.unsupportedOperator field operator value.kind) := by
  rw [compares, Comparison.ofCell_of_nested nested]

theorem exists_coherent (single : ∀ value, cell = some value → ¬IsNested value)
    (field literal : String) : ∃ verdict, Coherent verdict ∧
      ([Operator.less, .equal, .greater].countP verdict = 0 ↔ Incomparable literal cell) ∧
      ∀ operator, compares ⟨field, operator, literal⟩ cell = .ok (verdict operator) := by
  -- An incomparable cell satisfies inequality only; of any other one its ordering decides.
  by_cases incomparable : Incomparable literal cell
  · exact ⟨_, Operator.coherent_notEqual, iff_of_true rfl incomparable,
      compares_of_incomparable incomparable⟩
  · obtain ⟨ordering, ordered⟩ := Comparison.exists_ordered single incomparable
    refine ⟨_, Operator.coherent_accepts ordering, ?_, compares_of_ordered ordered⟩
    rw [Operator.countP_accepts]
    exact iff_of_false Nat.one_ne_zero incomparable

theorem holds_of_comparison {operator : Operator} (member : operator ∈ Operator.comparisons)
    (likeMatching : Bool) (row : Row) :
    holds likeMatching row ⟨field, operator, literal⟩ =
      compares ⟨field, operator, literal⟩ (row.get? field) := by
  have comparison : operator ≠ .like := by
    rintro rfl
    revert member
    decide
  exact if_neg comparison

theorem compares_congr {first second : Option Value} (same : first.getD .null = second.getD .null)
    (condition : Condition) : condition.compares first = condition.compares second := by
  have filled (cell : Option Value) :
      condition.compares cell = condition.compares (some (cell.getD .null)) := by
    cases cell <;> rfl
  rw [filled first, same, ← filled]

/-- The six comparisons of a field with a literal err together, where the field holds an array or
an object, or they all succeed with verdicts that agree. They read nothing of a row but what the
field holds, and a missing field as one that holds null. -/
theorem holds_coherent (likeMatching : Bool) (row : Row) (field literal : String) :
    ((∃ value, row.get? field = some value ∧ IsNested value ∧
        ∀ operator ∈ Operator.comparisons, holds likeMatching row ⟨field, operator, literal⟩ =
          .error (.unsupportedOperator field operator value.kind)) ∨
      (∀ value, row.get? field = some value → ¬IsNested value) ∧
        ∃ verdict, Coherent verdict ∧
          ([Operator.less, .equal, .greater].countP verdict = 0 ↔
            Incomparable literal (row.get? field)) ∧
          ∀ operator ∈ Operator.comparisons,
            holds likeMatching row ⟨field, operator, literal⟩ = .ok (verdict operator)) ∧
      ∀ other : Row, (other.get? field).getD .null = (row.get? field).getD .null →
        ∀ operator ∈ Operator.comparisons, holds likeMatching other ⟨field, operator, literal⟩ =
          holds likeMatching row ⟨field, operator, literal⟩ := by
  constructor
  · by_cases nested : ∃ value, row.get? field = some value ∧ IsNested value
    · obtain ⟨value, held, nested⟩ := nested
      refine .inl ⟨value, held, nested, ?_⟩
      intro operator member
      rw [holds_of_comparison member, held]
      exact compares_of_nested nested operator
    · have single : ∀ value, row.get? field = some value → ¬IsNested value :=
        fun value held inside => nested ⟨value, held, inside⟩
      obtain ⟨verdict, coherent, none_iff, succeeds⟩ := exists_coherent single field literal
      refine .inr ⟨single, verdict, coherent, none_iff, ?_⟩
      intro operator member
      rw [holds_of_comparison member]
      exact succeeds operator
  · intro other same operator member
    rw [holds_of_comparison member, holds_of_comparison member]
    exact compares_congr same _

end Condition

end TableQuery
