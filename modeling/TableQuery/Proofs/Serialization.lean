import Mathlib.Data.List.Basic
import TableQuery.Proofs.Values
import TableQuery.Request.Printing

/-! Rows and requests as values.

Different tables have different values, and so have different requests: nothing of a request is lost
in its value. The numbers in the value of a table are those of its rows, and a request has none.
-/

set_option autoImplicit false

namespace TableQuery

section Lists

theorem Value.array_map_injective {α : Type} {item : α → Value} (injective : Function.Injective item) :
    Function.Injective fun items : List α => Value.array (items.map item) :=
  fun _ _ same => injective.list_map (Value.array.inj same)

theorem Value.representable_array_map {α : Type} {item : α → Value} {items : List α}
    (each : ∀ one ∈ items, (item one).Representable) :
    (Value.array (items.map item)).Representable :=
  .array (List.forall_mem_map.2 each)

theorem Row.toValue_injective : Function.Injective Row.toValue := by
  intro first second same
  exact Row.ext (Value.object.inj same)

theorem representable_table {rows : Table} (each : ∀ row ∈ rows, row.All Value.Representable) :
    (Value.array (rows.map Row.toValue)).Representable :=
  Value.representable_array_map fun row member => .object (each row member)

end Lists

section Parts

theorem Value.ofStrings_injective : Function.Injective Value.ofStrings :=
  Value.array_map_injective fun _ _ => Value.string.inj

theorem Operator.token_injective : Function.Injective Operator.token := by
  intro first second same
  have read := ofToken?_token second
  rw [← same, ofToken?_token] at read
  exact Option.some.inj read

/-- An absent part is null, which no part is that is there. -/
theorem Value.ofOption_injective {α : Type} {part : α → Value} (injective : Function.Injective part)
    (present : ∀ one, part one ≠ .null) :
    Function.Injective fun option : Option α => Value.ofOption (option.map part) := by
  intro first second same
  cases first with
  | none =>
    cases second with
    | none => rfl
    | some other => exact absurd same.symm (present other)
  | some one =>
    cases second with
    | none => exact absurd same (present one)
    | some other => exact congrArg some (injective same)

theorem Condition.toValue_injective : Function.Injective Condition.toValue := by
  rintro ⟨field, operator, value⟩ ⟨other, operator', value'⟩ same
  simp only [toValue, Value.object.injEq, List.cons.injEq, Prod.mk.injEq, Value.string.injEq,
    true_and, and_true] at same
  rw [Condition.mk.injEq]
  exact ⟨same.1, Operator.token_injective same.2.1, same.2.2⟩

theorem JoinKind.toValue_injective : Function.Injective JoinKind.toValue := by
  intro first second same
  cases first <;> cases second <;> first | rfl | simp [toValue] at same

theorem Join.toValue_injective : Function.Injective Join.toValue := by
  rintro ⟨kind, table, left, right⟩ ⟨kind', table', left', right'⟩ same
  simp only [toValue, Value.object.injEq, List.cons.injEq, Prod.mk.injEq, Value.string.injEq,
    true_and, and_true] at same
  rw [Join.mk.injEq, JoinKeys.mk.injEq]
  exact ⟨JoinKind.toValue_injective same.1, same.2⟩

theorem Direction.toValue_injective : Function.Injective Direction.toValue := by
  intro first second same
  cases first <;> cases second <;> first | rfl | simp [toValue] at same

theorem OrderKey.toValue_injective : Function.Injective OrderKey.toValue := by
  rintro ⟨field, direction⟩ ⟨field', direction'⟩ same
  simp only [toValue, Value.object.injEq, List.cons.injEq, Prod.mk.injEq, Value.string.injEq,
    true_and, and_true] at same
  rw [OrderKey.mk.injEq]
  exact ⟨same.1, Direction.toValue_injective same.2⟩

end Parts

theorem Request.toValue_injective : Function.Injective Request.toValue := by
  rintro ⟨fields, table, conditions, join, groupBy, orderBy, ungrouped⟩
    ⟨fields', table', conditions', join', groupBy', orderBy', ungrouped'⟩ same
  simp only [toValue, Value.object.injEq, List.cons.injEq, Prod.mk.injEq, Value.string.injEq,
    Value.bool.injEq, true_and, and_true] at same
  obtain ⟨fields, table, conditions, join, groupBy, orderBy, ungrouped⟩ := same
  rw [Request.mk.injEq]
  refine ⟨Value.ofStrings_injective fields, table,
    Value.array_map_injective Condition.toValue_injective conditions, ?_, ?_, ?_, ungrouped⟩
  · exact Value.ofOption_injective Join.toValue_injective nofun join
  · exact Value.ofOption_injective Value.ofStrings_injective nofun groupBy
  · exact Value.ofOption_injective (Value.array_map_injective OrderKey.toValue_injective) nofun orderBy

section Numbers

theorem Value.representable_ofOption {option : Option Value}
    (each : ∀ value ∈ option, value.Representable) : (Value.ofOption option).Representable := by
  cases option with
  | none => exact .null
  | some value => exact each value rfl

theorem Condition.representable_toValue (condition : Condition) :
    condition.toValue.Representable :=
  .object (by simp [Value.Representable.string])

theorem Join.representable_toValue (join : Join) : join.toValue.Representable := by
  have kind : join.kind.toValue.Representable := by
    cases join.kind <;> exact .string _
  have keys : (Value.object
      [("left", .string join.keys.left), ("right", .string join.keys.right)]).Representable :=
    .object (by simp [Value.Representable.string])
  exact .object (by simp [kind, keys, Value.Representable.string])

theorem OrderKey.representable_toValue (key : OrderKey) : key.toValue.Representable := by
  have direction : key.direction.toValue.Representable := by
    cases key.direction <;> exact .string _
  exact .object (by simp [direction, Value.Representable.string])

theorem Request.representable_toValue (request : Request) : request.toValue.Representable := by
  have strings (texts : List String) : (Value.ofStrings texts).Representable :=
    Value.representable_array_map fun text _ => .string text
  have conditions : (Value.array (request.conditions.map Condition.toValue)).Representable :=
    Value.representable_array_map fun condition _ => condition.representable_toValue
  have keys (keys : List OrderKey) : (Value.array (keys.map OrderKey.toValue)).Representable :=
    Value.representable_array_map fun key _ => key.representable_toValue
  have join : (Value.ofOption (request.join.map Join.toValue)).Representable :=
    Value.representable_ofOption (by simp [Join.representable_toValue])
  have groupBy : (Value.ofOption (request.groupBy.map .ofStrings)).Representable :=
    Value.representable_ofOption (by simp [strings])
  have orderBy : (Value.ofOption
      (request.orderBy.map fun keys => .array (keys.map OrderKey.toValue))).Representable :=
    Value.representable_ofOption (by simp [keys])
  apply Value.Representable.object
  simp [strings, conditions, join, groupBy, orderBy, Value.Representable.string,
    Value.Representable.bool]

end Numbers

end TableQuery
