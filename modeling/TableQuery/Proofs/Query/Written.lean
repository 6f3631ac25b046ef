import TableQuery.Proofs.Number.Spelling
import TableQuery.Proofs.Query.Lists
import TableQuery.Request.Printing

/-! The parts of a request read back from the text that they are written as. -/

set_option autoImplicit false

namespace TableQuery

open Query Text

theorem trimmed_listed {names : List String} (entry : ∀ name ∈ names, IsEntry name) :
    Trimmed (listed names) := by
  apply trimmed_intercalate
  · intro text member
    obtain ⟨name, inside, rfl⟩ := List.mem_map.1 member
    exact (entry name inside).trimmed
  · intro text member
    obtain ⟨name, inside, rfl⟩ := List.mem_map.1 member
    exact (entry name inside).nonempty

theorem ne_nil_of_isOperand {text : List Char} (operand : isOperand text = true) : text ≠ [] := by
  rintro rfl
  cases operand

theorem of_mem_operand {text : List Char} (operand : isOperand text = true) {c : Char}
    (member : c ∈ text) : isBlank c = false ∧ c ≠ '\'' ∧ c ≠ '=' := by
  rw [isOperand, Bool.and_eq_true, List.all_eq_true] at operand
  have part := operand.2 c member
  simp only [Bool.or_eq_true, beq_iff_eq] at part
  rcases part with (alphanumeric | rfl) | rfl
  · obtain ⟨quote, -, equals⟩ := ne_of_isAlphanumeric alphanumeric
    exact ⟨not_blank_of_isAlphanumeric alphanumeric, quote, equals⟩
  · decide
  · decide

theorem trimmed_of_isOperand {text : List Char} (operand : isOperand text = true) :
    Trimmed text :=
  trimmed_of_solid fun _ member => (of_mem_operand operand member).1

theorem IsOrderField.trimmed_chars {key : OrderKey} (field : IsOrderField key.field) :
    Trimmed key.chars := by
  have name := trimmed_of_solid field.solid
  have word : Trimmed key.direction.keyword.toList := by
    cases key.direction <;> exact trimmed_of_all rfl
  have full : key.direction.keyword.toList ≠ [] := by cases key.direction <;> decide
  have whole := trimmed_between name word field.nonempty full [' ']
  simpa [OrderKey.chars] using whole

theorem literalChars_cases (condition : Condition) :
    condition.literalChars = '\'' :: condition.value.toList ++ ['\''] ∨
      condition.literalChars = condition.value.toList ∧
        Literal.Spelled condition.literalChars ∧ condition.literalChars ≠ [] := by
  rw [Condition.literalChars]
  split
  · exact .inl rfl
  · rename_i bare
    simp only [Condition.isQuoted, Bool.or_eq_true, not_or, Bool.not_eq_true] at bare
    obtain ⟨literal, read⟩ := Option.isSome_iff_exists.1 (by simpa using bare.2)
    exact .inr ⟨rfl, Literal.spelled_of_ofText? read, Literal.ne_nil_of_ofText? read⟩

theorem trimmed_literalChars (condition : Condition) :
    Trimmed condition.literalChars ∧ condition.literalChars ≠ [] := by
  rcases literalChars_cases condition with quoted | ⟨-, spelled, full⟩
  · have quote : Trimmed ['\''] := trimmed_of_all rfl
    rw [quoted]
    exact ⟨trimmed_between quote quote (by simp) (by simp) _, by simp⟩
  · exact ⟨trimmed_of_solid fun c member => Literal.not_blank_of_isNumeral (spelled c member), full⟩

theorem Condition.trimmed_chars {condition : Condition} (field : IsName condition.field) :
    Trimmed condition.chars ∧ condition.chars ≠ [] := by
  obtain ⟨literal, full⟩ := trimmed_literalChars condition
  have whole := trimmed_between field.trimmed literal field.nonempty full
    (' ' :: condition.operator.token.toList ++ [' '])
  constructor
  · simpa [Condition.chars] using whole
  · simp [Condition.chars]

namespace Query

theorem isGap_space : IsGap [' '] := by decide

theorem listText_listed {names : List String} (nonempty : names ≠ []) :
    ListText NameText names (listed names) :=
  .intercalate nonempty fun _ _ => rfl

theorem readGroupBy_listed {names : List String} (nonempty : names ≠ [])
    (entry : ∀ name ∈ names, IsEntry name) : readGroupBy (' ' :: listed names) = .ok names := by
  have read := readGroupBy_of_listText (listText_listed nonempty) entry isGap_space
  exact read

theorem readOrderBy_intercalate {keys : List OrderKey} (nonempty : keys ≠ [])
    (fields : ∀ key ∈ keys, IsOrderField key.field) :
    readOrderBy (' ' :: [',', ' '].intercalate (keys.map OrderKey.chars)) = .ok keys := by
  have written : ∀ key ∈ keys, KeyText key key.chars := by
    intro key _
    have same : sameLetters key.direction.keyword.toList key.direction.keyword.toList = true :=
      beq_self_eq_true _
    simpa [OrderKey.chars] using KeyText.directed isGap_space (by simp) same
  have text : ListText KeyText keys ([',', ' '].intercalate (keys.map OrderKey.chars)) :=
    .intercalate nonempty written
  have read := readOrderBy_of_listText text fields isGap_space
  exact read

theorem fieldNames?_listed {names : List String} (nonempty : names ≠ [])
    (entry : ∀ name ∈ names, IsEntry name) : fieldNames? (listed names) = some names :=
  fieldNames?_of_listText (listText_listed nonempty) entry

theorem joinKeys?_written {keys : JoinKeys} (left : isOperand keys.left.toList = true)
    (right : isOperand keys.right.toList = true) :
    joinKeys? (keys.left.toList ++ " = ".toList ++ keys.right.toList) = some keys := by
  have absent : '=' ∉ keys.left.toList ++ [' '] := by
    rw [List.mem_append, not_or]
    exact ⟨fun member => (of_mem_operand left member).2.2 rfl, by decide⟩
  have cut := cutAt_append absent (' ' :: keys.right.toList)
  have same : keys.left.toList ++ " = ".toList ++ keys.right.toList =
      (keys.left.toList ++ [' ']) ++ '=' :: ' ' :: keys.right.toList := by simp
  rw [same, joinKeys?, cut]
  simp [(trimmed_of_isOperand left).trim_before_space, (trimmed_of_isOperand right).trim_after_space,
    left, right]

end Query

end TableQuery
