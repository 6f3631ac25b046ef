/-! Lists of names in order of first appearance. -/

set_option autoImplicit false

namespace TableQuery

/-- Appends the names that `known` does not hold yet, each once. -/
def addMissing (known : List String) : List String → List String
  | [] => known
  | name :: rest => addMissing (if name ∈ known then known else known ++ [name]) rest

theorem mem_addMissing {known names : List String} {name : String} :
    name ∈ addMissing known names ↔ name ∈ known ∨ name ∈ names := by
  induction names generalizing known with
  | nil => simp [addMissing]
  | cons first rest ih =>
    rw [addMissing, ih]
    split
    · rename_i present
      constructor
      · rintro (held | held)
        · exact .inl held
        · exact .inr (List.mem_cons_of_mem _ held)
      · rintro (held | held)
        · exact .inl held
        · rcases List.mem_cons.1 held with rfl | held
          · exact .inl present
          · exact .inr held
    · simp only [List.mem_append, List.mem_cons, List.not_mem_nil, or_false, or_assoc]

theorem addMissing_nodup {known : List String} (distinct : known.Nodup) (names : List String) :
    (addMissing known names).Nodup := by
  induction names generalizing known with
  | nil => exact distinct
  | cons first rest ih =>
    rw [addMissing]
    split
    · exact ih distinct
    · rename_i absent
      exact ih (List.nodup_append.2 ⟨distinct, by simp, by
        intro name member other equal
        simp only [List.mem_singleton] at equal
        rintro rfl
        exact absent (equal ▸ member)⟩)

end TableQuery
