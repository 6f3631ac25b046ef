import Mathlib.Data.List.Forall2

/-! Results of steps that may fail, one after another and along a list. -/

set_option autoImplicit false

namespace TableQuery

variable {ε α β : Type}

theorem bind_eq_ok_iff {first : Except ε α} {next : α → Except ε β} {result : β} :
    first >>= next = .ok result ↔ ∃ value, first = .ok value ∧ next value = .ok result := by
  cases first <;> simp [bind, Except.bind]

theorem map_eq_ok_iff {first : Except ε α} {change : α → β} {result : β} :
    first.map change = .ok result ↔ ∃ value, first = .ok value ∧ change value = result := by
  cases first <;> simp [Except.map]

theorem mapM_ok_iff {step : α → Except ε β} {items : List α} {results : List β} :
    items.mapM step = .ok results ↔
      List.Forall₂ (fun item result => step item = .ok result) items results := by
  induction items generalizing results with
  | nil => cases results <;> simp [pure, Except.pure]
  | cons item items ih =>
    rw [List.mapM_cons, bind_eq_ok_iff]
    constructor
    · intro held
      obtain ⟨value, here, rest⟩ := held
      obtain ⟨values, later, same⟩ := bind_eq_ok_iff.1 rest
      cases same
      exact .cons here (ih.1 later)
    · intro steps
      cases steps with
      | cons here later => exact ⟨_, here, bind_eq_ok_iff.2 ⟨_, ih.2 later, rfl⟩⟩

theorem mapM_some_iff {step : α → Option β} {items : List α} {results : List β} :
    items.mapM step = some results ↔
      List.Forall₂ (fun item result => step item = some result) items results := by
  induction items generalizing results with
  | nil => cases results <;> simp
  | cons item items ih =>
    rw [List.mapM_cons, Option.bind_eq_bind, Option.bind_eq_some_iff]
    constructor
    · intro held
      obtain ⟨value, here, rest⟩ := held
      obtain ⟨values, later, same⟩ := Option.bind_eq_some_iff.1 rest
      cases same
      exact .cons here (ih.1 later)
    · intro steps
      cases steps with
      | cons here later => exact ⟨_, here, Option.bind_eq_some_iff.2 ⟨_, ih.2 later, rfl⟩⟩

theorem exists_of_mem_results {relation : α → β → Prop} {items : List α} {results : List β}
    (related : List.Forall₂ relation items results) {result : β} (member : result ∈ results) :
    ∃ item ∈ items, relation item result := by
  induction related with
  | nil => cases member
  | cons here _ ih =>
    rcases List.mem_cons.1 member with rfl | member
    · exact ⟨_, List.mem_cons_self, here⟩
    · obtain ⟨item, inside, relates⟩ := ih member
      exact ⟨item, List.mem_cons_of_mem _ inside, relates⟩

theorem exists_first_failing {holds : α → Prop} [DecidablePred holds] {items : List α}
    (fails : ¬∀ item ∈ items, holds item) :
    ∃ before item after, items = before ++ item :: after ∧ (∀ other ∈ before, holds other) ∧
      ¬holds item := by
  have some : (items.find? fun item => !decide (holds item)).isSome = true := by
    simpa [List.find?_isSome] using fails
  obtain ⟨item, found⟩ := Option.isSome_iff_exists.1 some
  obtain ⟨failing, before, after, split, kept⟩ := List.find?_eq_some_iff_append.1 found
  exact ⟨before, item, after, split, by simpa using kept, by simpa using failing⟩

end TableQuery
