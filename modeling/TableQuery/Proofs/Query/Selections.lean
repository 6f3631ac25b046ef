import TableQuery.Proofs.Query.Keywords
import TableQuery.Proofs.Query.Written
import TableQuery.Proofs.Request.Legible

/-! The selection of a query read back from canonical text. -/

set_option autoImplicit false

namespace TableQuery

open Query Text

theorem Request.headChars_eq (request : Request) :
    request.headChars = "SELECT".toList ++ (' ' :: listed request.fields) ++
      ' ' :: ("FROM".toList ++ ' ' :: request.table.toList) := by
  have shape : ∀ fields table : List Char,
      "SELECT ".toList ++ fields ++ " FROM ".toList ++ table =
        "SELECT".toList ++ (' ' :: fields) ++ ' ' :: ("FROM".toList ++ ' ' :: table) := by
    intro fields table
    simp
  exact shape _ _

theorem Request.trimmed_headChars {request : Request} (table : IsName request.table) :
    Trimmed request.headChars ∧ request.headChars ≠ [] := by
  have first : Trimmed "SELECT".toList := trimmed_of_all rfl
  have whole := trimmed_between first table.trimmed (by decide) table.nonempty
    ((' ' :: listed request.fields) ++ ' ' :: ("FROM".toList ++ [' ']))
  rw [headChars_eq]
  refine ⟨?_, List.append_ne_nil_of_left_ne_nil (by simp) _⟩
  simpa only [List.append_assoc, List.cons_append, List.nil_append] using whole

def Join.conditionChars (join : Join) : List Char :=
  join.keys.left.toList ++ " = ".toList ++ join.keys.right.toList

def Join.bodyChars (join : Join) : List Char :=
  join.table.toList ++ ' ' :: ("ON".toList ++ ' ' :: join.conditionChars)

theorem Join.chars_eq (join : Join) :
    join.chars = ' ' :: (join.kind.keyword.toList ++ " JOIN".toList ++ ' ' :: join.bodyChars) := by
  simp only [chars, bodyChars, conditionChars, List.append_assoc, List.cons_append]
  rfl

theorem Join.trimmed_conditionChars {join : Join} (wellFormed : join.WellFormed) :
    Trimmed join.conditionChars ∧ join.conditionChars ≠ [] := by
  have left := ne_nil_of_isOperand wellFormed.left
  refine ⟨trimmed_between (trimmed_of_isOperand wellFormed.left)
    (trimmed_of_isOperand wellFormed.right) left (ne_nil_of_isOperand wellFormed.right) _, ?_⟩
  simp [conditionChars]

theorem Join.trimmed_bodyChars {join : Join} (wellFormed : join.WellFormed) :
    Trimmed join.bodyChars ∧ join.bodyChars ≠ [] := by
  obtain ⟨condition, full⟩ := trimmed_conditionChars wellFormed
  have whole := trimmed_between wellFormed.table.trimmed condition wellFormed.table.nonempty full
    (' ' :: ("ON".toList ++ [' ']))
  refine ⟨?_, List.append_ne_nil_of_left_ne_nil wellFormed.table.nonempty _⟩
  simpa only [bodyChars, List.append_assoc, List.cons_append, List.nil_append] using whole

namespace Query

variable {letters : List Char}

/-- The fields and the table are read back when the first FROM is the one behind the fields. -/
theorem fieldsAndTable?_headChars_iff {request : Request} (wellFormed : request.WellFormed) :
    fieldsAndTable? request.headChars = some (request.fields, request.table) ↔
      Leads [⟨(), ["FROM"]⟩] (' ' :: listed request.fields) true := by
  have heading := heading_word (by decide : Phrase.Lettered ["FROM"]) request.table.toList
  have heavy : Heavy particles [⟨(), ["FROM"]⟩] := heavy_word (by decide)
  have leading : afterLeadingWord? "SELECT" request.headChars =
      some ((' ' :: listed request.fields) ++
        ' ' :: ("FROM".toList ++ ' ' :: request.table.toList)) := by
    rw [Request.headChars_eq]
    rfl
  rw [fieldsAndTable?_eq_some_iff, leading]
  constructor
  · intro held
    obtain ⟨_, cut, ⟨⟩, found, -, -, -, table⟩ := held
    refine heading.leads heavy (findPhrase?_eq_some_iff.1 found) ?_
    rw [table, String.toList_ofList, weight_space, weight_trim]
  · intro leads
    have first := (trimmed_listed wellFormed.fields).trim_in_spaces
    have second := wellFormed.table.trimmed.trim_after_space
    refine ⟨_, _, rfl, findPhrase?_eq_some_iff.2 (heading.find?_eq leads), ?_⟩
    dsimp only
    rw [first, second, String.ofList_toList]
    have names := fieldNames?_listed wellFormed.fields_ne wellFormed.fields
    refine ⟨?_, by simpa using wellFormed.table.nonempty, names, rfl⟩
    apply Bool.eq_false_iff.2
    intro empty
    rw [List.isEmpty_iff.1 empty] at names
    cases names

theorem readJoin_bodyChars_iff {join : Join} (wellFormed : join.WellFormed) :
    readJoin join.kind (' ' :: join.bodyChars) = .ok join ↔
      Leads [⟨(), ["ON"]⟩] (' ' :: join.table.toList) true := by
  have heading := heading_word (by decide : Phrase.Lettered ["ON"]) join.conditionChars
  have heavy : Heavy [] [⟨(), ["ON"]⟩] := heavy_word (by decide)
  have condition := (Join.trimmed_conditionChars wellFormed).1
  have keys := joinKeys?_written wellFormed.left wellFormed.right
  have shape : ' ' :: join.bodyChars =
      (' ' :: join.table.toList) ++ ' ' :: ("ON".toList ++ ' ' :: join.conditionChars) := rfl
  rw [readJoin_eq_ok_iff, (Join.trimmed_bodyChars wellFormed).1.trim_after_space, shape]
  constructor
  · intro held
    obtain ⟨cut, found, read, -⟩ := held
    refine heading.leads heavy (findPhrase?_eq_some_iff.1 found) ?_
    have weighs : weight [] (trim cut.after) = _ := weight_of_joinKeys? read
    rw [weight_trim] at weighs
    rw [weighs, weight_space, ← weight_of_joinKeys? keys]
    rfl
  · intro leads
    refine ⟨_, findPhrase?_eq_some_iff.2 (heading.find?_eq leads), ?_⟩
    dsimp only
    rw [condition.trim_after_space, wellFormed.table.trimmed.trim_in_spaces, String.ofList_toList]
    exact ⟨keys, rfl, by simpa using wellFormed.table.nonempty, rfl⟩

theorem weight_bodyChars {join : Join} (wellFormed : join.WellFormed) :
    weight letters join.bodyChars = nameWeight letters join.table + nameWeight letters "ON" +
      keysWeight letters join.keys := by
  have keys := joinKeys?_written wellFormed.left wellFormed.right
  rw [Join.bodyChars, weight_append, weight_space, weight_append, weight_space,
    Join.conditionChars, weight_of_joinKeys? keys, ← Nat.add_assoc]
  rfl

theorem Selection.ofText_selectionChars_iff {request : Request} (wellFormed : request.WellFormed) :
    Selection.ofText request.selectionChars =
        .ok ⟨request.fields, request.table, request.join⟩ ↔
      Leads joinKeywords request.headChars request.join.isSome ∧
        Leads [⟨(), ["FROM"]⟩] (' ' :: listed request.fields) true ∧
        ∀ join ∈ request.join, Leads [⟨(), ["ON"]⟩] (' ' :: join.table.toList) true := by
  have head := (Request.trimmed_headChars wellFormed.table).1
  rw [Request.selectionChars]
  cases joined : request.join with
  | none =>
    simp only [Option.map_none, Option.getD_none, List.append_nil, Option.isSome_none,
      leads_false_iff, Selection.ofText_none_iff, head.trim_eq]
    rw [fieldsAndTable?_headChars_iff wellFormed]
    simp
  | some join =>
    have joinFormed := wellFormed.join join joined
    have heading := heading_join join.kind join.bodyChars
    rw [Option.map_some, Option.getD_some, Join.chars_eq, Selection.ofText_some_iff]
    constructor
    · intro held
      obtain ⟨cut, found, read, parts⟩ := held
      -- What was read behind the keyword has the weight of the written join.
      have level : weight particles cut.after = weight particles (' ' :: join.bodyChars) := by
        rw [weight_of_readJoin read, weight_space, weight_bodyChars joinFormed]
      have leads := heading.leads heavy_join found level
      have first := heading.find?_eq leads
      rw [found] at first
      cases first
      rw [head.trim_before_space, fieldsAndTable?_headChars_iff wellFormed] at parts
      rw [readJoin_bodyChars_iff joinFormed] at read
      refine ⟨leads, parts, ?_⟩
      rintro other ⟨⟩
      exact read
    · intro held
      obtain ⟨leads, fields, table⟩ := held
      refine ⟨_, heading.find?_eq leads, ?_, ?_⟩
      · exact (readJoin_bodyChars_iff joinFormed).2 (table join rfl)
      · rw [head.trim_before_space, fieldsAndTable?_headChars_iff wellFormed]
        exact fields

end Query

end TableQuery
