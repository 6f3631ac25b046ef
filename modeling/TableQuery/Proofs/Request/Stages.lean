import TableQuery.Proofs.Query.Scanning
import TableQuery.Proofs.Text.Trimming
import TableQuery.Proofs.Traversal
import TableQuery.Request.Reading

/-! What each stage of reading a query has found when it succeeds. -/

set_option autoImplicit false

namespace TableQuery

open Query Text

namespace Query

theorem comparison?_of_append {text rest : List Char} (absent : comparison? (text ++ rest) = none) :
    comparison? text = none := by
  rw [comparison?, List.find?_eq_none] at absent ⊢
  intro operator member found
  apply absent operator member
  rw [List.isPrefixOf_iff_prefix] at found ⊢
  exact found.trans (List.prefix_append text rest)

/-- What follows a text adds no comparison that begins in it. -/
theorem comparisonHere?_of_append {place : Place} {c : Char} {text rest : List Char}
    (absent : (if place.isPlain c then comparison? (c :: (text ++ rest)) else none) = none) :
    (if place.isPlain c then comparison? (c :: text) else none) = none := by
  split
  · rename_i plain
    rw [if_pos plain] at absent
    exact comparison?_of_append absent
  · rfl

theorem cutAtComparison?_of_append {place : Place} {text rest : List Char}
    (absent : cutAtComparison? place (text ++ rest) = none) :
    cutAtComparison? place text = none := by
  induction text generalizing place with
  | nil => rfl
  | cons c text ih =>
    rw [List.cons_append, cutAtComparison?] at absent
    rw [cutAtComparison?]
    split at absent
    · cases absent
    · rename_i here
      have later := ih (Option.map_eq_none_iff.1 absent)
      rw [comparisonHere?_of_append here, later]
      rfl

theorem cutAtComparison?_eq_some {place : Place} {text before after : List Char}
    {operator : Operator} (found : cutAtComparison? place text = some (before, operator, after)) :
    text = before ++ operator.token.toList ++ after ∧ operator ≠ .like ∧
      cutAtComparison? place before = none ∧ (place.after before).inside = false := by
  induction text generalizing place before with
  | nil => cases found
  | cons c text ih =>
    rw [cutAtComparison?] at found
    split at found
    · rename_i here
      cases found
      split at here
      · rename_i plain
        have prefixed := List.find?_some here
        obtain ⟨rest, same⟩ := List.isPrefixOf_iff_prefix.1 prefixed
        have listed := List.mem_of_find?_eq_some here
        refine ⟨?_, ?_, rfl, ?_⟩
        · rw [← same, List.nil_append, ← String.length_toList, List.drop_left]
        · rintro rfl
          revert listed
          decide
        · simp only [Place.isPlain, Bool.and_eq_true, Bool.not_eq_true'] at plain
          exact plain.1
      · cases here
    · rename_i here
      obtain ⟨⟨front, other, back⟩, later, same⟩ := Option.map_eq_some_iff.1 found
      cases same
      obtain ⟨whole, comparison, absent, outside⟩ := ih later
      refine ⟨by rw [whole]; rfl, comparison, ?_, outside⟩
      -- Before the cut nothing is compared either, or the cut would have been made there.
      rw [whole, List.append_assoc] at here
      rw [cutAtComparison?, comparisonHere?_of_append here, absent]
      rfl

theorem cutAtLike?_eq_some_iff {text before after : List Char} :
    cutAtLike? text = some (before, after) ↔
      ∃ cut, findPhrase? ["LIKE"] text = some cut ∧ cut.after ≠ [] ∧
        cut.before = before ∧ cut.after = after := by
  rw [cutAtLike?]
  cases findPhrase? ["LIKE"] text with
  | none => simp
  | some cut =>
    cases same : cut.after with
    | nil => simp [same]
    | cons c rest => simp [same]

def cutAtOperator? (text : List Char) : Option (List Char × Operator × List Char) :=
  match cutAtLike? text with
  | some (before, after) => some (before, .like, after)
  | none => cutAtComparison? .start text

theorem cutAtOperator?_like_iff {text before after : List Char} :
    cutAtOperator? text = some (before, .like, after) ↔ cutAtLike? text = some (before, after) := by
  rw [cutAtOperator?]
  cases cutAtLike? text with
  | some cut => simp [Prod.ext_iff]
  | none =>
    simp only [reduceCtorEq, iff_false]
    intro found
    exact (cutAtComparison?_eq_some found).2.1 rfl

theorem cutAtOperator?_comparison_iff {text before after : List Char} {operator : Operator}
    (comparison : operator ≠ .like) :
    cutAtOperator? text = some (before, operator, after) ↔
      cutAtLike? text = none ∧ cutAtComparison? .start text = some (before, operator, after) := by
  rw [cutAtOperator?]
  cases cutAtLike? text with
  | some cut => simp [Ne.symm comparison]
  | none => simp

theorem condition?_eq_some_iff {text : List Char} {condition : Condition} :
    condition? text = some condition ↔
      ∃ before after, cutAtOperator? text = some (before, condition.operator, after) ∧
        (trim before).isEmpty = false ∧
        (condition.operator ≠ .like → (trim after).isEmpty = false) ∧
        condition.field = String.ofList (trim before) ∧
        condition.value = String.ofList (stripQuotes (trim after)) := by
  obtain ⟨field, operator, value⟩ := condition
  rw [condition?, cutAtOperator?]
  cases like : cutAtLike? text with
  | some cut =>
    constructor
    · intro read
      dsimp only at read
      split at read
      · cases read
      · rename_i filled
        cases read
        exact ⟨cut.1, cut.2, rfl, Bool.eq_false_iff.2 filled, fun other => absurd rfl other, rfl, rfl⟩
    · intro held
      obtain ⟨before, after, same, filled, -, rfl, rfl⟩ := held
      cases same
      simp only [filled, Bool.false_eq_true, if_false]
  | none =>
    constructor
    · intro read
      dsimp only at read
      split at read
      · rename_i before other after found
        split at read
        · cases read
        · rename_i filled
          cases read
          rw [Bool.or_eq_true, not_or, Bool.not_eq_true, Bool.not_eq_true] at filled
          exact ⟨before, after, found, filled.1, fun _ => filled.2, rfl, rfl⟩
      · cases read
    · intro held
      obtain ⟨before, after, found, filled, valued, rfl, rfl⟩ := held
      dsimp only at found valued ⊢
      have other := (cutAtComparison?_eq_some found).2.1
      simp only [found, filled, valued other, Bool.or_false, Bool.false_eq_true, if_false]

theorem readCondition_eq_ok_iff {text : List Char} {condition : Condition} :
    readCondition text = .ok condition ↔ condition? (trim text) = some condition := by
  rw [readCondition]
  cases condition? (trim text) <;> simp

theorem readConditions_eq_ok_iff {text : List Char} {conditions : List Condition} :
    readConditions text = .ok conditions ↔
      List.Forall₂ (fun piece condition => condition? (trim piece) = some condition)
        (separate connectives text) conditions := by
  simp only [readConditions, mapM_ok_iff, readCondition_eq_ok_iff]

theorem joinKeys?_eq_some {text : List Char} {keys : JoinKeys} (read : joinKeys? text = some keys) :
    ∃ left right, cutAt '=' text = some (left, right) ∧ isOperand (trim left) = true ∧
      isOperand (trim right) = true ∧
      keys = ⟨String.ofList (trim left), String.ofList (trim right)⟩ := by
  rw [joinKeys?] at read
  split at read
  · cases read
  · rename_i left right cut
    split at read
    · rename_i operands
      rw [Bool.and_eq_true] at operands
      cases read
      exact ⟨left, right, cut, operands.1, operands.2, rfl⟩
    · cases read

theorem readJoin_eq_ok_iff {kind : JoinKind} {text : List Char} {join : Join} :
    readJoin kind text = .ok join ↔
      ∃ cut, findPhrase? ["ON"] (' ' :: trim text) = some cut ∧
        joinKeys? (trim cut.after) = some join.keys ∧ join.kind = kind ∧
        (trim cut.before).isEmpty = false ∧ join.table = String.ofList (trim cut.before) := by
  obtain ⟨kind', table, keys⟩ := join
  rw [readJoin]
  dsimp only
  cases findPhrase? ["ON"] (' ' :: trim text) with
  | none => simp
  | some cut =>
    simp only [Option.some.injEq, exists_eq_left']
    cases joinKeys? (trim cut.after) with
    | none => simp
    | some found =>
      simp only [Option.some.injEq]
      constructor
      · intro read
        split at read
        · cases read
        · rename_i filled
          cases read
          exact ⟨rfl, rfl, Bool.eq_false_iff.2 filled, rfl⟩
      · intro held
        obtain ⟨rfl, rfl, filled, rfl⟩ := held
        simp only [filled, Bool.false_eq_true, if_false]

theorem fieldsAndTable?_eq_some_iff {text : List Char} {fields : List String} {table : String} :
    fieldsAndTable? text = some (fields, table) ↔
      ∃ body cut, afterLeadingWord? "SELECT" text = some body ∧
        findPhrase? ["FROM"] body = some cut ∧ (trim cut.before).isEmpty = false ∧
        (trim cut.after).isEmpty = false ∧ fieldNames? (trim cut.before) = some fields ∧
        table = String.ofList (trim cut.after) := by
  rw [fieldsAndTable?]
  constructor
  · intro read
    obtain ⟨body, leading, read⟩ := Option.bind_eq_some_iff.1 read
    obtain ⟨cut, found, read⟩ := Option.bind_eq_some_iff.1 read
    dsimp only at read
    split at read
    · cases read
    · rename_i filled
      obtain ⟨names, collected, same⟩ := Option.bind_eq_some_iff.1 read
      cases same
      rw [Bool.or_eq_true, not_or, Bool.not_eq_true, Bool.not_eq_true] at filled
      exact ⟨body, cut, leading, found, filled.1, filled.2, collected, rfl⟩
  · intro held
    obtain ⟨body, cut, leading, found, first, second, collected, rfl⟩ := held
    refine Option.bind_eq_some_iff.2 ⟨body, leading, Option.bind_eq_some_iff.2 ⟨cut, found, ?_⟩⟩
    simp only [first, second, Bool.or_false, Bool.false_eq_true, if_false]
    exact Option.bind_eq_some_iff.2 ⟨fields, collected, rfl⟩

theorem cutClause_none_iff {Part : Type} {phrase : Phrase}
    {read : List Char → Except Rejection Part} {text rest : List Char} :
    cutClause phrase read text = .ok (rest, none) ↔
      find? [⟨(), phrase⟩] text = none ∧ rest = text := by
  rw [cutClause, ← findPhrase?_eq_none_iff]
  cases findPhrase? phrase text with
  | none => simp [eq_comm]
  | some cut => simp [map_eq_ok_iff]

theorem cutClause_some_iff {Part : Type} {phrase : Phrase}
    {read : List Char → Except Rejection Part} {text rest : List Char} {part : Part} :
    cutClause phrase read text = .ok (rest, some part) ↔
      ∃ cut, find? [⟨(), phrase⟩] text = some ((), cut) ∧ read cut.after = .ok part ∧
        rest = trimEnd cut.before := by
  simp only [cutClause, ← findPhrase?_eq_some_iff]
  cases findPhrase? phrase text with
  | none => simp
  | some cut =>
    simp only [map_eq_ok_iff]
    constructor
    · intro held
      obtain ⟨other, here, same⟩ := held
      cases same
      exact ⟨cut, rfl, here, rfl⟩
    · intro held
      obtain ⟨_, same, here, rfl⟩ := held
      cases same
      exact ⟨part, here, rfl⟩

theorem readFieldsAndTable_eq_ok_iff {text : List Char} {found : List String × String} :
    readFieldsAndTable text = .ok found ↔ fieldsAndTable? text = some found := by
  rw [readFieldsAndTable]
  cases fieldsAndTable? text <;> simp

theorem Selection.ofText_none_iff {text : List Char} {fields : List String} {table : String} :
    Selection.ofText text = .ok ⟨fields, table, none⟩ ↔
      find? joinKeywords text = none ∧ fieldsAndTable? (trim text) = some (fields, table) := by
  rw [Selection.ofText]
  cases find? joinKeywords text with
  | none =>
    simp only [bind_eq_ok_iff, readFieldsAndTable_eq_ok_iff, true_and]
    constructor
    · intro held
      obtain ⟨found, here, same⟩ := held
      cases same
      exact here
    · intro here
      exact ⟨_, here, rfl⟩
  | some found =>
    simp only [bind_eq_ok_iff, reduceCtorEq, false_and, iff_false]
    intro held
    obtain ⟨join, -, other, -, same⟩ := held
    cases same

theorem Selection.ofText_some_iff {text : List Char} {fields : List String} {table : String}
    {join : Join} :
    Selection.ofText text = .ok ⟨fields, table, some join⟩ ↔
      ∃ cut, find? joinKeywords text = some (join.kind, cut) ∧
        readJoin join.kind cut.after = .ok join ∧
        fieldsAndTable? (trim cut.before) = some (fields, table) := by
  rw [Selection.ofText]
  cases find? joinKeywords text with
  | none =>
    simp only [bind_eq_ok_iff, reduceCtorEq, false_and, exists_false, iff_false]
    intro held
    obtain ⟨found, -, same⟩ := held
    cases same
  | some found =>
    obtain ⟨kind, cut⟩ := found
    simp only [bind_eq_ok_iff, readFieldsAndTable_eq_ok_iff]
    constructor
    · intro held
      obtain ⟨other, read, pair, here, same⟩ := held
      cases same
      obtain ⟨-, -, -, rfl, -⟩ := readJoin_eq_ok_iff.1 read
      exact ⟨cut, rfl, read, here⟩
    · intro held
      obtain ⟨_, same, read, here⟩ := held
      cases same
      exact ⟨join, read, _, here, rfl⟩

end Query

namespace Request

def filterConditions : Option (List Char) → Except Rejection (List Condition)
  | some text => readConditions text
  | none => .ok []

theorem ofChars_eq_ok_iff {query : List Char} {request : Request} :
    ofChars query = .ok request ↔
      ∃ grouped filtered selection filter,
        cutClause ["ORDER", "BY"] readOrderBy (trim query) = .ok (grouped, request.orderBy) ∧
        cutClause ["GROUP", "BY"] readGroupBy grouped = .ok (filtered, request.groupBy) ∧
        cutClause ["WHERE"] readFilter filtered = .ok (selection, filter) ∧
        filterConditions filter = .ok request.conditions ∧
        Selection.ofText selection = .ok ⟨request.fields, request.table, request.join⟩ ∧
        checkJoin request.join = .ok () ∧
        hasUngroupedAggregate query request.groupBy = request.ungroupedAggregate := by
  have clausewise : ofChars query = (do
      let clauses ← Clauses.ofQuery query
      let selection ← Selection.ofText clauses.selection
      checkJoin selection.join
      let conditions ← filterConditions clauses.filter
      return ⟨selection.fields, selection.table, conditions, selection.join, clauses.groupBy,
        clauses.orderBy, hasUngroupedAggregate query clauses.groupBy⟩) := by
    unfold ofChars
    congr 1
    funext clauses
    cases clauses.filter <;> rfl
  simp only [clausewise, Clauses.ofQuery, bind_eq_ok_iff]
  constructor
  · intro held
    -- The clauses come off one after another, and the selection is what is left.
    obtain ⟨clauses, ⟨⟨grouped, keys⟩, first, ⟨filtered, names⟩, second, ⟨selection, filter⟩, third,
      same⟩, parts, read, checked, join, conditions, collected, result⟩ := held
    cases same
    cases result
    exact ⟨grouped, filtered, selection, filter, first, second, third, collected, read, join, rfl⟩
  · intro held
    obtain ⟨grouped, filtered, selection, filter, first, second, third, collected, read, join,
      flag⟩ := held
    refine ⟨_, ⟨_, first, _, second, _, third, rfl⟩, _, read, (), join, _, collected, ?_⟩
    rw [flag]
    rfl

end Request

end TableQuery
