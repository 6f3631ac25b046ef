import TableQuery.Proofs.Request.Stages

/-! What every request has that was read from query text. -/

set_option autoImplicit false

namespace TableQuery

open Query Text

/-- A name is not empty, and trimming leaves it as it is. -/
structure IsName (name : String) : Prop where
  nonempty : name.toList ≠ []
  trimmed : Trimmed name.toList

structure IsEntry (name : String) : Prop extends IsName name where
  free : ',' ∉ name.toList

structure IsOrderField (name : String) : Prop where
  nonempty : name.toList ≠ []
  solid : ∀ c ∈ name.toList, isBlank c = false
  free : ',' ∉ name.toList

structure Join.WellFormed (join : Join) : Prop where
  table : IsName join.table
  left : isOperand join.keys.left.toList = true
  right : isOperand join.keys.right.toList = true
  qualified : join.keys.isQualified = true

/-- The field closes its literals, and no comparison stands in the field of a comparison. -/
structure Condition.WellFormed (condition : Condition) : Prop where
  field : IsName condition.field
  closed : (Place.start.after condition.field.toList).inside = false
  plain : condition.operator ≠ .like → cutAtComparison? .start condition.field.toList = none

structure Request.WellFormed (request : Request) : Prop where
  fields_ne : request.fields ≠ []
  fields : ∀ name ∈ request.fields, IsEntry name
  table : IsName request.table
  join : ∀ join ∈ request.join, join.WellFormed
  conditions : ∀ condition ∈ request.conditions, condition.WellFormed
  groupBy : ∀ names ∈ request.groupBy, names ≠ [] ∧ ∀ name ∈ names, IsEntry name
  orderBy : ∀ keys ∈ request.orderBy, keys ≠ [] ∧ ∀ key ∈ keys, IsOrderField key.field

theorem isName_trim {text : List Char} (nonempty : (trim text).isEmpty = false) :
    IsName (String.ofList (trim text)) where
  nonempty := by simpa using nonempty
  trimmed := by simpa using trimmed_trim text

theorem isEntry_trim {list text : List Char} (member : text ∈ entries list)
    (nonempty : (trim text).isEmpty = false) : IsEntry (String.ofList (trim text)) where
  toIsName := isName_trim nonempty
  free := by
    rw [String.toList_ofList]
    intro comma
    obtain ⟨lead, trail, -, -, same⟩ := exists_trim text
    have inside : ',' ∈ text := by
      rw [same]
      simp [comma]
    have unmarked := not_mark_of_mem_pieces member ',' inside
    cases unmarked

namespace Query

theorem ne_nil_of_mapM_entries {Part : Type} {list : List Char}
    {read : List Char → Except Rejection Part} {parts : List Part}
    (collected : (entries list).mapM read = .ok parts) : parts ≠ [] := by
  have size := (mapM_ok_iff.1 collected).length_eq
  rintro rfl
  exact pieces_ne_nil _ list (List.eq_nil_of_length_eq_zero size)

theorem isEntry_of_readGroupBy {list : List Char} {names : List String}
    (read : readGroupBy list = .ok names) : names ≠ [] ∧ ∀ name ∈ names, IsEntry name := by
  refine ⟨ne_nil_of_mapM_entries read, fun name member => ?_⟩
  obtain ⟨entry, inside, here⟩ := exists_of_mem_results (mapM_ok_iff.1 read) member
  simp only [groupEntry] at here
  split at here
  · cases here
  · rename_i nonempty
    cases here
    exact isEntry_trim inside (Bool.eq_false_iff.2 nonempty)

theorem orderEntry_ok {list entry : List Char} {key : OrderKey}
    (read : orderEntry list entry = .ok key) : key.field.toList ∈ words entry := by
  simp only [orderEntry] at read
  split at read
  · cases read
  · rename_i same
    cases read
    simp [same]
  · rename_i same
    split at read
    · cases read
    · split at read
      · cases read
        simp [same]
      · cases read

theorem isOrderField_of_readOrderBy {list : List Char} {keys : List OrderKey}
    (read : readOrderBy list = .ok keys) : keys ≠ [] ∧ ∀ key ∈ keys, IsOrderField key.field := by
  refine ⟨ne_nil_of_mapM_entries read, fun key member => ?_⟩
  obtain ⟨entry, inside, here⟩ := exists_of_mem_results (mapM_ok_iff.1 read) member
  obtain ⟨nonempty, solid⟩ := not_blank_of_mem_words (orderEntry_ok here)
  refine ⟨nonempty, fun c held => (solid c held).1, fun comma => ?_⟩
  have unmarked := not_mark_of_mem_pieces inside ',' (solid ',' comma).2
  cases unmarked

theorem inside_after_blanks {blanks : List Char} (blank : ∀ c ∈ blanks, isBlank c = true)
    (place : Place) : (place.after blanks).inside = place.inside := by
  refine Place.after_inside (fun quote => ?_) place
  have absurd := blank _ quote
  revert absurd
  decide

-- The field of a condition stands in front of its operator.
theorem closed_of_front {text front rest : List Char} (trimmed : Trimmed text)
    (whole : text = front ++ rest) (outside : (Place.start.after front).inside = false) :
    (Place.start.after (trim front)).inside = false := by
  rw [whole] at trimmed
  obtain ⟨trail, blank, same⟩ := trimmed.exists_trail
  rwa [same, Place.after_append, inside_after_blanks blank] at outside

theorem wellFormed_of_condition? {text : List Char} {condition : Condition}
    (trimmed : Trimmed text) (read : condition? text = some condition) :
    condition.WellFormed := by
  obtain ⟨before, after, cut, filled, -, field, -⟩ := condition?_eq_some_iff.1 read
  obtain ⟨name, operator, value⟩ := condition
  dsimp only at field cut
  subst field
  -- A comparison is looked for only where no LIKE was found.
  by_cases like : operator = .like
  · cases like
    obtain ⟨cut, found, -, rfl, rfl⟩ := cutAtLike?_eq_some_iff.1 (cutAtOperator?_like_iff.1 cut)
    rw [findPhrase?_eq_some_iff] at found
    have whole := (find?_whole found).symm
    rw [Cut.whole, List.append_assoc] at whole
    refine ⟨isName_trim filled, ?_, fun other => absurd rfl other⟩
    simpa using closed_of_front trimmed whole (find?_outside found)
  · obtain ⟨-, cut⟩ := (cutAtOperator?_comparison_iff like).1 cut
    obtain ⟨whole, -, absent, outside⟩ := cutAtComparison?_eq_some cut
    rw [List.append_assoc] at whole
    refine ⟨isName_trim filled, ?_, fun _ => ?_⟩
    · simpa using closed_of_front trimmed whole outside
    · rw [whole] at trimmed
      obtain ⟨trail, -, same⟩ := trimmed.exists_trail
      rw [same] at absent
      simpa using cutAtComparison?_of_append absent

theorem wellFormed_of_readConditions {text : List Char} {conditions : List Condition}
    (read : readConditions text = .ok conditions) :
    ∀ condition ∈ conditions, condition.WellFormed := by
  intro condition member
  obtain ⟨piece, -, here⟩ := exists_of_mem_results (readConditions_eq_ok_iff.1 read) member
  exact wellFormed_of_condition? (trimmed_trim piece) here

theorem isEntry_of_fieldNames? {list : List Char} {names : List String}
    (read : fieldNames? list = some names) : names ≠ [] ∧ ∀ name ∈ names, IsEntry name := by
  have collected := mapM_some_iff.1 read
  constructor
  · rintro rfl
    exact pieces_ne_nil _ list (List.eq_nil_of_length_eq_zero collected.length_eq)
  · intro name member
    obtain ⟨entry, inside, here⟩ := exists_of_mem_results collected member
    dsimp only at here
    split at here
    · cases here
    · rename_i nonempty
      cases here
      exact isEntry_trim inside (Bool.eq_false_iff.2 nonempty)

theorem wellFormed_of_readJoin {kind : JoinKind} {text : List Char} {join : Join}
    (read : readJoin kind text = .ok join) (checked : Request.checkJoin (some join) = .ok ()) :
    join.WellFormed := by
  obtain ⟨cut, -, keys, -, nonempty, table⟩ := readJoin_eq_ok_iff.1 read
  obtain ⟨left, right, -, first, second, same⟩ := joinKeys?_eq_some keys
  have qualified : join.keys.isQualified = true := by
    rw [Request.checkJoin] at checked
    split at checked
    · assumption
    · cases checked
  constructor
  · exact table ▸ isName_trim nonempty
  · simpa [same] using first
  · simpa [same] using second
  · exact qualified

end Query

theorem Request.wellFormed_of_ofChars {query : List Char} {request : Request}
    (read : ofChars query = .ok request) : request.WellFormed := by
  obtain ⟨grouped, filtered, selection, filter, orderBy, groupBy, -, conditions, parts, checked, -⟩ :=
    ofChars_eq_ok_iff.1 read
  obtain ⟨fields, table, kept, join, names, keys, flag⟩ := request
  -- With a join or without, the fields and the table are read from some front of the selection.
  obtain ⟨front, head⟩ : ∃ front, fieldsAndTable? front = some (fields, table) := by
    cases join with
    | none => exact ⟨_, (Selection.ofText_none_iff.1 parts).2⟩
    | some join =>
      obtain ⟨cut, -, -, head⟩ := Selection.ofText_some_iff.1 parts
      exact ⟨_, head⟩
  obtain ⟨body, cut, -, -, -, nonempty, listed, rfl⟩ := fieldsAndTable?_eq_some_iff.1 head
  obtain ⟨fields_ne, entries⟩ := isEntry_of_fieldNames? listed
  constructor
  · exact fields_ne
  · exact entries
  · exact isName_trim nonempty
  · rintro join ⟨⟩
    obtain ⟨cut, -, read, -⟩ := Selection.ofText_some_iff.1 parts
    exact wellFormed_of_readJoin read checked
  · cases filter with
    | none =>
      cases conditions
      simp
    | some text => exact wellFormed_of_readConditions conditions
  · rintro names ⟨⟩
    obtain ⟨cut, -, read, -⟩ := cutClause_some_iff.1 groupBy
    exact isEntry_of_readGroupBy read
  · rintro keys ⟨⟩
    obtain ⟨cut, -, read, -⟩ := cutClause_some_iff.1 orderBy
    exact isOrderField_of_readOrderBy read

end TableQuery
