import TableQuery.Proofs.Query.Conditions
import TableQuery.Proofs.Query.Selections

/-! When a request is read back from its canonical text. -/

set_option autoImplicit false

namespace TableQuery

open Query Text

-- A clause behind a trimmed text ends in the trimmed list of its parts.
theorem trimmed_with_clause {front list : List Char} (first : Trimmed front ∧ front ≠ [])
    (last : Trimmed list ∧ list ≠ []) (written : List Char) :
    Trimmed (front ++ ' ' :: (written ++ ' ' :: list)) ∧
      front ++ ' ' :: (written ++ ' ' :: list) ≠ [] := by
  have whole := trimmed_between first.1 last.1 first.2 last.2 (' ' :: (written ++ [' ']))
  constructor
  · simpa only [List.append_assoc, List.cons_append, List.nil_append] using whole
  · exact List.append_ne_nil_of_left_ne_nil first.2 _

theorem listed_ne_nil {names : List String} (nonempty : names ≠ [])
    (entry : ∀ name ∈ names, IsEntry name) : listed names ≠ [] := by
  intro empty
  have read := readGroupBy_listed nonempty entry
  rw [empty] at read
  cases read

theorem trimmed_conjunction {conditions : List Condition} (nonempty : conditions ≠ [])
    (wellFormed : ∀ condition ∈ conditions, condition.WellFormed) :
    Trimmed (conjunction conditions) ∧ conjunction conditions ≠ [] := by
  constructor
  · apply trimmed_intercalate
    · intro text member
      obtain ⟨condition, inside, rfl⟩ := List.mem_map.1 member
      exact (Condition.trimmed_chars (wellFormed condition inside).field).1
    · intro text member
      obtain ⟨condition, inside, rfl⟩ := List.mem_map.1 member
      exact (Condition.trimmed_chars (wellFormed condition inside).field).2
  · obtain ⟨condition, more, rfl⟩ := List.exists_cons_of_ne_nil nonempty
    have full := (Condition.trimmed_chars (wellFormed condition (by simp)).field).2
    cases more with
    | nil => simpa [conjunction] using full
    | cons next more =>
      rw [conjunction_cons]
      exact List.append_ne_nil_of_left_ne_nil full _

def keyList (keys : List OrderKey) : List Char :=
  [',', ' '].intercalate (keys.map OrderKey.chars)

theorem trimmed_keyList {keys : List OrderKey} (nonempty : keys ≠ [])
    (fields : ∀ key ∈ keys, IsOrderField key.field) :
    Trimmed (keyList keys) ∧ keyList keys ≠ [] := by
  constructor
  · apply trimmed_intercalate
    · intro text member
      obtain ⟨key, inside, rfl⟩ := List.mem_map.1 member
      exact (fields key inside).trimmed_chars
    · intro text member
      obtain ⟨key, inside, rfl⟩ := List.mem_map.1 member
      simp [OrderKey.chars]
  · intro empty
    have read := readOrderBy_intercalate nonempty fields
    rw [keyList] at empty
    rw [empty] at read
    cases read

theorem weight_conjunction (conditions : List Condition) :
    weight particles (conjunction conditions) =
      (conditions.map (conditionWeight particles)).sum := by
  induction conditions with
  | nil => rfl
  | cons condition more ih =>
    cases more with
    | nil => simp [conjunction, weight_chars]
    | cons next more =>
      have light : weight particles "AND".toList = 0 := rfl
      rw [conjunction_cons, weight_append, weight_space, weight_append, weight_space, ih, light,
        weight_chars, Nat.zero_add]
      rfl

namespace Request

theorem whereChars_of_ne_nil {conditions : List Condition} (nonempty : conditions ≠ []) :
    whereChars conditions = ' ' :: ("WHERE".toList ++ ' ' :: conjunction conditions) := by
  have shape : ∀ list : List Char,
      " WHERE ".toList ++ list = ' ' :: ("WHERE".toList ++ ' ' :: list) := fun _ => rfl
  rw [whereChars, if_neg (by simpa using nonempty)]
  exact shape _

theorem groupByChars_none : groupByChars none = [] := rfl

theorem orderByChars_none : orderByChars none = [] := rfl

theorem groupByChars_some (names : List String) :
    groupByChars (some names) = ' ' :: ("GROUP".toList ++ " BY".toList ++ ' ' :: listed names) := by
  have shape : ∀ list : List Char,
      " GROUP BY ".toList ++ list = ' ' :: ("GROUP".toList ++ " BY".toList ++ ' ' :: list) :=
    fun _ => rfl
  exact shape _

theorem orderByChars_some (keys : List OrderKey) :
    orderByChars (some keys) = ' ' :: ("ORDER".toList ++ " BY".toList ++ ' ' :: keyList keys) := by
  have shape : ∀ list : List Char,
      " ORDER BY ".toList ++ list = ' ' :: ("ORDER".toList ++ " BY".toList ++ ' ' :: list) :=
    fun _ => rfl
  exact shape _

variable {request : Request}

theorem trimmed_selectionChars (wellFormed : request.WellFormed) :
    Trimmed request.selectionChars ∧ request.selectionChars ≠ [] := by
  have head := trimmed_headChars wellFormed.table
  rw [selectionChars]
  cases joined : request.join with
  | none => simpa using head
  | some join =>
    rw [Option.map_some, Option.getD_some, Join.chars_eq]
    exact trimmed_with_clause head (Join.trimmed_bodyChars (wellFormed.join join joined)) _

theorem trimmed_filteredChars (wellFormed : request.WellFormed) :
    Trimmed request.filteredChars ∧ request.filteredChars ≠ [] := by
  have front := trimmed_selectionChars wellFormed
  rw [filteredChars]
  by_cases nonempty : request.conditions = []
  · simpa [nonempty, whereChars] using front
  · rw [whereChars_of_ne_nil nonempty]
    exact trimmed_with_clause front (trimmed_conjunction nonempty wellFormed.conditions) _

theorem trimmed_groupedChars (wellFormed : request.WellFormed) :
    Trimmed request.groupedChars ∧ request.groupedChars ≠ [] := by
  have front := trimmed_filteredChars wellFormed
  rw [groupedChars]
  cases grouped : request.groupBy with
  | none => rwa [groupByChars_none, List.append_nil]
  | some names =>
    obtain ⟨nonempty, entry⟩ := wellFormed.groupBy names grouped
    rw [groupByChars_some]
    exact trimmed_with_clause front ⟨trimmed_listed entry, listed_ne_nil nonempty entry⟩ _

theorem trimmed_chars (wellFormed : request.WellFormed) : Trimmed request.chars := by
  have front := trimmed_groupedChars wellFormed
  rw [chars_eq]
  cases ordered : request.orderBy with
  | none =>
    rw [orderByChars_none, List.append_nil]
    exact front.1
  | some keys =>
    obtain ⟨nonempty, fields⟩ := wellFormed.orderBy keys ordered
    rw [orderByChars_some]
    exact (trimmed_with_clause front (trimmed_keyList nonempty fields) _).1

theorem cutOrderBy_iff (wellFormed : request.WellFormed) {rest : List Char} :
    cutClause ["ORDER", "BY"] readOrderBy request.chars = .ok (rest, request.orderBy) ↔
      Leads [⟨(), ["ORDER", "BY"]⟩] request.groupedChars request.orderBy.isSome ∧
        rest = request.groupedChars := by
  rw [chars_eq]
  cases ordered : request.orderBy with
  | none =>
    rw [orderByChars_none, List.append_nil, cutClause_none_iff, Option.isSome_none, leads_false_iff]
  | some keys =>
    obtain ⟨nonempty, fields⟩ := wellFormed.orderBy keys ordered
    have read := readOrderBy_intercalate nonempty fields
    have level : ∀ text, readOrderBy text = .ok keys →
        weight particles text = weight particles (' ' :: keyList keys) := by
      intro text readable
      rw [weight_of_readOrderBy readable, ← weight_of_readOrderBy read, keyList]
    rw [orderByChars_some]
    exact cutClause_heading_iff_of_read (heading_by (by simp) _) (heavy_by "ORDER")
      (trimmed_groupedChars wellFormed).1 read level

theorem cutGroupBy_iff (wellFormed : request.WellFormed) {rest : List Char} :
    cutClause ["GROUP", "BY"] readGroupBy request.groupedChars = .ok (rest, request.groupBy) ↔
      Leads [⟨(), ["GROUP", "BY"]⟩] request.filteredChars request.groupBy.isSome ∧
        rest = request.filteredChars := by
  rw [groupedChars]
  cases grouped : request.groupBy with
  | none =>
    rw [groupByChars_none, List.append_nil, cutClause_none_iff, Option.isSome_none, leads_false_iff]
  | some names =>
    obtain ⟨nonempty, entry⟩ := wellFormed.groupBy names grouped
    have read := readGroupBy_listed nonempty entry
    have level : ∀ text, readGroupBy text = .ok names →
        weight particles text = weight particles (' ' :: listed names) := by
      intro text readable
      rw [weight_of_readGroupBy readable, ← weight_of_readGroupBy read]
    rw [groupByChars_some]
    exact cutClause_heading_iff_of_read (heading_by (by simp) _) (heavy_by "GROUP")
      (trimmed_filteredChars wellFormed).1 read level

theorem filterConditions_nil_iff {filter : Option (List Char)} :
    filterConditions filter = .ok [] ↔ filter = none := by
  cases filter with
  | none => simp [filterConditions]
  | some text =>
    simp only [filterConditions, reduceCtorEq, iff_false]
    intro read
    have pieces := (readConditions_eq_ok_iff.1 read).length_eq
    exact separate_ne_nil text (List.eq_nil_of_length_eq_zero pieces)

theorem exists_filter_iff {accepted : Option (List Char) → Prop} {conditions : List Condition}
    (nonempty : conditions ≠ []) :
    (∃ filter, accepted filter ∧ filterConditions filter = .ok conditions) ↔
      ∃ text, accepted (some text) ∧ readConditions text = .ok conditions := by
  constructor
  · intro held
    obtain ⟨filter, good, read⟩ := held
    cases filter with
    | none =>
      cases read
      exact absurd rfl nonempty
    | some text => exact ⟨text, good, read⟩
  · intro held
    obtain ⟨text, good, read⟩ := held
    exact ⟨some text, good, read⟩

theorem cutFilter_iff (wellFormed : request.WellFormed) {rest : List Char} :
    (∃ filter, cutClause ["WHERE"] readFilter request.filteredChars = .ok (rest, filter) ∧
        filterConditions filter = .ok request.conditions) ↔
      Leads [⟨(), ["WHERE"]⟩] request.selectionChars (!request.conditions.isEmpty) ∧
        rest = request.selectionChars ∧ Separated [] request.conditions ∧
        ∀ condition ∈ request.conditions,
          findPhrase? ["LIKE"] condition.charsBeforeLike = none := by
  -- Without conditions there is no clause, and with them a clause is cut off and then read.
  have formed := wellFormed.conditions
  rw [filteredChars]
  by_cases nonempty : request.conditions = []
  · have plain : whereChars [] = [] := rfl
    simp only [nonempty, plain, List.append_nil, filterConditions_nil_iff, exists_eq_right,
      cutClause_none_iff, List.isEmpty_nil, Bool.not_true, leads_false_iff, Separated]
    simp
  · have sound := trimmed_conjunction nonempty formed
    have heading := heading_word (by decide : Phrase.Lettered ["WHERE"])
      (conjunction request.conditions)
    have heavy : Heavy particles [⟨(), ["WHERE"]⟩] := heavy_word (by decide)
    have own : ∀ part, readFilter (' ' :: conjunction request.conditions) = .ok part ↔
        conjunction request.conditions = part := by
      intro part
      simp only [readFilter, sound.1.trim_after_space]
      rw [if_neg (by simpa using sound.2), Except.ok.injEq]
    have level : ∀ text part, readFilter text = .ok part →
        readConditions part = .ok request.conditions →
        weight particles text = weight particles (' ' :: conjunction request.conditions) := by
      intro text part readable read
      have fragment : trim text = part := by
        simp only [readFilter] at readable
        split at readable
        · cases readable
        · cases readable
          rfl
      rw [weight_space, weight_conjunction, ← weight_of_readConditions read, ← fragment, weight_trim]
    have shown := readConditions_conjunction_iff nonempty formed (by simp : ∀ c ∈ [], isBlank c = true)
    rw [List.nil_append] at shown
    rw [whereChars_of_ne_nil nonempty, exists_filter_iff nonempty,
      cutClause_heading_iff heading heavy (trimmed_selectionChars wellFormed).1 level]
    simp only [own, exists_eq_left', shown]
    rw [← List.isEmpty_iff, Bool.not_eq_true] at nonempty
    rw [nonempty]
    rfl

/-- Every clause is read back from the canonical text when the text shows the request. -/
theorem ofChars_chars_iff (wellFormed : request.WellFormed) :
    ofChars request.chars = .ok request ↔ request.Legible := by
  have checked : checkJoin request.join = .ok () := by
    cases joined : request.join with
    | none => rfl
    | some join => exact if_pos (wellFormed.join join joined).qualified
  have selection := Selection.ofText_selectionChars_iff wellFormed
  rw [ofChars_eq_ok_iff, (trimmed_chars wellFormed).trim_eq]
  constructor
  · intro held
    obtain ⟨grouped, filtered, _, filter, ordering, grouping, filtering, conditions, read, -,
      flag⟩ := held
    -- Each cut leaves the text in which the next clause is looked for.
    obtain ⟨orderBy, rfl⟩ := (cutOrderBy_iff wellFormed).1 ordering
    obtain ⟨groupBy, rfl⟩ := (cutGroupBy_iff wellFormed).1 grouping
    obtain ⟨where', rfl, connectives, like⟩ :=
      (cutFilter_iff wellFormed).1 ⟨filter, filtering, conditions⟩
    obtain ⟨join, fields, table⟩ := selection.1 read
    exact ⟨orderBy, groupBy, where', join, fields, table, connectives, like, flag⟩
  · intro legible
    obtain ⟨filter, filtering, conditions⟩ :=
      (cutFilter_iff wellFormed).2 ⟨legible.filter, rfl, legible.connectives, legible.like⟩
    have ordering := (cutOrderBy_iff wellFormed).2 ⟨legible.orderBy, rfl⟩
    have grouping := (cutGroupBy_iff wellFormed).2 ⟨legible.groupBy, rfl⟩
    have read := selection.2 ⟨legible.join, legible.fields, legible.table⟩
    exact ⟨_, _, _, filter, ordering, grouping, filtering, conditions, read, checked,
      legible.aggregate⟩

theorem ofText_text (request : Request) : ofText request.text = ofChars request.chars := by
  rw [ofText, text, String.toList_ofList]

/-- A request that was read from some text is read again from its canonical text exactly when that
text shows it. -/
theorem ofText_text_iff {query : String} (read : ofText query = .ok request) :
    ofText request.text = .ok request ↔ request.Legible := by
  rw [ofText_text]
  exact ofChars_chars_iff (wellFormed_of_ofChars read)

theorem ofText_text_iff_of_two_fields :
    ofText "select a ,b from t order by b" =
        .ok ⟨["a", "b"], "t", [], none, none, some [⟨"b", .ascending⟩], false⟩ ∧
      (ofText (text ⟨["a", "b"], "t", [], none, none, some [⟨"b", .ascending⟩], false⟩) =
          .ok ⟨["a", "b"], "t", [], none, none, some [⟨"b", .ascending⟩], false⟩ ↔
        Legible ⟨["a", "b"], "t", [], none, none, some [⟨"b", .ascending⟩], false⟩) :=
  have read : ofText "select a ,b from t order by b" = _ := rfl
  ⟨read, ofText_text_iff read⟩

/-- A field that stands right behind a comma becomes a keyword in canonical text. -/
theorem ofText_text_of_glued_from :
    ofText "SELECT a,from FROM t" = .ok ⟨["a", "from"], "t", [], none, none, none, false⟩ ∧
      ofText (text ⟨["a", "from"], "t", [], none, none, none, false⟩) =
        .error (.notSelection "SELECT a, from FROM t") :=
  ⟨rfl, rfl⟩

end Request

end TableQuery
