import TableQuery.Proofs.Query.Heading

/-! The parts of a query weigh as much as the text that they are read from. -/

set_option autoImplicit false

namespace TableQuery.Query

open Text

variable {letters : List Char}

/-- The letters of AND, OR, ON, ASC and DESC. -/
def particles : List Char :=
  "andorsce".toList

def nameWeight (letters : List Char) (name : String) : Nat :=
  weight letters name.toList

def keysWeight (letters : List Char) (keys : JoinKeys) : Nat :=
  nameWeight letters keys.left + weight letters ['='] + nameWeight letters keys.right

def conditionWeight (letters : List Char) (condition : Condition) : Nat :=
  nameWeight letters condition.field + nameWeight letters condition.operator.token +
    nameWeight letters condition.value

theorem nameWeight_trim (text : List Char) :
    nameWeight letters (String.ofList (trim text)) = weight letters text := by
  rw [nameWeight, String.toList_ofList, weight_trim]

theorem sum_map_eq_of_forall₂ {α β : Type} {relation : α → β → Prop} {items : List α}
    {results : List β} {first : α → Nat} {second : β → Nat}
    (related : List.Forall₂ relation items results)
    (same : ∀ item result, relation item result → first item = second result) :
    (items.map first).sum = (results.map second).sum := by
  induction related with
  | nil => rfl
  | cons here _ ih => rw [List.map_cons, List.map_cons, List.sum_cons, List.sum_cons, ih, same _ _ here]

theorem weight_of_readGroupBy {list : List Char} {names : List String}
    (read : readGroupBy list = .ok names) :
    weight letters list = (names.map (nameWeight letters)).sum := by
  rw [← weight_entries]
  apply sum_map_eq_of_forall₂ (mapM_ok_iff.1 read)
  intro entry name here
  simp only [groupEntry] at here
  split at here
  · cases here
  · cases here
    exact (nameWeight_trim entry).symm

theorem direction?_weight {word : List Char} {direction : Direction}
    (found : direction? word = some direction) : weight particles word = 0 := by
  rw [direction?] at found
  have same := List.find?_some found
  rw [sameLetters, beq_iff_eq] at same
  rw [← weight_of_sameLetters same]
  cases direction <;> rfl

theorem weight_of_orderEntry {list entry : List Char} {key : OrderKey}
    (read : orderEntry list entry = .ok key) :
    weight particles entry = nameWeight particles key.field := by
  rw [← weight_words]
  simp only [orderEntry] at read
  split at read
  · cases read
  · rename_i same
    cases read
    simp [same, nameWeight]
  · rename_i same
    split at read
    · cases read
    · rename_i named
      split at read
      · cases read
        simp [same, nameWeight, direction?_weight named]
      · cases read

theorem weight_of_readOrderBy {list : List Char} {keys : List OrderKey}
    (read : readOrderBy list = .ok keys) :
    weight particles list = (keys.map fun key => nameWeight particles key.field).sum := by
  rw [← weight_entries]
  exact sum_map_eq_of_forall₂ (mapM_ok_iff.1 read) fun _ _ => weight_of_orderEntry

theorem weight_quote : weight letters ['\''] = 0 :=
  weight_eq_zero_iff.2 (by simp [isIncidental])

theorem weight_stripQuotes (literal : List Char) :
    weight letters (stripQuotes literal) = weight letters literal := by
  unfold stripQuotes
  split
  · rename_i rest
    split
    · rename_i last
      obtain ⟨front, rfl⟩ := List.getLast?_eq_some_iff.1 last
      rw [List.dropLast_concat, weight_cons '\'', weight_append, weight_quote]
      omega
    · rfl
  · rfl

theorem weight_of_findPhrase? {word : String} {text : List Char} {cut : Cut}
    (found : findPhrase? [word] text = some cut) :
    weight letters text = weight letters cut.before + nameWeight letters word +
      weight letters cut.after := by
  rw [findPhrase?_eq_some_iff] at found
  obtain ⟨keyword, member, -, matched⟩ := exists_of_matchAny? (findFrom?_found found).1
  obtain rfl := List.mem_singleton.1 member
  have same := matchWord?_sameLetters (matchPhrase?_singleton_iff.1 matched).1
  rw [nameWeight, ← weight_of_sameLetters same, ← weight_append, ← weight_append]
  exact congrArg _ (find?_whole found).symm

theorem weight_of_cutAtOperator? {text before after : List Char} {operator : Operator}
    (found : cutAtOperator? text = some (before, operator, after)) :
    weight letters text =
      weight letters before + nameWeight letters operator.token + weight letters after := by
  by_cases like : operator = .like
  · cases like
    obtain ⟨cut, here, -, rfl, rfl⟩ := cutAtLike?_eq_some_iff.1 (cutAtOperator?_like_iff.1 found)
    exact weight_of_findPhrase? here
  · obtain ⟨-, here⟩ := (cutAtOperator?_comparison_iff like).1 found
    rw [(cutAtComparison?_eq_some here).1, weight_append, weight_append, nameWeight]

theorem weight_of_condition? {text : List Char} {condition : Condition}
    (read : condition? text = some condition) :
    weight letters text = conditionWeight letters condition := by
  obtain ⟨before, after, found, -, -, field, value⟩ := condition?_eq_some_iff.1 read
  rw [weight_of_cutAtOperator? found, conditionWeight, field, value, nameWeight_trim, nameWeight,
    nameWeight, String.toList_ofList, weight_stripQuotes, weight_trim]

theorem weight_of_connective {text : List Char} {cut : Cut}
    (found : find? connectives text = some ((), cut)) :
    weight particles text = weight particles cut.before + weight particles cut.after := by
  obtain ⟨keyword, member, -, matched⟩ := exists_of_matchAny? (findFrom?_found found).1
  -- Both connectives are spelled with letters that have no weight.
  have light : weight particles cut.keyword = 0 := by
    simp only [connectives, List.mem_cons, List.not_mem_nil, or_false] at member
    rcases member with rfl | rfl <;>
    · have same := matchWord?_sameLetters (matchPhrase?_singleton_iff.1 matched).1
      rw [weight_of_sameLetters same]
      rfl
  rw [← find?_whole found, Cut.whole, weight_append, weight_append, light, Nat.add_zero]

theorem weight_separate (text : List Char) :
    ((separate connectives text).map (weight particles)).sum = weight particles text := by
  -- The text behind each cut is separated in its turn.
  induction text using separate.induct connectives with
  | case1 text absent =>
    rw [separate_of_none absent]
    simp [weight_trim]
  | case2 text _ cut found ih =>
    rw [separate_of_some found, List.map_cons, List.sum_cons, ih, weight_trim,
      weight_of_connective found]

theorem weight_of_readConditions {text : List Char} {conditions : List Condition}
    (read : readConditions text = .ok conditions) :
    weight particles text = (conditions.map (conditionWeight particles)).sum := by
  rw [← weight_separate]
  apply sum_map_eq_of_forall₂ (readConditions_eq_ok_iff.1 read)
  intro piece condition here
  rw [← weight_trim]
  exact weight_of_condition? here

theorem weight_of_joinKeys? {text : List Char} {keys : JoinKeys}
    (read : joinKeys? text = some keys) : weight letters text = keysWeight letters keys := by
  obtain ⟨left, right, cut, -, -, rfl⟩ := joinKeys?_eq_some read
  rw [keysWeight, nameWeight_trim, nameWeight_trim, (cutAt_eq_some cut).1, weight_append,
    weight_cons '=', Nat.add_assoc]

theorem weight_of_readJoin {kind : JoinKind} {text : List Char} {join : Join}
    (read : readJoin kind text = .ok join) :
    weight letters text = nameWeight letters join.table + nameWeight letters "ON" +
      keysWeight letters join.keys := by
  obtain ⟨cut, found, keys, -, -, table⟩ := readJoin_eq_ok_iff.1 read
  have whole : weight letters (' ' :: trim text) = _ := weight_of_findPhrase? found
  rw [weight_space, weight_trim] at whole
  rw [table, nameWeight_trim, ← weight_of_joinKeys? keys, weight_trim, whole]

end TableQuery.Query
