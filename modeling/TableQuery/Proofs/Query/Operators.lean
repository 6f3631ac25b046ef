import TableQuery.Proofs.Query.Conditions
import TableQuery.Proofs.Query.Occurrences

/-! The operator of a condition.

A text is cut at the first LIKE that more text follows. In a text without one it is cut at the
leftmost comparison outside literals, and of the comparisons that begin there at the longest. What
stands on the two sides, without white space, is the condition, and nothing is lost.
-/

set_option autoImplicit false

namespace TableQuery.Query

open Text

variable {text front token back : List Char} {operator : Operator} {place : Place}

structure ComparisonAt (text front : List Char) (operator : Operator) (back : List Char) :
    Prop where
  whole : text = front ++ operator.token.toList ++ back
  comparison : operator ≠ .like
  closed : Closed front

/-- LIKE stands behind `front`, in any letter case, outside literals and between white space, and
more text follows it. -/
structure LikeAt (text front token back : List Char) : Prop where
  whole : text = front ++ token ++ back
  closed : Closed front
  space : front.getLast?.any isSpace = true
  spelled : sameLetters "LIKE".toList token = true
  followed : back.head?.any isSpace = true

/-- The operator at which a text is cut, with what stands in front of it and behind it. -/
inductive CutAt (text : List Char) : Operator → List Char → List Char → List Char → Prop
  | like {front token back : List Char} (here : LikeAt text front token back)
      (first : ∀ other word rest, LikeAt text other word rest → front.length ≤ other.length) :
      CutAt text .like front token back
  | comparison {operator : Operator} {front back : List Char}
      (here : ComparisonAt text front operator back)
      (no_like : ∀ other word rest, ¬LikeAt text other word rest)
      (leftmost : ∀ other mark rest, ComparisonAt text other mark rest →
        front.length ≤ other.length)
      (longest : ∀ mark rest, ComparisonAt text front mark rest →
        mark.token.length ≤ operator.token.length) :
      CutAt text operator front operator.token.toList back

/-- A literal and its value: one pair of quotes around it does not belong to the value. -/
inductive Unquoted : List Char → List Char → Prop
  | quoted (value : List Char) : Unquoted ('\'' :: value ++ ['\'']) value
  | bare {literal : List Char} (plain : ∀ value, literal ≠ '\'' :: value ++ ['\'']) :
      Unquoted literal literal

theorem unquoted_iff {literal value : List Char} :
    Unquoted literal value ↔ stripQuotes literal = value := by
  constructor
  · intro unquoted
    cases unquoted with
    | quoted => exact stripQuotes_quoted value
    | bare plain =>
      unfold stripQuotes
      split
      · rename_i rest
        split
        · rename_i closes
          obtain ⟨inner, rfl⟩ := List.getLast?_eq_some_iff.1 closes
          exact absurd rfl (plain inner)
        · rfl
      · rfl
  · rintro rfl
    unfold stripQuotes
    split
    · rename_i rest
      split
      · rename_i closes
        obtain ⟨inner, rfl⟩ := List.getLast?_eq_some_iff.1 closes
        rw [List.dropLast_concat]
        exact .quoted inner
      · rename_i opens
        refine .bare fun value same => opens ?_
        cases same
        exact List.getLast?_concat
    · rename_i bare
      exact .bare fun value same => bare _ same

/-! Comparisons. -/

theorem exists_comparison? {mark : Operator} (comparison : mark ≠ .like)
    (starts : mark.token.toList <+: text) :
    ∃ operator, comparison? text = some operator ∧ mark.token.length ≤ operator.token.length := by
  have listed : mark ∈ Operator.comparisons := by
    cases mark <;> first
    | exact absurd rfl comparison
    | decide
  have descending : Operator.comparisons.Pairwise fun first second =>
      second.token.length ≤ first.token.length := by decide
  cases found : comparison? text with
  | none =>
    rw [comparison?, List.find?_eq_none] at found
    exact absurd (List.isPrefixOf_iff_prefix.2 starts) (found mark listed)
  | some operator =>
    refine ⟨operator, rfl, ?_⟩
    obtain ⟨-, before, after, split, silent⟩ := List.find?_eq_some_iff_append.1 found
    rw [split] at listed descending
    -- A comparison in front of the one that was found would have been found.
    rcases List.mem_append.1 listed with passed | listed
    · have absent := silent mark passed
      rw [List.isPrefixOf_iff_prefix.2 starts] at absent
      cases absent
    · rcases List.mem_cons.1 listed with rfl | later
      · exact Nat.le_refl _
      · exact (List.pairwise_cons.1 (List.pairwise_append.1 descending).2.1).1 mark later

theorem exists_cutAtComparison? {mark : Operator} (comparison : mark ≠ .like)
    (outside : (place.after front).inside = false) (back : List Char) :
    ∃ before operator after,
      cutAtComparison? place (front ++ mark.token.toList ++ back) = some (before, operator, after) ∧
        before.length ≤ front.length ∧
        (before.length = front.length → mark.token.length ≤ operator.token.length) := by
  induction front generalizing place with
  | nil =>
    obtain ⟨c, token, spelled, plain⟩ : ∃ c token, mark.token.toList = c :: token ∧ c ≠ '\'' := by
      cases mark <;> exact ⟨_, _, rfl, by decide⟩
    obtain ⟨operator, found, long⟩ :=
      exists_comparison? comparison (List.prefix_append mark.token.toList back)
    rw [Place.after_nil] at outside
    rw [spelled, List.cons_append] at found
    rw [List.nil_append, spelled, List.cons_append, cutAtComparison?,
      if_pos (isPlain_of_ne outside plain), found]
    exact ⟨[], operator, _, rfl, Nat.le_refl _, fun _ => long⟩
  | cons c front ih =>
    rw [List.cons_append, List.cons_append, cutAtComparison?]
    split
    · rename_i operator _
      exact ⟨[], operator, _, rfl, Nat.zero_le _, fun same => absurd same (by simp)⟩
    · obtain ⟨before, operator, after, found, early, long⟩ := ih outside
      rw [found]
      exact ⟨c :: before, operator, after, rfl, by simpa using early, by simpa using long⟩

theorem ComparisonAt.exists_cutAtComparison? (here : ComparisonAt text front operator back) :
    ∃ before other after, cutAtComparison? .start text = some (before, other, after) ∧
      before.length ≤ front.length ∧
      (before.length = front.length → operator.token.length ≤ other.token.length) := by
  obtain ⟨rfl, comparison, closed⟩ := here
  exact Query.exists_cutAtComparison? comparison closed back

theorem comparisonAt_of_cutAtComparison?
    (found : cutAtComparison? .start text = some (front, operator, back)) :
    ComparisonAt text front operator back := by
  obtain ⟨whole, comparison, -, closed⟩ := cutAtComparison?_eq_some found
  exact ⟨whole, comparison, closed⟩

/-! LIKE. -/

theorem length_of_sameLetters {word written : List Char} (same : sameLetters word written = true) :
    written.length = word.length := by
  rw [sameLetters, beq_iff_eq] at same
  simpa using (congrArg List.length same).symm

theorem likeAt_of_cutAtLike? (found : cutAtLike? text = some (front, back)) :
    ∃ token, LikeAt text front token back := by
  obtain ⟨cut, here, more, rfl, rfl⟩ := cutAtLike?_eq_some_iff.1 found
  obtain ⟨whole, closed, space, spelled, ends⟩ :=
    find?_found (by simp) (findPhrase?_eq_some_iff.1 here)
  refine ⟨cut.keyword, whole, closed, space, ?_, ?_⟩
  · cases spelled with
    | last same => exact same
  · obtain ⟨c, rest, same⟩ := List.exists_cons_of_ne_nil more
    rw [same] at ends ⊢
    exact ends

theorem LikeAt.exists_cutAtLike? (here : LikeAt text front token back) :
    ∃ before after, cutAtLike? text = some (before, after) ∧ before.length ≤ front.length := by
  obtain ⟨rfl, closed, space, spelled, followed⟩ := here
  obtain ⟨c, rest, rfl⟩ : ∃ c rest, back = c :: rest := by
    cases back with
    | nil => cases followed
    | cons c rest => exact ⟨c, rest, rfl⟩
  have ends : endsKeyword (c :: rest) = true := followed
  have behind : (Place.start.after front).previous.any isSpace = true := by
    rw [Place.previous_after, Place.start, Option.or_none, space]
  obtain ⟨cut, found, early⟩ :=
    exists_findFrom? (Nat.zero_le _) (by decide) closed behind (.last spelled) ends
  rw [← List.append_assoc] at found
  refine ⟨cut.before, cut.after, cutAtLike?_eq_some_iff.2 ⟨cut, findPhrase?_eq_some_iff.2 found, ?_,
    rfl, rfl⟩, early⟩
  -- The one that was found ends no later, so text follows it too.
  intro last
  obtain ⟨whole, -, -, other, -⟩ := find?_found (by simp) found
  cases other with
  | last same =>
    have size := congrArg List.length whole
    simp only [List.length_append, List.length_cons, last, List.length_nil,
      length_of_sameLetters spelled, length_of_sameLetters same] at size
    omega

theorem not_likeAt_of_cutAtLike? (absent : cutAtLike? text = none) :
    ¬LikeAt text front token back := by
  intro here
  obtain ⟨before, after, found, -⟩ := here.exists_cutAtLike?
  rw [absent] at found
  cases found

/-! The operator of a text is the only one at which it is cut. -/

/-- Two cuts of a text of which none is further right are made at the same place. -/
theorem front_eq {front' token' back' : List Char} (whole : text = front ++ token ++ back)
    (again : text = front' ++ token' ++ back') (early : front.length ≤ front'.length)
    (late : front'.length ≤ front.length) : front = front' ∧ token ++ back = token' ++ back' := by
  rw [again, List.append_assoc, List.append_assoc] at whole
  obtain ⟨same, behind⟩ := List.append_inj whole (Nat.le_antisymm late early)
  exact ⟨same.symm, behind.symm⟩

theorem CutAt.unique {other : Operator} {front' token' back' : List Char}
    (cut : CutAt text operator front token back) (again : CutAt text other front' token' back') :
    front = front' ∧ operator = other ∧ token = token' ∧ back = back' := by
  -- LIKE goes before comparisons, so a text is not cut at one of each.
  cases cut with
  | like here first =>
    cases again with
    | like here' first' =>
      obtain ⟨rfl, behind⟩ :=
        front_eq here.whole here'.whole (first _ _ _ here') (first' _ _ _ here)
      have level := (length_of_sameLetters here.spelled).trans
        (length_of_sameLetters here'.spelled).symm
      obtain ⟨rfl, rfl⟩ := List.append_inj behind level
      exact ⟨rfl, rfl, rfl, rfl⟩
    | comparison here' no_like => exact absurd here (no_like _ _ _)
  | comparison here no_like leftmost longest =>
    cases again with
    | like here' => exact absurd here' (no_like _ _ _)
    | comparison here' no_like' leftmost' longest' =>
      obtain ⟨rfl, behind⟩ :=
        front_eq here.whole here'.whole (leftmost _ _ _ here') (leftmost' _ _ _ here)
      have level : operator.token.length = other.token.length :=
        Nat.le_antisymm (longest' _ _ here) (longest _ _ here')
      rw [← String.length_toList, ← String.length_toList] at level
      obtain ⟨token, rfl⟩ := List.append_inj behind level
      obtain rfl : operator = other := by
        have read := Operator.ofToken?_token operator
        rw [String.toList_injective token, Operator.ofToken?_token] at read
        exact (Option.some.inj read).symm
      exact ⟨rfl, rfl, rfl, rfl⟩

theorem cutAt_of_cutAtOperator? (found : cutAtOperator? text = some (front, operator, back)) :
    ∃ token, CutAt text operator front token back := by
  by_cases like : operator = .like
  · subst like
    rw [cutAtOperator?_like_iff] at found
    obtain ⟨token, here⟩ := likeAt_of_cutAtLike? found
    refine ⟨token, .like here fun other word rest there => ?_⟩
    obtain ⟨before, after, again, early⟩ := there.exists_cutAtLike?
    rw [found] at again
    cases again
    exact early
  · obtain ⟨absent, found⟩ := (cutAtOperator?_comparison_iff like).1 found
    have latest : ∀ other mark rest, ComparisonAt text other mark rest →
        front.length ≤ other.length ∧
          (front.length = other.length → mark.token.length ≤ operator.token.length) := by
      intro other mark rest there
      obtain ⟨before, first, after, again, early, long⟩ := there.exists_cutAtComparison?
      rw [found] at again
      cases again
      exact ⟨early, long⟩
    exact ⟨_, .comparison (comparisonAt_of_cutAtComparison? found)
      (fun _ _ _ => not_likeAt_of_cutAtLike? absent)
      (fun other mark rest there => (latest other mark rest there).1)
      (fun mark rest there => (latest front mark rest there).2 rfl)⟩

/-- A text without operator: there is no LIKE in it and no comparison. -/
structure NoOperator (text : List Char) : Prop where
  no_like : ∀ front token back, ¬LikeAt text front token back
  no_comparison : ∀ front operator back, ¬ComparisonAt text front operator back

theorem CutAt.not_noOperator (cut : CutAt text operator front token back) : ¬NoOperator text := by
  intro silent
  cases cut with
  | like here => exact silent.no_like _ _ _ here
  | comparison here => exact silent.no_comparison _ _ _ here

theorem cutAtOperator?_eq_none_iff : cutAtOperator? text = none ↔ NoOperator text := by
  constructor
  · intro absent
    rw [cutAtOperator?] at absent
    split at absent
    · cases absent
    · rename_i silent
      refine ⟨fun _ _ _ => not_likeAt_of_cutAtLike? silent, fun front operator back here => ?_⟩
      obtain ⟨before, other, after, found, -⟩ := here.exists_cutAtComparison?
      rw [absent] at found
      cases found
  · intro silent
    apply Option.eq_none_iff_forall_not_mem.2
    rintro ⟨front, operator, back⟩ found
    obtain ⟨token, cut⟩ := cutAt_of_cutAtOperator? found
    exact cut.not_noOperator silent

theorem cutAtOperator?_eq_some_iff :
    cutAtOperator? text = some (front, operator, back) ↔
      ∃ token, CutAt text operator front token back := by
  refine ⟨cutAt_of_cutAtOperator?, fun held => ?_⟩
  obtain ⟨token, cut⟩ := held
  cases found : cutAtOperator? text with
  | none => exact absurd (cutAtOperator?_eq_none_iff.1 found) cut.not_noOperator
  | some other =>
    obtain ⟨token', again⟩ := cutAt_of_cutAtOperator? found
    obtain ⟨rfl, rfl, rfl, rfl⟩ := cut.unique again
    rfl

/-! The condition around the operator. -/

theorem CutAt.whole (cut : CutAt text operator front token back) :
    text = front ++ token ++ back := by
  cases cut with
  | like here => exact here.whole
  | comparison here => exact here.whole

theorem LikeAt.sides (here : LikeAt text front token back) (trimmed : Trimmed text) :
    trim front ≠ [] ∧ trim back ≠ [] := by
  obtain ⟨rfl, -, space, -, followed⟩ := here
  refine ⟨?_, trimmed.trim_back_ne_nil ?_⟩
  · rw [List.append_assoc] at trimmed
    apply trimmed.trim_front_ne_nil
    rintro rfl
    cases space
  · rintro rfl
    cases followed

/-- The text is the condition: its field, its operator and a literal for its value, with white space
between them. -/
inductive Shows (text : List Char) (condition : Condition) : Prop
  | intro {lead token gap literal : List Char}
      (whole : text = condition.field.toList ++ lead ++ token ++ gap ++ literal)
      (field : IsName condition.field) (before : ∀ c ∈ lead, isBlank c = true)
      (after : ∀ c ∈ gap, isBlank c = true) (nonempty : literal ≠ []) (trimmed : Trimmed literal)
      (value : Unquoted literal condition.value.toList)
      (cut : CutAt text condition.operator (condition.field.toList ++ lead) token (gap ++ literal))

/-- There is no operator, or the text is cut at one that leaves an empty side. -/
inductive Unreadable (text : List Char) : Prop
  | noOperator (silent : NoOperator text)
  | emptySide {operator : Operator} {front token back : List Char}
      (cut : CutAt text operator front token back) (empty : trim front = [] ∨ trim back = [])

theorem Shows.exists_cutAt {condition : Condition} (shown : Shows text condition) :
    ∃ front token back, CutAt text condition.operator front token back ∧ IsName condition.field ∧
      trim front = condition.field.toList ∧ trim back ≠ [] ∧
      Unquoted (trim back) condition.value.toList := by
  obtain @⟨lead, token, gap, literal, -, field, before, after, nonempty, trimmed, value, cut⟩ :=
    shown
  have front : trim ([] ++ condition.field.toList ++ lead) = condition.field.toList :=
    field.trimmed.trim_around (by simp) before
  have behind := trim_append after
  refine ⟨_, _, _, cut, field, front, ?_, ?_⟩
  · rw [behind, trimmed.trim_eq]
    exact nonempty
  · rw [behind, trimmed.trim_eq]
    exact value

theorem condition?_eq_some_iff_shows {condition : Condition} (trimmed : Trimmed text) :
    condition? text = some condition ↔ Shows text condition := by
  rw [condition?_eq_some_iff]
  constructor
  · rintro ⟨front, back, found, filled, valued, field, value⟩
    obtain ⟨token, cut⟩ := cutAtOperator?_eq_some_iff.1 found
    have nonempty : trim back ≠ [] := by
      -- LIKE stands between white space, so in a trimmed text neither side of it is empty.
      by_cases like : condition.operator = .like
      · rw [like] at cut
        cases cut with
        | like here => exact (here.sides trimmed).2
        | comparison here => exact absurd rfl here.comparison
      · simpa using valued like
    have whole := cut.whole
    rw [whole] at trimmed
    obtain ⟨gap, after, second⟩ := trimmed.exists_lead
    rw [List.append_assoc] at trimmed
    obtain ⟨lead, before, first⟩ := trimmed.exists_trail
    have named : condition.field.toList = trim front := by rw [field, String.toList_ofList]
    refine .intro (?_ : text = condition.field.toList ++ lead ++ token ++ gap ++ trim back) ?_
      before after nonempty (trimmed_trim back) ?_ ?_
    · rw [named, ← first, List.append_assoc, ← second, whole]
    · rw [field]
      exact isName_trim filled
    · rw [value, String.toList_ofList]
      exact unquoted_iff.2 rfl
    · rw [named, ← first, ← second]
      exact cut
  · intro shown
    obtain ⟨front, token, back, cut, field, named, nonempty, value⟩ := shown.exists_cutAt
    refine ⟨front, back, cutAtOperator?_eq_some_iff.2 ⟨token, cut⟩, ?_, fun _ => ?_, ?_, ?_⟩
    · simpa [named] using field.nonempty
    · simpa using nonempty
    · rw [named, String.ofList_toList]
    · rw [unquoted_iff.1 value, String.ofList_toList]

theorem condition?_eq_none_iff (trimmed : Trimmed text) :
    condition? text = none ↔ Unreadable text := by
  constructor
  · intro absent
    cases found : cutAtOperator? text with
    | none => exact .noOperator (cutAtOperator?_eq_none_iff.1 found)
    | some cut =>
      obtain ⟨front, operator, back⟩ := cut
      obtain ⟨token, cut⟩ := cutAtOperator?_eq_some_iff.1 found
      refine .emptySide cut ?_
      by_contra filled
      rw [not_or] at filled
      have read : condition? text = some ⟨String.ofList (trim front), operator,
          String.ofList (stripQuotes (trim back))⟩ :=
        condition?_eq_some_iff.2 ⟨front, back, found, by simpa using filled.1,
          fun _ => by simpa using filled.2, rfl, rfl⟩
      rw [absent] at read
      cases read
  · intro unreadable
    apply Option.eq_none_iff_forall_not_mem.2
    intro condition read
    obtain ⟨front, token, back, cut, field, named, nonempty, -⟩ :=
      ((condition?_eq_some_iff_shows trimmed).1 read).exists_cutAt
    cases unreadable with
    | noOperator silent => exact cut.not_noOperator silent
    | emptySide again empty =>
      obtain ⟨rfl, -, -, rfl⟩ := cut.unique again
      rw [named] at empty
      exact empty.elim field.nonempty nonempty

/-- Reading a condition loses nothing and cuts at the first LIKE, or else at the leftmost and there
the longest comparison. It fails only without an operator or with nothing on one side of it. -/
theorem readCondition_ok_and_error_iff (text : List Char) :
    (∀ condition, readCondition text = .ok condition ↔ Shows (trim text) condition) ∧
      ∀ rejection, readCondition text = .error rejection ↔
        rejection = .notCondition (String.ofList (trim text)) ∧ Unreadable (trim text) := by
  have trimmed := trimmed_trim text
  refine ⟨fun condition => ?_, fun rejection => ?_⟩
  · rw [readCondition_eq_ok_iff, condition?_eq_some_iff_shows trimmed]
  · rw [← condition?_eq_none_iff trimmed, readCondition]
    cases condition? (trim text) with
    | none => simp [eq_comm]
    | some condition => simp

end TableQuery.Query
