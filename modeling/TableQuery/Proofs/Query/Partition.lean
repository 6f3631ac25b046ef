import TableQuery.Proofs.Query.Composition

/-! Cutting a query into clauses loses nothing and leaves no clause behind.

Each cut is made where its phrase occurs first. The text in front of it ends in a new place then,
but what occurs at that end occurs in the whole text too, for white space follows it there.
-/

set_option autoImplicit false

namespace TableQuery.Query

open Text

variable {Part : Type} {phrase other : Phrase} {holds : Part → List Char → Prop}
  {read : List Char → Except Rejection Part} {part : Option Part}
  {text rest clause front : List Char}

theorem exists_lead {cut : Cut} (searched : phrase.Lettered) (plain : OnlySpaces text)
    (found : find? [⟨(), phrase⟩] text = some ((), cut)) :
    ∃ lead, cut.before = trimEnd cut.before ++ lead ∧ IsGap lead ∧ lead ≠ [] := by
  obtain ⟨whole, -, previous, -, -⟩ := find?_found searched.nonempty found
  obtain ⟨lead, blank, same⟩ := exists_trimEnd cut.before
  refine ⟨lead, same, fun c member => plain c ?_ (blank c member), ?_⟩
  · rw [whole, same]
    simp [member]
  · -- The keyword stands behind a space, which trimming takes away.
    rintro rfl
    rw [List.append_nil] at same
    have visible := getLast?_trimEnd cut.before
    rw [← same] at visible
    cases last : cut.before.getLast? with
    | none =>
      rw [last] at previous
      cases previous
    | some c =>
      rw [last] at previous visible
      have solid := visible c rfl
      rw [isBlank_of_isSpace previous] at solid
      cases solid

theorem exists_gap (text : List Char) :
    ∃ gap content, text = gap ++ content ∧ IsGap gap ∧ ∀ c ∈ content.head?, isSpace c = false := by
  refine ⟨text.takeWhile isSpace, text.dropWhile isSpace, List.takeWhile_append_dropWhile.symm,
    fun c => List.mem_takeWhile_imp, fun c member => ?_⟩
  have stop := List.head?_dropWhile_not isSpace text
  rw [member] at stop
  simpa using stop

theorem exists_clauseText (searched : phrase.Lettered) (plain : OnlySpaces text)
    (cutOff : cutClause phrase read text = .ok (rest, part)) (filled : ∀ held, read [] ≠ .ok held)
    (contents : ∀ held gap content, IsGap gap → (∀ c ∈ content.head?, isSpace c = false) →
      content <:+ text → read (gap ++ content) = .ok held → holds held content) :
    ∃ clause, text = rest ++ clause ∧ ClauseText phrase holds part clause := by
  cases part with
  | none =>
    obtain ⟨-, rfl⟩ := cutClause_none_iff.1 cutOff
    exact ⟨[], by simp, .absent⟩
  | some held =>
    obtain ⟨cut, found, reads, rfl⟩ := cutClause_some_iff.1 cutOff
    obtain ⟨whole, -, -, spelled, ends⟩ := find?_found searched.nonempty found
    obtain ⟨lead, before, run, apart⟩ := exists_lead searched plain found
    obtain ⟨gap, content, after, spaces, stop⟩ := exists_gap cut.after
    rw [before, after, ← List.append_assoc] at whole
    rw [after] at reads ends
    -- White space ends the phrase, unless the text ends there and leaves nothing to read.
    have nonempty : gap ≠ [] := by
      rintro rfl
      cases content with
      | nil => exact filled held reads
      | cons c content =>
        rw [List.nil_append, endsKeyword, stop c rfl] at ends
        cases ends
    refine ⟨lead ++ cut.keyword ++ gap ++ content, by simpa using whole, ?_⟩
    refine .present ⟨run, spaces⟩ ⟨apart, nonempty⟩ spelled ?_
    exact contents held gap content spaces stop ⟨_, whole.symm⟩ reads

theorem not_occurs_of_cutClause (searched : phrase.Lettered) (plain : OnlySpaces text)
    (cutOff : cutClause phrase read text = .ok (rest, part)) : ¬Occurs phrase rest := by
  cases part with
  | none =>
    obtain ⟨absent, rfl⟩ := cutClause_none_iff.1 cutOff
    exact (find?_eq_none_iff searched).1 absent
  | some held =>
    obtain ⟨cut, found, -, rfl⟩ := cutClause_some_iff.1 cutOff
    obtain ⟨lead, before, run, apart⟩ := exists_lead searched plain found
    have passes := findFrom?_passes found
    rw [before, passes_append_iff] at passes
    exact passes.1.not_occurs searched (run.endsKeyword_append apart _)

theorem closed_of_cutClause {held : Part} (searched : phrase.Lettered) (plain : OnlySpaces text)
    (cutOff : cutClause phrase read text = .ok (rest, some held)) : Closed rest := by
  obtain ⟨cut, found, -, rfl⟩ := cutClause_some_iff.1 cutOff
  obtain ⟨lead, before, run, -⟩ := exists_lead searched plain found
  have outside := find?_outside found
  rwa [before, Place.after_append, Place.after_inside run.no_quote] at outside

theorem getLast?_of_cutClause (ends : ∀ c ∈ text.getLast?, isBlank c = false)
    (cutOff : cutClause phrase read text = .ok (rest, part)) :
    ∀ c ∈ rest.getLast?, isBlank c = false := by
  cases part with
  | none =>
    obtain ⟨-, rfl⟩ := cutClause_none_iff.1 cutOff
    exact ends
  | some held =>
    obtain ⟨cut, -, -, rfl⟩ := cutClause_some_iff.1 cutOff
    exact getLast?_trimEnd cut.before

theorem endsKeyword_of_clauseText (written : ClauseText phrase holds part clause) :
    endsKeyword clause = true := by
  cases written with
  | absent => rfl
  | present gaps nonempty spelled here =>
    rw [List.append_assoc, List.append_assoc]
    exact gaps.1.endsKeyword_append nonempty.1 _

/-- What a filter shows, the text shows that it was cut from. -/
theorem occurs_of_filter {filter : List Char}
    (written : ClauseText other FragmentText (some filter) clause) (lettered : other.Lettered)
    (closed : Closed front) (occurs : Occurs phrase (' ' :: filter)) :
    Occurs phrase (front ++ clause) := by
  cases written with
  | @present part lead written gap content gaps nonempty spelled here =>
    obtain ⟨outside, space⟩ := spelled.after lettered gaps nonempty.2 closed
    rw [← Place.after_append] at outside space
    rw [← List.append_assoc]
    exact (here ▸ occurs).append_left outside space

theorem fragmentText_of_readFilter {gap content fragment : List Char} (run : IsGap gap)
    (trimmed : Trimmed content) (found : readFilter (gap ++ content) = .ok fragment) :
    FragmentText fragment content := by
  rw [readFilter, trim_append run.blank, trimmed.trim_eq] at found
  split at found
  · cases found
  · cases found
    rfl

theorem trimmed_of_suffix {content : List Char} (plain : OnlySpaces text)
    (ends : ∀ c ∈ text.getLast?, isBlank c = false) (suffix : content <:+ text)
    (stop : ∀ c ∈ content.head?, isSpace c = false) : Trimmed content where
  first := by
    intro c first
    apply Bool.eq_false_iff.2
    intro blank
    have space := plain c (suffix.subset (List.mem_of_head? first)) blank
    rw [stop c first] at space
    cases space
  last := by
    obtain ⟨before, rfl⟩ := suffix
    intro c last
    exact ends c (by rw [List.getLast?_append, last]; rfl)

theorem exists_filterText {filter : Option (List Char)} (plain : OnlySpaces text)
    (ends : ∀ c ∈ text.getLast?, isBlank c = false)
    (cutOff : cutClause ["WHERE"] readFilter text = .ok (rest, filter)) :
    ∃ clause, text = rest ++ clause ∧ ClauseText ["WHERE"] FragmentText filter clause := by
  refine exists_clauseText (by decide) plain cutOff (by rintro held ⟨⟩) ?_
  intro fragment gap content run stop suffix found
  exact fragmentText_of_readFilter run (trimmed_of_suffix plain ends suffix stop) found

theorem exists_groupText {groupBy : Option (List String)} (plain : OnlySpaces text)
    (cutOff : cutClause ["GROUP", "BY"] readGroupBy text = .ok (rest, groupBy)) :
    ∃ clause, text = rest ++ clause ∧
      ClauseText ["GROUP", "BY"] (EntriesOf NameText) groupBy clause := by
  refine exists_clauseText (by decide) plain cutOff (by rintro held ⟨⟩) ?_
  intro names gap content run stop suffix found
  exact (entriesOf_gap_iff run).1 (entries_of_readGroupBy found)

theorem exists_orderText {orderBy : Option (List OrderKey)} (plain : OnlySpaces text)
    (cutOff : cutClause ["ORDER", "BY"] readOrderBy text = .ok (rest, orderBy)) :
    ∃ clause, text = rest ++ clause ∧
      ClauseText ["ORDER", "BY"] (EntriesOf KeyText) orderBy clause := by
  refine exists_clauseText (by decide) plain cutOff (by rintro held ⟨⟩) ?_
  intro keys gap content run stop suffix found
  have plain' : OnlySpaces (gap ++ content) :=
    List.forall_mem_append.2 ⟨fun c member _ => run c member, plain.of_subset suffix.subset⟩
  exact (entriesOf_gap_iff run).1 (entries_of_readOrderBy found plain')

/-- The text is the selection and then the clauses, each behind white space, and nothing else. The
entries of the two lists are the names and the keys, the field of a key being a single word. Neither
the selection nor the filter shows the phrase of a clause that may follow it. -/
structure Clauses.Partition (clauses : Clauses) (text : List Char) : Prop where
  composes : clauses.Composes (EntriesOf NameText) (EntriesOf KeyText) text
  fields : ∀ keys ∈ clauses.orderBy, ∀ key ∈ keys, IsOrderField key.field
  selection : ∀ phrase ∈ [["WHERE"], ["GROUP", "BY"], ["ORDER", "BY"]],
    ¬Occurs phrase clauses.selection
  filter : ∀ text ∈ clauses.filter, ∀ phrase ∈ [["GROUP", "BY"], ["ORDER", "BY"]],
    ¬Occurs phrase (' ' :: text)

theorem Clauses.partition_of_ofQuery {query : List Char} {clauses : Clauses}
    (plain : OnlySpaces query) (accepted : Clauses.ofQuery query = .ok clauses) :
    clauses.Partition (trim query) := by
  obtain ⟨⟨grouped, orderBy⟩, first, read⟩ := bind_eq_ok_iff.1 accepted
  obtain ⟨⟨filtered, groupBy⟩, second, read⟩ := bind_eq_ok_iff.1 read
  obtain ⟨⟨selection, filter⟩, third, read⟩ := bind_eq_ok_iff.1 read
  cases read
  -- The cuts run from the end, so each one is made in what the one before it left.
  have plain₁ : OnlySpaces (trim query) := plain.of_subset fun _ => mem_of_mem_trim
  obtain ⟨orderText, whole, ordered⟩ := exists_orderText plain₁ first
  have plain₂ : OnlySpaces grouped := plain₁.of_subset (by simp [whole])
  obtain ⟨groupText, rfl, groups⟩ := exists_groupText plain₂ second
  have plain₃ : OnlySpaces filtered := plain₂.of_subset (by simp)
  have ends := getLast?_of_cutClause (getLast?_of_cutClause (trimmed_trim query).last first) second
  obtain ⟨filterText, rfl, filters⟩ := exists_filterText plain₃ ends third
  -- An occurrence in what a cut left is one in the text that was cut.
  have group : ¬Occurs ["GROUP", "BY"] (selection ++ filterText) :=
    not_occurs_of_cutClause (by decide) plain₂ second
  have order : ¬Occurs ["ORDER", "BY"] (selection ++ filterText) := fun occurs =>
    not_occurs_of_cutClause (by decide) plain₁ first
      (occurs.append_right (endsKeyword_of_clauseText groups))
  have border := endsKeyword_of_clauseText filters
  constructor
  · exact ⟨filterText, groupText, orderText, filters, groups, ordered, whole⟩
  · rintro keys ⟨⟩
    obtain ⟨cut, -, found, -⟩ := cutClause_some_iff.1 first
    exact (isOrderField_of_readOrderBy found).2
  · simp only [List.forall_mem_cons, List.not_mem_nil, false_imp_iff, implies_true, and_true]
    exact ⟨not_occurs_of_cutClause (by decide) plain₃ third,
      fun occurs => group (occurs.append_right border),
      fun occurs => order (occurs.append_right border)⟩
  · rintro text ⟨⟩
    have closed := closed_of_cutClause (by decide) plain₃ third
    simp only [List.forall_mem_cons, List.not_mem_nil, false_imp_iff, implies_true, and_true]
    exact ⟨fun occurs => group (occurs_of_filter filters (by decide) closed occurs),
      fun occurs => order (occurs_of_filter filters (by decide) closed occurs)⟩

/-- The filter ends in half a phrase, and words of the phrases stand in both lists. -/
def crowdedQuery : List Char :=
  " select a from t WHERE x = 'it GROUP BY' GROUP\tgroup by by , Where order\nBY where desc ".toList

def crowdedClauses : Clauses where
  selection := "select a from t".toList
  filter := some "x = 'it GROUP BY' GROUP".toList
  groupBy := some ["by", "Where"]
  orderBy := some [⟨"where", .descending⟩]

theorem partition_of_crowded_query :
    OnlySpaces crowdedQuery ∧ Clauses.ofQuery crowdedQuery = .ok crowdedClauses ∧
      crowdedClauses.Partition (trim crowdedQuery) := by
  have plain : OnlySpaces crowdedQuery := by decide +kernel
  have accepted : Clauses.ofQuery crowdedQuery = .ok crowdedClauses := by decide +kernel
  exact ⟨plain, accepted, Clauses.partition_of_ofQuery plain accepted⟩

end TableQuery.Query
