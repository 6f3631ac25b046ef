import TableQuery.Proofs.Query.Keywords
import TableQuery.Proofs.Query.Written
import TableQuery.Proofs.Request.Legible

/-! Conditions read back from canonical query text. -/

set_option autoImplicit false

namespace TableQuery

open Query Text

def comparisonMarks : List Char :=
  ['=', '<', '>', '!']

namespace Query

variable {place : Place} {rest : List Char}

theorem isPrefixOf_append_of_not_mem {c : Char} {word : List Char} (absent : c ∉ word)
    (text rest : List Char) : word.isPrefixOf (text ++ c :: rest) = word.isPrefixOf text := by
  induction word generalizing text with
  | nil => simp
  | cons letter word ih =>
    rw [List.mem_cons, not_or] at absent
    cases text with
    | nil => simp [List.isPrefixOf, Ne.symm absent.1]
    | cons first text => simp [List.isPrefixOf, ih absent.2]

theorem comparison?_append_space (text rest : List Char) :
    comparison? (text ++ ' ' :: rest) = comparison? text := by
  have same : (fun operator : Operator => operator.token.toList.isPrefixOf (text ++ ' ' :: rest)) =
      fun operator => operator.token.toList.isPrefixOf text := by
    funext operator
    exact isPrefixOf_append_of_not_mem (by cases operator <;> decide) text rest
  rw [comparison?, comparison?, same]

theorem isPlain_of_ne {place : Place} {c : Char} (outside : place.inside = false) (plain : c ≠ '\'') :
    place.isPlain c = true := by
  rw [Place.isPlain, Place.toggles, outside, beq_false_of_ne plain]
  rfl

theorem comparison?_unmarked {c : Char} (plain : c ∉ comparisonMarks) (text : List Char) :
    comparison? (c :: text) = none := by
  have first : ∀ operator ∈ Operator.comparisons, ∃ mark ∈ comparisonMarks, ∃ more,
      operator.token.toList = mark :: more := by
    intro operator member
    cases operator with
    | like => exact absurd member (by decide)
    | _ => exact ⟨_, by decide, _, rfl⟩
  rw [comparison?, List.find?_eq_none]
  intro operator member found
  obtain ⟨rest, whole⟩ := List.isPrefixOf_iff_prefix.1 found
  obtain ⟨mark, listed, more, spelled⟩ := first operator member
  rw [spelled] at whole
  cases whole
  exact plain listed

theorem cutAtComparison?_unmarked {stretch : List Char}
    (plain : ∀ c ∈ stretch, c ∉ comparisonMarks) (place : Place) (rest : List Char) :
    cutAtComparison? place (stretch ++ rest) =
      (cutAtComparison? (place.after stretch) rest).map fun cut => (stretch ++ cut.1, cut.2) := by
  induction stretch generalizing place with
  | nil => simp
  | cons c stretch ih =>
    rw [List.forall_mem_cons] at plain
    rw [List.cons_append, cutAtComparison?, comparison?_unmarked plain.1, ite_self, ih plain.2,
      Option.map_map]
    rfl

/-- A comparison is read as written unless an equals sign makes it a longer one. -/
theorem comparison?_token_append {operator : Operator} (comparison : operator ≠ .like)
    (stop : ∀ c ∈ rest.head?, c ≠ '=') :
    comparison? (operator.token.toList ++ rest) = some operator := by
  cases rest with
  | nil =>
    cases operator <;> first
    | exact absurd rfl comparison
    | rfl
  | cons c rest =>
    have other : ('=' == c) = false := beq_false_of_ne (Ne.symm (stop c rfl))
    cases operator <;> first
    | exact absurd rfl comparison
    | simp [comparison?, Operator.comparisons, Operator.token, List.isPrefixOf, other]

theorem cutAtComparison?_token_append {operator : Operator} (comparison : operator ≠ .like)
    (outside : place.inside = false) (stop : ∀ c ∈ rest.head?, c ≠ '=') :
    cutAtComparison? place (operator.token.toList ++ rest) = some ([], operator, rest) := by
  have here := comparison?_token_append comparison stop
  have behind : (operator.token.toList ++ rest).drop operator.token.length = rest := by
    rw [← String.length_toList, List.drop_left]
  obtain ⟨c, token, spelled, plain⟩ :
      ∃ c token, operator.token.toList = c :: token ∧ c ≠ '\'' := by
    cases operator <;> exact ⟨_, _, rfl, by decide⟩
  rw [spelled, List.cons_append] at here behind ⊢
  rw [cutAtComparison?, if_pos (isPlain_of_ne outside plain), here]
  exact congrArg (fun text => some ([], operator, text)) behind

theorem cutAtComparison?_written {place : Place} {text : List Char} {operator : Operator}
    (comparison : operator ≠ .like) (absent : cutAtComparison? place text = none)
    (outside : (place.after text).inside = false) (rest : List Char) :
    cutAtComparison? place (text ++ ' ' :: (operator.token.toList ++ ' ' :: rest)) =
      some (text ++ [' '], operator, ' ' :: rest) := by
  -- White space completes no comparison, so the search goes on to the written one.
  induction text generalizing place with
  | nil =>
    have still := (Place.next_inside (c := ' ') (by decide) place).trans outside
    have other : ∀ c ∈ (' ' :: rest).head?, c ≠ '=' := by
      rintro c ⟨⟩
      decide
    rw [List.nil_append, cutAtComparison?, cutAtComparison?_token_append comparison still other]
    have blank : comparison? (' ' :: (operator.token.toList ++ ' ' :: rest)) = none :=
      comparison?_append_space [] _
    rw [blank, ite_self]
    rfl
  | cons c text ih =>
    rw [cutAtComparison?] at absent
    have ahead := comparison?_append_space (c :: text) (operator.token.toList ++ ' ' :: rest)
    rw [List.cons_append] at ahead
    rw [List.cons_append, cutAtComparison?, ahead]
    split at absent
    · cases absent
    · rw [ih (Option.map_eq_none_iff.1 absent) outside]
      rfl

theorem stripQuotes_quoted (value : List Char) :
    stripQuotes ('\'' :: value ++ ['\'']) = value := by
  simp [stripQuotes]

theorem stripQuotes_literalChars (condition : Condition) :
    stripQuotes condition.literalChars = condition.value.toList := by
  rcases literalChars_cases condition with quoted | ⟨bare, spelled, -⟩
  · rw [quoted, stripQuotes_quoted]
  · rw [← bare]
    unfold stripQuotes
    split
    · rename_i same
      have quote := spelled '\'' (by simp [same])
      exact absurd quote (by decide)
    · rfl

theorem chars_eq (condition : Condition) :
    condition.chars = condition.field.toList ++
      ' ' :: (condition.operator.token.toList ++ ' ' :: condition.literalChars) := by
  simp [Condition.chars]

/-- The parts of a condition read back from the text around its operator. -/
theorem condition?_of_cutAtOperator? {condition : Condition} (field : IsName condition.field)
    (cut : cutAtOperator? condition.chars =
      some (condition.field.toList ++ [' '], condition.operator, ' ' :: condition.literalChars)) :
    condition? condition.chars = some condition := by
  obtain ⟨literal, full⟩ := trimmed_literalChars condition
  refine condition?_eq_some_iff.2 ⟨_, _, cut, ?_, fun _ => ?_, ?_, ?_⟩
  · simpa [field.trimmed.trim_before_space] using field.nonempty
  · simpa [literal.trim_after_space] using full
  · rw [field.trimmed.trim_before_space, String.ofList_toList]
  · rw [literal.trim_after_space, stripQuotes_literalChars, String.ofList_toList]

theorem condition?_like_iff {condition : Condition} (wellFormed : condition.WellFormed)
    (like : condition.operator = .like) :
    condition? condition.chars = some condition ↔
      findPhrase? ["LIKE"] condition.field.toList = none := by
  have heading := heading_word (by decide : Phrase.Lettered ["LIKE"]) condition.literalChars
  have shape := chars_eq condition
  rw [like] at shape
  constructor
  · intro read
    obtain ⟨before, after, here, -, -, field, -⟩ := condition?_eq_some_iff.1 read
    rw [like, cutAtOperator?_like_iff, shape] at here
    obtain ⟨cut, found, -, rfl, rfl⟩ := cutAtLike?_eq_some_iff.1 here
    rw [findPhrase?_eq_some_iff] at found
    have level : weight [] cut.before = weight [] condition.field.toList := by
      rw [field, String.toList_ofList, weight_trim]
    exact findPhrase?_eq_none_iff.2 (heading.leads_of_before found level).silent
  · intro absent
    have leads : Leads [⟨(), ["LIKE"]⟩] condition.field.toList true :=
      ⟨findPhrase?_eq_none_iff.1 absent, fun _ => wellFormed.closed⟩
    have found := findPhrase?_eq_some_iff.2 (heading.find?_eq leads)
    apply condition?_of_cutAtOperator? wellFormed.field
    rw [like, cutAtOperator?_like_iff, shape]
    exact cutAtLike?_eq_some_iff.2 ⟨_, found, by simp, rfl, rfl⟩

-- A literal ends in a quote or is a number, and no number has the letter k.
theorem not_suffix_of_like {condition : Condition} {written : List Char}
    (same : written.map Char.toLower = "LIKE".toList.map Char.toLower) :
    ¬written <:+ condition.literalChars := by
  intro held
  obtain ⟨front, whole⟩ := held
  rcases literalChars_cases condition with quoted | ⟨-, spelled, -⟩
  · have last := congrArg (fun text => (text.map Char.toLower).getLast?) (whole.trans quoted)
    simp only [List.map_append, same, List.getLast?_append] at last
    cases last
  · have k : 'k' ∈ written.map Char.toLower := same ▸ by decide
    apply Literal.not_mem_of_spelled spelled (by decide : Literal.isNumeral 'k' = false)
    rw [← whole, List.map_append]
    exact List.mem_append_right _ k

theorem cutAtLike?_chars_eq_none_iff {condition : Condition} :
    cutAtLike? condition.chars = none ↔ findPhrase? ["LIKE"] condition.chars = none := by
  constructor
  · intro absent
    apply Option.eq_none_iff_forall_not_mem.2
    intro cut found
    -- A LIKE without anything behind it would be the end of the literal.
    have last : cut.after = [] := by
      rw [cutAtLike?, Option.mem_def.1 found] at absent
      by_contra more
      simp [more] at absent
    rw [Option.mem_def, findPhrase?_eq_some_iff] at found
    obtain ⟨keyword, member, -, matched⟩ := exists_of_matchAny? (findFrom?_found found).1
    obtain rfl := List.mem_singleton.1 member
    have same := matchWord?_sameLetters (matchPhrase?_singleton_iff.1 matched).1
    have solid : ' ' ∉ cut.keyword := by
      intro space
      have lowered : ' '.toLower ∈ cut.keyword.map Char.toLower := List.mem_map_of_mem space
      rw [same] at lowered
      revert lowered
      decide
    have ending : cut.keyword <:+ condition.chars := by
      rw [← find?_whole found, Cut.whole, last, List.append_nil]
      exact List.suffix_append _ _
    have literal : ' ' :: condition.literalChars <:+ condition.chars := by
      refine ⟨condition.field.toList ++ ' ' :: condition.operator.token.toList, ?_⟩
      simp [Condition.chars]
    rcases List.suffix_or_suffix_of_suffix ending literal with short | long
    · rcases List.suffix_cons_iff.1 short with equal | short
      · exact solid (equal ▸ List.mem_cons_self)
      · exact not_suffix_of_like same short
    · exact solid (long.subset List.mem_cons_self)
  · intro absent
    rw [cutAtLike?, absent]

theorem condition?_comparison_iff {condition : Condition} (wellFormed : condition.WellFormed)
    (comparison : condition.operator ≠ .like) :
    condition? condition.chars = some condition ↔
      findPhrase? ["LIKE"] condition.chars = none := by
  constructor
  · intro read
    obtain ⟨before, after, cut, -⟩ := condition?_eq_some_iff.1 read
    exact cutAtLike?_chars_eq_none_iff.1 ((cutAtOperator?_comparison_iff comparison).1 cut).1
  · intro absent
    apply condition?_of_cutAtOperator? wellFormed.field
    rw [cutAtOperator?_comparison_iff comparison, cutAtLike?, absent, chars_eq]
    exact ⟨rfl, cutAtComparison?_written comparison (wellFormed.plain comparison)
      wellFormed.closed _⟩

theorem condition?_chars_iff {condition : Condition} (wellFormed : condition.WellFormed) :
    condition? condition.chars = some condition ↔
      findPhrase? ["LIKE"] condition.charsBeforeLike = none := by
  rw [Condition.charsBeforeLike]
  split
  · rename_i like
    exact condition?_like_iff wellFormed like
  · rename_i comparison
    exact condition?_comparison_iff wellFormed comparison

theorem weight_chars {letters : List Char} (condition : Condition) :
    weight letters condition.chars = conditionWeight letters condition := by
  have literal : weight letters (stripQuotes condition.literalChars) = _ := weight_stripQuotes _
  rw [stripQuotes_literalChars] at literal
  rw [chars_eq, weight_append, weight_space, weight_append, weight_space, ← literal, ← Nat.add_assoc]
  rfl

def conjunction (conditions : List Condition) : List Char :=
  " AND ".toList.intercalate (conditions.map Condition.chars)

theorem conjunction_cons (condition next : Condition) (more : List Condition) :
    conjunction (condition :: next :: more) =
      condition.chars ++ ' ' :: ("AND".toList ++ ' ' :: conjunction (next :: more)) := by
  simp [conjunction, List.intercalate_cons_cons]

/-- The relation between the pieces of a filter and its conditions. -/
def Reads (piece : List Char) (condition : Condition) : Prop :=
  condition? (trim piece) = some condition

theorem separate_ne_nil (text : List Char) : separate connectives text ≠ [] := by
  cases found : find? connectives text with
  | none => simp [separate_of_none found]
  | some cut => simp [separate_of_some found]

theorem trim_trim (text : List Char) : trim (trim text) = trim text :=
  (trimmed_trim text).trim_eq

theorem reads_last_iff {text : List Char} {condition : Condition} :
    List.Forall₂ Reads (separate connectives text) [condition] ↔
      find? connectives text = none ∧ condition? (trim text) = some condition := by
  cases found : find? connectives text with
  | none => simp [separate_of_none found, Reads, trim_trim]
  | some cut => simp [separate_of_some found, separate_ne_nil]

theorem reads_cons_iff {condition next : Condition} {more : List Condition}
    {lead tail : List Char} (field : IsName condition.field)
    (blank : ∀ c ∈ lead, isBlank c = true) :
    List.Forall₂ Reads
        (separate connectives (lead ++ condition.chars ++ ' ' :: ("AND".toList ++ ' ' :: tail)))
        (condition :: next :: more) ↔
      Leads connectives (lead ++ condition.chars) true ∧
        condition? condition.chars = some condition ∧
        List.Forall₂ Reads (separate connectives (' ' :: tail)) (next :: more) := by
  have around : trim (lead ++ condition.chars ++ [' ']) = condition.chars :=
    (Condition.trimmed_chars field).1.trim_around blank blank_of_mem_space
  constructor
  · intro read
    cases found : find? connectives
        (lead ++ condition.chars ++ ' ' :: ("AND".toList ++ ' ' :: tail)) with
    | none =>
      rw [separate_of_none found] at read
      cases read with
      | cons _ rest => cases rest
    | some cut =>
      rw [separate_of_some found, List.forall₂_cons] at read
      -- The first piece is read as the first condition, so it has the weight of its text.
      have level : weight [] cut.2.before = weight [] (lead ++ condition.chars) := by
        have weighs : weight [] (trim (trim cut.2.before)) = _ := weight_of_condition? read.1
        rw [weight_append, weight_blanks blank, Nat.zero_add, weight_chars, ← weighs, trim_trim,
          weight_trim]
      have leads := (heading_and tail).leads_of_before found level
      have first := (heading_and tail).find?_eq leads
      rw [found] at first
      cases first
      rw [Reads, trim_trim, around] at read
      exact ⟨leads, read⟩
  · intro held
    obtain ⟨leads, read, rest⟩ := held
    rw [separate_of_some ((heading_and tail).find?_eq leads), List.forall₂_cons, Reads, trim_trim,
      around]
    exact ⟨read, rest⟩

theorem readConditions_conjunction_iff {conditions : List Condition} (nonempty : conditions ≠ [])
    (wellFormed : ∀ condition ∈ conditions, condition.WellFormed) {lead : List Char}
    (blank : ∀ c ∈ lead, isBlank c = true) :
    readConditions (lead ++ conjunction conditions) = .ok conditions ↔
      Separated lead conditions ∧
        ∀ condition ∈ conditions, findPhrase? ["LIKE"] condition.charsBeforeLike = none := by
  have pieces : ∀ lead conditions, readConditions (lead ++ conjunction conditions) = .ok conditions ↔
      List.Forall₂ Reads (separate connectives (lead ++ conjunction conditions)) conditions :=
    fun _ _ => readConditions_eq_ok_iff
  rw [pieces]
  -- Behind a connective the lead is a space, in front of the first condition it is empty.
  induction conditions generalizing lead with
  | nil => exact absurd rfl nonempty
  | cons condition more ih =>
    have here := wellFormed condition (by simp)
    rw [List.forall_mem_cons, Separated, ← condition?_chars_iff here]
    cases more with
    | nil =>
      have around : trim (lead ++ condition.chars ++ []) = condition.chars :=
        (Condition.trimmed_chars here.field).1.trim_around blank (by simp)
      rw [List.append_nil] at around
      simp [conjunction, reads_last_iff, around, Separated, leads_false_iff]
    | cons next more =>
      have later := fun other member => wellFormed other (List.mem_cons_of_mem _ member)
      have rest : List.Forall₂ Reads (separate connectives ([' '] ++ conjunction (next :: more)))
          (next :: more) ↔ _ := ih (by simp) later blank_of_mem_space
      rw [List.singleton_append] at rest
      rw [conjunction_cons, ← List.append_assoc, reads_cons_iff here.field blank, rest]
      constructor
      · intro held
        obtain ⟨leads, read, separated, like⟩ := held
        exact ⟨⟨leads, separated⟩, read, like⟩
      · intro held
        obtain ⟨⟨leads, separated⟩, read, like⟩ := held
        exact ⟨leads, read, separated, like⟩

end Query

end TableQuery
