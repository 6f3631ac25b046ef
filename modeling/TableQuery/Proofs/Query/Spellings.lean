import TableQuery.Proofs.Query.Conditions
import TableQuery.Proofs.Query.Passages

/-! The ways to write the conditions of a query.

A literal stands in quotes or bare, white space around a comparison is free, and the words LIKE, AND
and OR have any letter case. Conditions are read back from all of these texts: whatever a literal in
quotes holds, each search passes over it.
-/

set_option autoImplicit false

namespace TableQuery

open Query Text

variable {words : List String} {place : Place} {rest : List Char}

/-- The words at which the text of conditions is taken apart. -/
def conditionWords : List String :=
  ["AND", "OR", "LIKE"]

/-- A word that stands for itself among conditions: it has no white space, quote or comparison, and
is none of their words in any letter case. -/
structure IsBareWord (word : List Char) : Prop where
  nonempty : word ≠ []
  solid : ∀ c ∈ word, isBlank c = false ∧ c ≠ '\'' ∧ c ∉ comparisonMarks
  other : ∀ keyword ∈ conditionWords, sameLetters keyword.toList word = false

inductive LiteralText (value : List Char) : List Char → Prop
  | quoted : LiteralText value ('\'' :: value ++ ['\''])
  | bare (word : IsBareWord value) : LiteralText value value

inductive ConditionText (condition : Condition) : List Char → Prop
  | comparison {before after literal : List Char} (operator : condition.operator ≠ .like)
      (gaps : IsGap before ∧ IsGap after) (value : LiteralText condition.value.toList literal) :
      ConditionText condition
        (condition.field.toList ++ (before ++ condition.operator.token.toList ++ after) ++ literal)
  | like {before word after literal : List Char} (operator : condition.operator = .like)
      (spelled : sameLetters "LIKE".toList word = true) (gaps : IsGap before ∧ IsGap after)
      (nonempty : before ≠ [] ∧ after ≠ []) (value : LiteralText condition.value.toList literal) :
      ConditionText condition (condition.field.toList ++ (before ++ word ++ after) ++ literal)

/-- The ways to write conditions one after another, with AND or OR between any two. -/
inductive FilterText : List Condition → List Char → Prop
  | last {condition : Condition} {text : List Char} (first : ConditionText condition text) :
      FilterText [condition] text
  | more {condition : Condition} {conditions : List Condition}
      {text before word after rest : List Char}
      (first : ConditionText condition text) (gaps : IsGap before ∧ IsGap after)
      (nonempty : before ≠ [] ∧ after ≠ [])
      (connective : ∃ keyword ∈ ["AND", "OR"], sameLetters keyword.toList word = true)
      (later : FilterText conditions rest) :
      FilterText (condition :: conditions) (text ++ before ++ word ++ after ++ rest)

structure Condition.Writable (condition : Condition) : Prop where
  field : IsBareWord condition.field.toList
  value : '\'' ∉ condition.value.toList

namespace Query

theorem lettered_of_conditionWords (within : ∀ word ∈ words, word ∈ conditionWords) :
    ∀ word ∈ words, Phrase.Lettered [word] := by
  have lettered : ∀ word ∈ conditionWords, Phrase.Lettered [word] := by decide
  exact fun word member => lettered word (within word member)

end Query

namespace IsBareWord

variable {word : List Char}

theorem trimmed (bare : IsBareWord word) : Trimmed word :=
  trimmed_of_solid fun c member => (bare.solid c member).1

theorem no_quote (bare : IsBareWord word) : '\'' ∉ word :=
  fun quote => (bare.solid _ quote).2.1 rfl

theorem passes (bare : IsBareWord word) (within : ∀ keyword ∈ words, keyword ∈ conditionWords)
    (stop : ∀ c ∈ rest.head?, c.isAlpha = false) : Passes (singles words) place word rest := by
  have solid : ∀ c ∈ word, isSpace c = false :=
    fun c member => not_space_of_not_blank (bare.solid c member).1
  have other : ∀ keyword ∈ words, sameLetters keyword.toList word = false :=
    fun keyword member => bare.other keyword (within keyword member)
  exact passes_word (lettered_of_conditionWords within) solid other stop

end IsBareWord

/-- White space or a character of a comparison: what stands between a field and its literal. -/
def IsSeparator (c : Char) : Prop :=
  isSpace c = true ∨ c ∈ comparisonMarks

theorem IsSeparator.isAlpha_eq {c : Char} (separator : IsSeparator c) : c.isAlpha = false := by
  rcases separator with space | mark
  · exact not_isAlpha_of_isSpace space
  · have plain : ∀ mark ∈ comparisonMarks, (!mark.isAlpha) = true := List.all_eq_true.1 rfl
    simpa using plain c mark

theorem IsSeparator.ne_quote {c : Char} (separator : IsSeparator c) : c ≠ '\'' := by
  rintro rfl
  rcases separator with space | mark
  · cases space
  · revert mark
    decide

theorem IsSeparator.startsToken {c : Char} (separator : IsSeparator c) (inside : Bool) :
    (Place.mk inside (some c)).startsToken = true := by
  rcases separator with space | mark
  · exact Place.startsToken_of_space (by simpa using space)
  · have starts : ∀ mark ∈ comparisonMarks, (Place.mk inside (some mark)).startsToken = true :=
      List.all_eq_true.1 (by cases inside <;> rfl)
    exact starts c mark

theorem startsToken_after {stretch : List Char} (separators : ∀ c ∈ stretch, IsSeparator c)
    (nonempty : stretch ≠ []) (place : Place) : (place.after stretch).startsToken = true := by
  have last := separators _ (List.getLast_mem nonempty)
  have previous := place.previous_after stretch
  rw [List.getLast?_eq_some_getLast nonempty, Option.some_or] at previous
  cases here : place.after stretch with
  | mk inside found =>
    rw [here] at previous
    obtain rfl : found = _ := previous
    exact last.startsToken inside

theorem isSeparator_of_token {operator : Operator} (comparison : operator ≠ .like) :
    ∀ c ∈ operator.token.toList, IsSeparator c := by
  have marks : ∀ c ∈ operator.token.toList, comparisonMarks.contains c = true := by
    cases operator <;> first
    | exact absurd rfl comparison
    | exact List.all_eq_true.1 rfl
  exact fun c member => .inr (List.contains_iff_mem.1 (marks c member))

theorem isSeparator_of_gap {gap : List Char} (run : IsGap gap) : ∀ c ∈ gap, IsSeparator c :=
  fun c member => .inl (run c member)

namespace LiteralText

variable {value literal : List Char}

theorem trimmed (text : LiteralText value literal) : Trimmed literal ∧ literal ≠ [] := by
  cases text with
  | quoted =>
    have quote : Trimmed ['\''] := trimmed_of_all rfl
    exact ⟨trimmed_between quote quote (by simp) (by simp) _, by simp⟩
  | bare word => exact ⟨word.trimmed, word.nonempty⟩

theorem stripQuotes_eq (text : LiteralText value literal) : stripQuotes literal = value := by
  cases text with
  | quoted => exact stripQuotes_quoted value
  | bare word =>
    unfold stripQuotes
    split
    · exact absurd List.mem_cons_self word.no_quote
    · rfl

theorem head_ne (text : LiteralText value literal) : ∀ c ∈ literal.head?, c ≠ '=' := by
  intro c first
  cases text with
  | quoted =>
    cases first
    decide
  | bare word =>
    rintro rfl
    exact (word.solid _ (List.mem_of_head? first)).2.2 (by decide)

theorem passes (text : LiteralText value literal) (free : '\'' ∉ value)
    (within : ∀ keyword ∈ words, keyword ∈ conditionWords) (outside : place.inside = false)
    (starts : place.startsToken = true) (stop : ∀ c ∈ rest.head?, c.isAlpha = false) :
    Passes (singles words) place literal rest ∧ (place.after literal).inside = false := by
  cases text with
  | quoted => exact passes_literal outside starts free
  | bare word => exact ⟨word.passes within stop, (Place.after_inside free place).trans outside⟩

end LiteralText

/-- What may stand between a field and its literal: it ends the word before it and lets a token
start behind it, and a search for the words passes over it. -/
structure Bridge (words : List String) (middle : List Char) : Prop where
  stop : ∀ rest, ∀ c ∈ (middle ++ rest).head?, c.isAlpha = false
  no_quote : '\'' ∉ middle
  starts : ∀ place : Place, (place.after middle).startsToken = true
  passes : ∀ place rest, Passes (singles words) place middle rest

theorem head?_of_separators {stretch : List Char} (separators : ∀ c ∈ stretch, IsSeparator c)
    (nonempty : stretch ≠ []) (rest : List Char) :
    ∀ c ∈ (stretch ++ rest).head?, c.isAlpha = false := by
  obtain ⟨first, more, rfl⟩ := List.exists_cons_of_ne_nil nonempty
  rintro c ⟨⟩
  exact (separators _ List.mem_cons_self).isAlpha_eq

theorem bridge_comparison {before after : List Char} {operator : Operator}
    (within : ∀ word ∈ words, word ∈ conditionWords) (comparison : operator ≠ .like)
    (gaps : IsGap before ∧ IsGap after) :
    Bridge words (before ++ operator.token.toList ++ after) := by
  have separators : ∀ c ∈ before ++ operator.token.toList ++ after, IsSeparator c := by
    rw [List.forall_mem_append, List.forall_mem_append]
    exact ⟨⟨isSeparator_of_gap gaps.1, isSeparator_of_token comparison⟩, isSeparator_of_gap gaps.2⟩
  have nonempty : before ++ operator.token.toList ++ after ≠ [] := by
    have token : operator.token.toList ≠ [] := by cases operator <;> decide
    simp [token]
  exact {
    stop := head?_of_separators separators nonempty
    no_quote := fun quote => (separators _ quote).ne_quote rfl
    starts := startsToken_after separators nonempty
    passes := fun place rest =>
      passes_unlettered (lettered_singles (lettered_of_conditionWords within))
        fun c member => (separators c member).isAlpha_eq }

theorem bridge_like {before word after : List Char}
    (within : ∀ keyword ∈ words, keyword ∈ conditionWords) (apart : "LIKE" ∉ words)
    (spelled : sameLetters "LIKE".toList word = true) (gaps : IsGap before ∧ IsGap after)
    (nonempty : before ≠ [] ∧ after ≠ []) : Bridge words (before ++ word ++ after) := by
  have like : Phrase.Lettered ["LIKE"] := by decide
  have solid := solid_of_sameLetters like spelled
  have free := no_quote_of_sameLetters like spelled
  have other : ∀ keyword ∈ words, sameLetters keyword.toList "LIKE".toList = false := by
    intro keyword listed
    apply Bool.eq_false_iff.2
    intro equal
    have remaining : ∀ keyword ∈ conditionWords,
        sameLetters keyword.toList "LIKE".toList = true → keyword = "LIKE" := by decide
    exact apart (remaining keyword (within keyword listed) equal ▸ listed)
  have lettered := lettered_of_conditionWords within
  constructor
  · intro rest
    rw [List.append_assoc, List.append_assoc]
    exact head?_of_separators (isSeparator_of_gap gaps.1) nonempty.1 _
  · rw [List.mem_append, List.mem_append, not_or, not_or]
    exact ⟨⟨gaps.1.no_quote, free⟩, gaps.2.no_quote⟩
  · intro place
    rw [Place.after_append]
    exact startsToken_after (isSeparator_of_gap gaps.2) nonempty.2 _
  · intro place rest
    rw [passes_append_iff, passes_append_iff]
    refine ⟨⟨?_, passes_solid solid fun _ => ?_⟩, ?_⟩
    · exact passes_unlettered (lettered_singles lettered) gaps.1.unlettered
    · exact matchAny?_other lettered like spelled other
        (head?_of_separators (isSeparator_of_gap gaps.2) nonempty.2 rest)
    · exact passes_unlettered (lettered_singles lettered) gaps.2.unlettered

namespace ConditionText

variable {condition : Condition} {text : List Char}

theorem exists_parts (spelled : ConditionText condition text) :
    ∃ middle literal, text = condition.field.toList ++ middle ++ literal ∧
      LiteralText condition.value.toList literal ∧
      ∀ words : List String, (∀ keyword ∈ words, keyword ∈ conditionWords) →
        (condition.operator = .like → "LIKE" ∉ words) → Bridge words middle := by
  cases spelled with
  | comparison operator gaps value =>
    exact ⟨_, _, rfl, value, fun words within _ => bridge_comparison within operator gaps⟩
  | like operator spelled gaps nonempty value =>
    exact ⟨_, _, rfl, value,
      fun words within apart => bridge_like within (apart operator) spelled gaps nonempty⟩

theorem trimmed (spelled : ConditionText condition text) (writable : condition.Writable) :
    Trimmed text := by
  obtain ⟨middle, literal, rfl, value, -⟩ := spelled.exists_parts
  exact trimmed_between writable.field.trimmed value.trimmed.1 writable.field.nonempty
    value.trimmed.2 middle

theorem passes (spelled : ConditionText condition text) (writable : condition.Writable)
    (within : ∀ keyword ∈ words, keyword ∈ conditionWords)
    (apart : condition.operator = .like → "LIKE" ∉ words) (outside : place.inside = false)
    (stop : ∀ c ∈ rest.head?, c.isAlpha = false) :
    Passes (singles words) place text rest ∧ (place.after text).inside = false := by
  obtain ⟨middle, literal, rfl, value, bridges⟩ := spelled.exists_parts
  have bridge := bridges words within apart
  have still : (place.after (condition.field.toList ++ middle)).inside = false := by
    rw [Place.after_append, Place.after_inside bridge.no_quote,
      Place.after_inside writable.field.no_quote, outside]
  rw [Place.after_append] at still
  obtain ⟨literally, closed⟩ := value.passes writable.value within still (bridge.starts _) stop
  rw [passes_append_iff, passes_append_iff, Place.after_append, Place.after_append,
    Place.after_append]
  exact ⟨⟨⟨writable.field.passes within (bridge.stop _), bridge.passes _ _⟩, literally⟩, closed⟩

theorem cutAtOperator?_comparison {before after literal : List Char} (writable : condition.Writable)
    (operator : condition.operator ≠ .like) (gaps : IsGap before ∧ IsGap after)
    (value : LiteralText condition.value.toList literal) :
    cutAtOperator? (condition.field.toList ++
        (before ++ condition.operator.token.toList ++ after) ++ literal) =
      some (condition.field.toList ++ before, condition.operator, after ++ literal) := by
  have passes : Passes (singles ["LIKE"]) .start (condition.field.toList ++
      (before ++ condition.operator.token.toList ++ after) ++ literal) [] :=
    ((ConditionText.comparison operator gaps value).passes writable (by decide)
      (fun like => absurd like operator) rfl (by simp)).1
  have likeless := findPhrase?_eq_none_iff.2 (passes_iff_findFrom?.1 passes)
  -- Neither the field nor white space holds a mark, so no comparison stands further left.
  have unmarked : ∀ c ∈ condition.field.toList ++ before, c ∉ comparisonMarks := by
    have solid : ∀ mark ∈ comparisonMarks, (!isSpace mark) = true := List.all_eq_true.1 rfl
    rw [List.forall_mem_append]
    refine ⟨fun c member => (writable.field.solid c member).2.2, fun c member mark => ?_⟩
    have visible := solid c mark
    rw [gaps.1 c member] at visible
    cases visible
  have outside : (Place.start.after (condition.field.toList ++ before)).inside = false := by
    rw [Place.after_append, Place.after_inside gaps.1.no_quote,
      Place.after_inside writable.field.no_quote]
    rfl
  have stop : ∀ c ∈ (after ++ literal).head?, c ≠ '=' := by
    cases after with
    | nil => exact value.head_ne
    | cons c after =>
      rintro _ ⟨⟩ rfl
      cases gaps.2 _ List.mem_cons_self
  have cut := cutAtComparison?_unmarked unmarked .start
    (condition.operator.token.toList ++ (after ++ literal))
  rw [cutAtComparison?_token_append operator outside stop] at cut
  rw [cutAtOperator?_comparison_iff operator, cutAtLike?, likeless]
  exact ⟨rfl, by simpa [List.append_assoc] using cut⟩

theorem cutAtOperator?_like {before word after literal : List Char} (writable : condition.Writable)
    (same : sameLetters "LIKE".toList word = true) (gaps : IsGap before ∧ IsGap after)
    (nonempty : before ≠ [] ∧ after ≠ []) :
    cutAtOperator? (condition.field.toList ++ (before ++ word ++ after) ++ literal) =
      some (condition.field.toList ++ before, .like, after ++ literal) := by
  have ends := gaps.2.endsKeyword_append nonempty.2 literal
  have front : Passes (singles ["LIKE"]) .start condition.field.toList
      (before ++ (word ++ (after ++ literal))) :=
    writable.field.passes (by decide)
      (head?_of_separators (isSeparator_of_gap gaps.1) nonempty.1 _)
  have closed : Closed condition.field.toList := Place.after_inside writable.field.no_quote _
  have found := front.findPhrase?_eq closed gaps.1 nonempty.1 (by decide) same ends
  have whole : condition.field.toList ++ (before ++ word ++ after) ++ literal =
      condition.field.toList ++ (before ++ (word ++ (after ++ literal))) := by simp
  rw [cutAtOperator?_like_iff, cutAtLike?_eq_some_iff, whole]
  exact ⟨_, found, by simp [nonempty.2], rfl, rfl⟩

theorem condition?_eq (spelled : ConditionText condition text) (writable : condition.Writable) :
    condition? text = some condition := by
  have parts : ∃ before after literal, IsGap before ∧ IsGap after ∧
      LiteralText condition.value.toList literal ∧ cutAtOperator? text =
        some (condition.field.toList ++ before, condition.operator, after ++ literal) := by
    cases spelled with
    | comparison operator gaps value =>
      exact ⟨_, _, _, gaps.1, gaps.2, value, cutAtOperator?_comparison writable operator gaps value⟩
    | like operator same gaps nonempty value =>
      rw [operator]
      exact ⟨_, _, _, gaps.1, gaps.2, value, cutAtOperator?_like writable same gaps nonempty⟩
  obtain ⟨before, after, literal, lead, trail, value, cut⟩ := parts
  have field : trim ([] ++ condition.field.toList ++ before) = condition.field.toList :=
    writable.field.trimmed.trim_around (by simp) lead.blank
  have literal_eq : trim (after ++ literal ++ []) = literal :=
    value.trimmed.1.trim_around trail.blank (by simp)
  rw [List.nil_append] at field
  rw [List.append_nil] at literal_eq
  refine condition?_eq_some_iff.2 ⟨_, _, cut, ?_, fun _ => ?_, ?_, ?_⟩
  · simpa [field] using writable.field.nonempty
  · simpa [literal_eq] using value.trimmed.2
  · rw [field, String.ofList_toList]
  · rw [literal_eq, value.stripQuotes_eq, String.ofList_toList]

end ConditionText

theorem FilterText.reads {conditions : List Condition} {text lead : List Char}
    (spelled : FilterText conditions text)
    (writable : ∀ condition ∈ conditions, condition.Writable) (run : IsGap lead) :
    List.Forall₂ Reads (separate connectives (lead ++ text)) conditions := by
  have lettered : ∀ word ∈ ["AND", "OR"], Phrase.Lettered [word] := by decide
  -- Behind a connective the lead is white space, in front of the first condition it may be empty.
  have leads : ∀ {lead text rest condition}, IsGap lead → ConditionText condition text →
      condition.Writable → (∀ c ∈ rest.head?, c.isAlpha = false) →
      Passes connectives .start (lead ++ text) rest ∧ Closed (lead ++ text) := by
    intro lead text rest condition run first writable stop
    have outside : (Place.start.after lead).inside = false := Place.after_inside run.no_quote _
    have parts : Passes (singles ["AND", "OR"]) (Place.start.after lead) text rest ∧
        ((Place.start.after lead).after text).inside = false :=
      first.passes writable (by decide) (fun _ => by decide) outside stop
    obtain ⟨passes, closed⟩ := parts
    rw [passes_append_iff, Closed, Place.after_append]
    exact ⟨⟨passes_unlettered (lettered_singles lettered) run.unlettered, passes⟩, closed⟩
  induction spelled generalizing lead with
  | last first =>
    have here := writable _ List.mem_cons_self
    have around : trim (lead ++ _ ++ []) = _ := (first.trimmed here).trim_around run.blank (by simp)
    rw [List.append_nil] at around
    rw [reads_last_iff, around]
    exact ⟨passes_iff_findFrom?.1 (leads run first here (by simp)).1, first.condition?_eq here⟩
  | @more condition conditions text before word after rest first gaps nonempty connective later
      ih =>
    rw [List.forall_mem_cons] at writable
    obtain ⟨keyword, listed, same⟩ := connective
    have ends := gaps.2.endsKeyword_append nonempty.2 rest
    have filled : word ≠ [] := by
      rintro rfl
      revert same listed
      decide +revert
    have stop :=
      head?_of_separators (isSeparator_of_gap gaps.1) nonempty.1 (word ++ (after ++ rest))
    obtain ⟨passes, closed⟩ := leads run first writable.1 stop
    have found := passes.find?_eq closed gaps.1 nonempty.1 (lettered_singles lettered) filled
      (matchAny?_spelled lettered listed same ends)
    have around := (first.trimmed writable.1).trim_around run.blank gaps.1.blank
    have whole : lead ++ (text ++ before ++ word ++ after ++ rest) =
        lead ++ text ++ (before ++ (word ++ (after ++ rest))) := by simp
    rw [whole, separate_of_some found, List.forall₂_cons, Reads, trim_trim, around]
    exact ⟨first.condition?_eq writable.1, ih writable.2 gaps.2⟩

/-- Conditions are read back from every way to write them, in written order. -/
theorem readConditions_of_filterText {conditions : List Condition} {text : List Char}
    (spelled : FilterText conditions text)
    (writable : ∀ condition ∈ conditions, condition.Writable) :
    readConditions text = .ok conditions :=
  have nothing : IsGap [] := nofun
  readConditions_eq_ok_iff.2 (spelled.reads writable nothing)

instance (word : List Char) : Decidable (IsBareWord word) :=
  decidable_of_iff (word ≠ [] ∧
      (word.all fun c => !isBlank c && c != '\'' && !comparisonMarks.contains c) = true ∧
      ∀ keyword ∈ conditionWords, sameLetters keyword.toList word = false)
    ⟨fun parts => ⟨parts.1, by simpa [and_assoc] using parts.2.1, parts.2.2⟩,
      fun bare => ⟨bare.nonempty, by simpa [and_assoc] using bare.solid, bare.other⟩⟩

instance (condition : Condition) : Decidable condition.Writable :=
  decidable_of_iff (IsBareWord condition.field.toList ∧ '\'' ∉ condition.value.toList)
    ⟨fun parts => ⟨parts.1, parts.2⟩, fun writable => ⟨writable.field, writable.value⟩⟩

def disguisedConditions : List Condition :=
  [⟨"a", .atLeast, "x AND b = 1"⟩, ⟨"note", .like, "%like or %"⟩, ⟨"c", .equal, "3"⟩]

def disguisedText : String :=
  "a>='x AND b = 1' or\tnote lIkE  '%like or %'\nAnD c =3"

theorem disguised_filterText : FilterText disguisedConditions disguisedText.toList := by
  have first : ConditionText ⟨"a", .atLeast, "x AND b = 1"⟩ "a>='x AND b = 1'".toList :=
    .comparison (by decide) ⟨(by decide : IsGap []), (by decide : IsGap [])⟩ .quoted
  have second : ConditionText ⟨"note", .like, "%like or %"⟩ "note lIkE  '%like or %'".toList :=
    .like rfl (by decide : sameLetters "LIKE".toList "lIkE".toList = true)
      ⟨(by decide : IsGap [' ']), (by decide : IsGap [' ', ' '])⟩ (by decide) .quoted
  have third : ConditionText ⟨"c", .equal, "3"⟩ "c =3".toList :=
    .comparison (by decide) ⟨(by decide : IsGap [' ']), (by decide : IsGap [])⟩ (.bare (by decide))
  exact .more first ⟨(by decide : IsGap [' ']), (by decide : IsGap ['\t'])⟩ (by decide)
    ⟨"OR", by decide, (by decide : sameLetters "OR".toList "or".toList = true)⟩
    (.more second ⟨(by decide : IsGap ['\n']), (by decide : IsGap [' '])⟩ (by decide)
      ⟨"AND", by decide, (by decide : sameLetters "AND".toList "AnD".toList = true)⟩ (.last third))

theorem readConditions_of_disguised_text :
    FilterText disguisedConditions disguisedText.toList ∧
      (∀ condition ∈ disguisedConditions, condition.Writable) ∧
      readConditions disguisedText.toList = .ok disguisedConditions :=
  ⟨disguised_filterText, by decide,
    readConditions_of_filterText disguised_filterText (by decide)⟩

end TableQuery
