import TableQuery.Proofs.Query.Heading

/-! Stretches of text that a keyword search passes over.

In such a stretch no keyword begins. Stretches are put together at any character, so what passes is
shown piece by piece: white space and operators, words that are no keywords, literals.
-/

set_option autoImplicit false

namespace TableQuery.Query

open Text

variable {Meaning : Type} {keywords : List (Keyword Meaning)} {words : List String}
  {place : Place} {stretch rest : List Char}

def singles (words : List String) : List (Keyword Unit) :=
  words.map fun word => ⟨(), [word]⟩

theorem lettered_singles (lettered : ∀ word ∈ words, Phrase.Lettered [word]) :
    ∀ keyword ∈ singles words, keyword.phrase.Lettered := by
  intro keyword member
  obtain ⟨word, listed, rfl⟩ := List.mem_map.1 member
  exact lettered word listed

def Begin (keywords : List (Keyword Meaning)) (words : List String) : Prop :=
  ∀ keyword ∈ keywords, ∃ word ∈ words, keyword.phrase.head? = some word

theorem matchPhrase?_first {word : String} {phrase : Phrase} {text : List Char}
    (first : phrase.head? = some word) (absent : matchPhrase? [word] text = none) :
    matchPhrase? phrase text = none := by
  apply Option.eq_none_iff_forall_not_mem.2
  intro split found
  have nowhere : ∀ written rest, matchWord? word.toList text = some (written, rest) →
      endsKeyword rest ≠ true := by
    intro written rest matched ends
    rw [matchPhrase?_singleton_iff.2 ⟨matched, ends⟩] at absent
    cases absent
  rw [Option.mem_def] at found
  cases phrase with
  | nil => cases first
  | cons other more =>
    cases first
    cases more with
    | nil =>
      rw [absent] at found
      cases found
    | cons following more =>
      rw [matchPhrase?] at found
      split at found
      · rename_i written rest matched
        -- White space separates the words of a phrase.
        cases rest with
        | nil => exact nowhere _ _ matched rfl
        | cons c rest =>
          have solid : isSpace c = false := Bool.eq_false_iff.2 (nowhere _ _ matched)
          simp [solid] at found
      · cases found

def IsGap (text : List Char) : Prop :=
  ∀ c ∈ text, isSpace c = true

instance (text : List Char) : Decidable (IsGap text) :=
  decidable_of_iff (text.all isSpace = true) List.all_eq_true

theorem IsGap.blank {gap : List Char} (run : IsGap gap) : ∀ c ∈ gap, isBlank c = true :=
  fun c member => isBlank_of_isSpace (run c member)

theorem IsGap.unlettered {gap : List Char} (run : IsGap gap) : ∀ c ∈ gap, c.isAlpha = false :=
  fun c member => not_isAlpha_of_isSpace (run c member)

theorem IsGap.endsKeyword_append {gap : List Char} (run : IsGap gap) (nonempty : gap ≠ [])
    (text : List Char) : endsKeyword (gap ++ text) = true := by
  obtain ⟨c, more, rfl⟩ := List.exists_cons_of_ne_nil nonempty
  exact run c List.mem_cons_self

theorem IsGap.no_quote {gap : List Char} (run : IsGap gap) : '\'' ∉ gap := by
  intro quote
  cases run _ quote

theorem IsGap.takeWhile_append {gap text : List Char} (run : IsGap gap)
    (stop : ∀ c ∈ text.head?, isSpace c = false) : (gap ++ text).takeWhile isSpace = gap := by
  rw [List.takeWhile_append_of_pos run]
  cases text with
  | nil => simp
  | cons c text => rw [List.takeWhile_cons_of_neg (by simp [stop c rfl]), List.append_nil]

theorem IsGap.dropWhile_append {gap text : List Char} (run : IsGap gap)
    (stop : ∀ c ∈ text.head?, isSpace c = false) : (gap ++ text).dropWhile isSpace = text := by
  rw [List.dropWhile_append_of_pos run]
  cases text with
  | nil => rfl
  | cons c text => rw [List.dropWhile_cons_of_neg (by simp [stop c rfl])]

theorem sameLetters_trans {first second third : List Char} (left : sameLetters first third = true)
    (right : sameLetters second third = true) : sameLetters first second = true := by
  rw [sameLetters, beq_iff_eq] at *
  exact left.trans right.symm

namespace Place

theorem previous_after (place : Place) (text : List Char) :
    (place.after text).previous = text.getLast?.or place.previous := by
  induction text generalizing place with
  | nil => rfl
  | cons c text ih =>
    rw [after_cons, ih, List.getLast?_cons]
    cases text.getLast? <;> rfl

theorem previous_after_gap {gap : List Char} (run : IsGap gap) (nonempty : gap ≠ [])
    (place : Place) : (place.after gap).previous.any isSpace = true := by
  rw [previous_after, List.getLast?_eq_some_getLast nonempty]
  exact run _ (List.getLast_mem nonempty)

theorem startsToken_of_space {place : Place} (space : place.previous.any isSpace = true) :
    place.startsToken = true := by
  obtain ⟨inside, previous⟩ := place
  cases previous with
  | none => cases space
  | some c =>
    have blank : isSpace c = true := space
    simp [startsToken, blank]

theorem admitsKeyword_of_ne {place : Place} {c : Char} (plain : c ≠ '\'') :
    place.admitsKeyword c = (!place.inside && place.previous.any isSpace) := by
  simp [admitsKeyword, isPlain, toggles, beq_false_of_ne plain]

/-- What a character does depends only on whether a literal is open and whether a token starts. -/
theorem next_congr {place other : Place} (inside : place.inside = other.inside)
    (starts : place.startsToken = other.startsToken) (c : Char) : place.next c = other.next c := by
  rw [next, next, toggles, toggles, inside, starts]

theorem inside_after_congr {place other : Place} (inside : place.inside = other.inside)
    (starts : place.startsToken = other.startsToken) (text : List Char) :
    (place.after text).inside = (other.after text).inside := by
  cases text with
  | nil => exact inside
  | cons c text => rw [after_cons, after_cons, next_congr inside starts]

theorem previous_of_admitsKeyword {place : Place} {c : Char}
    (admitted : place.admitsKeyword c = true) : place.previous.any isSpace = true := by
  rw [admitsKeyword, Bool.and_eq_true] at admitted
  exact admitted.2

end Place

/-- No keyword begins in the stretch when `rest` follows it. -/
def Passes (keywords : List (Keyword Meaning)) : Place → List Char → List Char → Prop
  | _, [], _ => True
  | place, c :: stretch, rest =>
    (place.admitsKeyword c = true → matchAny? keywords (c :: (stretch ++ rest)) = none) ∧
      Passes keywords (place.next c) stretch rest

theorem passes_append_iff {second : List Char} :
    Passes keywords place (stretch ++ second) rest ↔
      Passes keywords place stretch (second ++ rest) ∧
        Passes keywords (place.after stretch) second rest := by
  induction stretch generalizing place with
  | nil => simp [Passes]
  | cons c stretch ih => simp [Passes, ih, and_assoc]

theorem Passes.findFrom?_eq (passes : Passes keywords place stretch rest) :
    findFrom? keywords 0 place (stretch ++ rest) =
      (findFrom? keywords 0 (place.after stretch) rest).map fun found =>
        (found.1, found.2.prepend stretch) := by
  induction stretch generalizing place with
  | nil => simp [Cut.prepend]
  | cons c stretch ih =>
    obtain ⟨here, later⟩ := passes
    have silent : (if place.admitsKeyword c then matchAny? keywords (c :: (stretch ++ rest))
        else none) = none := ite_eq_right_iff.2 here
    rw [List.cons_append, findFrom?_cons, silent, ih later, Place.after_cons, Option.map_map]
    rfl

theorem passes_iff_findFrom? :
    Passes keywords place stretch [] ↔ findFrom? keywords 0 place stretch = none := by
  induction stretch generalizing place with
  | nil => simp [Passes, findFrom?]
  | cons c stretch ih =>
    rw [Passes, ih, findFrom?_cons, List.append_nil]
    by_cases admitted : place.admitsKeyword c = true
    · rw [if_pos admitted]
      cases matchAny? keywords (c :: stretch) <;> simp [admitted]
    · simp [admitted]

/-- A sealed suffix adds no keyword to a text without one. -/
theorem passes_of_sealed (border : Sealed keywords rest)
    (absent : findFrom? keywords 0 place stretch = none) : Passes keywords place stretch rest := by
  rw [← passes_iff_findFrom?] at absent
  induction stretch generalizing place with
  | nil => trivial
  | cons c stretch ih =>
    obtain ⟨here, later⟩ := absent
    refine ⟨fun admitted => ?_, ih later⟩
    have alone := here admitted
    rw [List.append_nil] at alone
    rw [← List.cons_append, matchAny?_append_right border, alone]
    rfl

/-- Nothing more begins in a text than behind white space. -/
theorem Passes.of_space (passes : Passes keywords (Place.start.next ' ') stretch rest)
    (outside : place.inside = false) (starts : place.startsToken = true) :
    Passes keywords place stretch rest := by
  cases stretch with
  | nil => trivial
  | cons c stretch =>
    obtain ⟨here, later⟩ := passes
    have same : place.next c = (Place.start.next ' ').next c := Place.next_congr outside starts c
    refine ⟨fun admitted => here ?_, same ▸ later⟩
    have plain : c ≠ '\'' := by
      rintro rfl
      simp [Place.admitsKeyword, Place.isPlain, Place.toggles, starts] at admitted
    rw [Place.admitsKeyword_of_ne plain]
    rfl

theorem Passes.of_singles (begins : Begin keywords words)
    (passes : Passes (singles words) place stretch rest) : Passes keywords place stretch rest := by
  induction stretch generalizing place with
  | nil => trivial
  | cons c stretch ih =>
    obtain ⟨here, later⟩ := passes
    refine ⟨fun admitted => matchAny?_eq_none_iff.2 fun keyword member => ?_, ih later⟩
    obtain ⟨word, listed, first⟩ := begins keyword member
    exact matchPhrase?_first first
      (matchAny?_eq_none_iff.1 (here admitted) _ (List.mem_map_of_mem listed))

/-! Which stretches pass. -/

theorem passes_unlettered (lettered : ∀ keyword ∈ keywords, keyword.phrase.Lettered)
    (plain : ∀ c ∈ stretch, c.isAlpha = false) : Passes keywords place stretch rest := by
  induction stretch generalizing place with
  | nil => trivial
  | cons c stretch ih =>
    rw [List.forall_mem_cons] at plain
    exact ⟨fun _ => matchAny?_unlettered lettered plain.1, ih plain.2⟩

/-- Behind its first character no keyword can begin in a word. -/
theorem passes_solid (solid : ∀ c ∈ stretch, isSpace c = false)
    (first : place.previous.any isSpace = true → matchAny? keywords (stretch ++ rest) = none) :
    Passes keywords place stretch rest := by
  induction stretch generalizing place with
  | nil => trivial
  | cons c stretch ih =>
    rw [List.forall_mem_cons] at solid
    refine ⟨fun admitted => first (Place.previous_of_admitsKeyword admitted), ih solid.2 ?_⟩
    intro space
    rw [Place.next, Option.any_some, solid.1] at space
    cases space

theorem matchAny?_word (lettered : ∀ word ∈ words, Phrase.Lettered [word])
    (solid : ∀ c ∈ stretch, isSpace c = false)
    (other : ∀ word ∈ words, sameLetters word.toList stretch = false)
    (stop : ∀ c ∈ rest.head?, c.isAlpha = false) :
    matchAny? (singles words) (stretch ++ rest) = none := by
  apply matchAny?_eq_none_iff.2
  intro keyword member
  obtain ⟨word, listed, rfl⟩ := List.mem_map.1 member
  apply Option.eq_none_iff_forall_not_mem.2
  rintro ⟨written, after⟩ found
  obtain ⟨spelled, ends⟩ := matchPhrase?_singleton_iff.1 (Option.mem_def.1 found)
  have letters := ((lettered word listed).words word List.mem_cons_self).2
  rw [matchWord?_append_of_stop letters stop] at spelled
  obtain ⟨⟨front, back⟩, matched, same⟩ := Option.map_eq_some_iff.1 spelled
  cases same
  have whole := matchWord?_append matched
  -- White space ends a keyword, so it would be the whole word.
  cases back with
  | cons c back =>
    rw [List.cons_append, endsKeyword, solid c (by simp [← whole])] at ends
    cases ends
  | nil =>
    have apart := other word listed
    rw [List.append_nil] at whole
    rw [← whole, sameLetters, matchWord?_sameLetters matched, beq_self_eq_true] at apart
    cases apart

theorem passes_word (lettered : ∀ word ∈ words, Phrase.Lettered [word])
    (solid : ∀ c ∈ stretch, isSpace c = false)
    (other : ∀ word ∈ words, sameLetters word.toList stretch = false)
    (stop : ∀ c ∈ rest.head?, c.isAlpha = false) : Passes (singles words) place stretch rest :=
  passes_solid solid fun _ => matchAny?_word lettered solid other stop

theorem solid_of_sameLetters {word : String} {text : List Char} (lettered : Phrase.Lettered [word])
    (same : sameLetters word.toList text = true) : ∀ c ∈ text, isSpace c = false := by
  rw [sameLetters, beq_iff_eq] at same
  exact not_space_of_sameLetters (lettered.words word List.mem_cons_self).2 same.symm

theorem no_quote_of_sameLetters {word : String} {text : List Char}
    (lettered : Phrase.Lettered [word]) (same : sameLetters word.toList text = true) :
    '\'' ∉ text := by
  intro quote
  have lowered : '\''.toLower ∈ text.map Char.toLower := List.mem_map_of_mem quote
  rw [sameLetters, beq_iff_eq] at same
  rw [← same] at lowered
  obtain ⟨letter, member, equal⟩ := List.mem_map.1 lowered
  have alpha := (lettered.words word List.mem_cons_self).2 letter member
  exact toLower_ne_of_not_isAlpha rfl alpha equal.symm

theorem matchAny?_other {word : String} {text : List Char}
    (keys : ∀ key ∈ words, Phrase.Lettered [key]) (lettered : Phrase.Lettered [word])
    (same : sameLetters word.toList text = true)
    (apart : ∀ key ∈ words, sameLetters key.toList word.toList = false)
    (stop : ∀ c ∈ rest.head?, c.isAlpha = false) :
    matchAny? (singles words) (text ++ rest) = none := by
  refine matchAny?_word keys (solid_of_sameLetters lettered same) (fun key listed => ?_) stop
  apply Bool.eq_false_iff.2
  intro equal
  have other := apart key listed
  rw [sameLetters_trans equal same] at other
  cases other

theorem matchWord?_of_sameLetters {word written : List Char}
    (same : sameLetters word written = true) (tail : List Char) :
    matchWord? word (written ++ tail) = some (written, tail) := by
  rw [sameLetters, beq_iff_eq] at same
  induction word generalizing written with
  | nil =>
    obtain rfl := List.map_eq_nil_iff.1 same.symm
    rfl
  | cons letter word ih =>
    obtain ⟨c, more, rfl, equal, later⟩ := List.map_eq_cons_iff.1 same.symm
    rw [List.cons_append, matchWord?, if_pos equal, ih later.symm]
    rfl

theorem matchAny?_spelled {word : String} {written : List Char}
    (lettered : ∀ word ∈ words, Phrase.Lettered [word]) (listed : word ∈ words)
    (same : sameLetters word.toList written = true) (ends : endsKeyword rest = true) :
    matchAny? (singles words) (written ++ rest) = some ((), written, rest) := by
  have solid := solid_of_sameLetters (lettered word listed) same
  have stop := head?_of_endsKeyword ends
  -- The words are tried in turn, and one that is not spelled here does not match.
  induction words with
  | nil => cases listed
  | cons other words ih =>
    rw [List.forall_mem_cons] at lettered
    cases here : sameLetters other.toList written with
    | true =>
      have found := matchPhrase?_singleton_iff.2 ⟨matchWord?_of_sameLetters here rest, ends⟩
      rw [singles, List.map_cons, matchAny?, found]
    | false =>
      have elsewhere : word ∈ words := by
        rcases List.mem_cons.1 listed with rfl | listed
        · rw [same] at here
          cases here
        · exact listed
      have alone : matchAny? (singles [other]) (written ++ rest) = none :=
        matchAny?_word (by simpa using lettered.1) solid (by simpa using here) stop
      have absent : matchPhrase? [other] (written ++ rest) = none :=
        matchAny?_eq_none_iff.1 alone _ List.mem_cons_self
      rw [singles, List.map_cons, matchAny?, absent]
      exact ih lettered.2 elsewhere

theorem passes_inside (inside : place.inside = true) (free : '\'' ∉ stretch) :
    Passes keywords place stretch rest := by
  induction stretch generalizing place with
  | nil => trivial
  | cons c stretch ih =>
    rw [List.mem_cons, not_or] at free
    refine ⟨fun admitted => ?_, ih ((Place.next_inside (Ne.symm free.1) place).trans inside) free.2⟩
    rw [Place.admitsKeyword_of_inside inside] at admitted
    cases admitted

/-- A literal opens at the start of a token and closes behind its value, whatever that holds. -/
theorem passes_literal {value : List Char} (outside : place.inside = false)
    (starts : place.startsToken = true) (free : '\'' ∉ value) :
    Passes keywords place ('\'' :: value ++ ['\'']) rest ∧
      (place.after ('\'' :: value ++ ['\''])).inside = false := by
  have opens : place.toggles '\'' = true := by simp [Place.toggles, starts]
  have inside : (place.next '\'').inside = true := by simp [Place.next, opens, outside]
  have still := (Place.after_inside free (place.next '\'')).trans inside
  rw [List.cons_append, Passes, passes_append_iff]
  refine ⟨⟨fun admitted => ?_, passes_inside inside free, fun admitted => ?_, trivial⟩, ?_⟩
  · simp [Place.admitsKeyword, Place.isPlain, opens] at admitted
  · rw [Place.admitsKeyword_of_inside still] at admitted
    cases admitted
  · rw [Place.after_cons, Place.after_append, Place.after_cons, Place.after_nil, Place.next,
      Place.toggles, still]
    rfl

theorem Passes.find?_eq {gap written tail : List Char} {meaning : Meaning}
    (passes : Passes keywords .start stretch (gap ++ (written ++ tail))) (closed : Closed stretch)
    (run : IsGap gap) (nonempty : gap ≠ [])
    (lettered : ∀ keyword ∈ keywords, keyword.phrase.Lettered) (filled : written ≠ [])
    (matched : matchAny? keywords (written ++ tail) = some (meaning, written, tail)) :
    find? keywords (stretch ++ (gap ++ (written ++ tail))) =
      some (meaning, ⟨stretch ++ gap, written, tail⟩) := by
  obtain ⟨c, more, rfl⟩ := List.exists_cons_of_ne_nil filled
  have low := (matchAny?_head lettered matched).1
  have plain : c ≠ '\'' := by
    rintro rfl
    revert low
    decide
  have blank : Passes keywords (Place.start.after stretch) gap (c :: more ++ tail) :=
    passes_unlettered lettered run.unlettered
  have admitted : ((Place.start.after stretch).after gap).admitsKeyword c = true := by
    rw [Place.admitsKeyword_of_ne plain, Place.after_inside run.no_quote, closed,
      Place.previous_after_gap run nonempty]
    rfl
  rw [List.cons_append] at matched blank passes
  rw [find?, List.cons_append, passes.findFrom?_eq, blank.findFrom?_eq, findFrom?_cons,
    if_pos admitted, matched]
  simp [Cut.prepend]

theorem Passes.findPhrase?_eq {word : String} {gap written tail : List Char}
    (passes : Passes (singles [word]) .start stretch (gap ++ (written ++ tail)))
    (closed : Closed stretch) (run : IsGap gap) (nonempty : gap ≠ [])
    (lettered : Phrase.Lettered [word]) (same : sameLetters word.toList written = true)
    (ends : endsKeyword tail = true) :
    findPhrase? [word] (stretch ++ (gap ++ (written ++ tail))) =
      some ⟨stretch ++ gap, written, tail⟩ := by
  have keys : ∀ key ∈ [word], Phrase.Lettered [key] := List.forall_mem_singleton.2 lettered
  have filled : written ≠ [] := by
    rintro rfl
    rw [sameLetters, beq_iff_eq] at same
    exact (lettered.words word List.mem_cons_self).1 (List.map_eq_nil_iff.1 same)
  exact findPhrase?_eq_some_iff.2 (passes.find?_eq closed run nonempty (lettered_singles keys) filled
    (matchAny?_spelled keys List.mem_cons_self same ends))

end TableQuery.Query
