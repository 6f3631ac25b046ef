import TableQuery.Proofs.Query.Passages
import TableQuery.Proofs.Text.Bytes

/-! Where a phrase stands in a text, said without a search.

`Occurs` is the rule for keywords: outside literals, after white space, and before white space or
the end. A search finds nothing exactly where no phrase occurs. A part cut out of a text can show no
phrase that the text does not show, as long as it is cut at white space.
-/

set_option autoImplicit false

namespace TableQuery.Query

open Text

variable {Meaning : Type} {keywords : List (Keyword Meaning)} {phrase : Phrase}
  {words : List String} {place : Place} {text rest : List Char}

/-- The words of the phrase in any letter case, with white space between them. -/
inductive Spells : Phrase → List Char → Prop
  | last {word : String} {text : List Char} (same : sameLetters word.toList text = true) :
      Spells [word] text
  | more {word next : String} {phrase : Phrase} {text gap rest : List Char}
      (same : sameLetters word.toList text = true) (run : IsGap gap) (nonempty : gap ≠ [])
      (later : Spells (next :: phrase) rest) : Spells (word :: next :: phrase) (text ++ gap ++ rest)

/-- The phrase stands in the text, outside literals, after white space and before white space or the
end. -/
def Occurs (phrase : Phrase) (text : List Char) : Prop :=
  ∃ before written after, text = before ++ written ++ after ∧ Closed before ∧
    before.getLast?.any isSpace = true ∧ Spells phrase written ∧ endsKeyword after = true

theorem sameLetters_of_matchWord? {word written : List Char}
    (found : matchWord? word text = some (written, rest)) : sameLetters word written = true := by
  rw [sameLetters, matchWord?_sameLetters found, beq_self_eq_true]

theorem spells_of_matchPhrase? {written : List Char} (nonempty : phrase ≠ [])
    (found : matchPhrase? phrase text = some (written, rest)) :
    Spells phrase written ∧ endsKeyword rest = true := by
  induction phrase generalizing text written with
  | nil => exact absurd rfl nonempty
  | cons word more ih =>
    cases more with
    | nil =>
      obtain ⟨matched, ends⟩ := matchPhrase?_singleton_iff.1 found
      exact ⟨.last (sameLetters_of_matchWord? matched), ends⟩
    | cons next more =>
      rw [matchPhrase?] at found
      split at found
      · rename_i first behind matched
        dsimp only at found
        split at found
        · cases found
        · rename_i filled
          obtain ⟨⟨later, tail⟩, inner, same⟩ := Option.map_eq_some_iff.1 found
          cases same
          obtain ⟨spelled, ends⟩ := ih (by simp) inner
          exact ⟨.more (sameLetters_of_matchWord? matched) (fun c => List.mem_takeWhile_imp)
            (by simpa using filled) spelled, ends⟩
      · cases found

namespace Spells

variable {written : List Char}

theorem exists_head (spelled : Spells phrase written) (lettered : phrase.Lettered) :
    ∃ word ∈ phrase.head?, ∃ letter ∈ word.toList.head?, ∃ c more,
      written = c :: more ∧ letter.isAlpha = true ∧ c.toLower = letter.toLower := by
  have first : ∀ {word : String} {text : List Char}, word ∈ phrase →
      sameLetters word.toList text = true → ∃ letter ∈ word.toList.head?, ∃ c more,
        text = c :: more ∧ letter.isAlpha = true ∧ c.toLower = letter.toLower := by
    intro word text member same
    obtain ⟨filled, alpha⟩ := lettered.words word member
    obtain ⟨letter, letters, whole⟩ := List.exists_cons_of_ne_nil filled
    rw [sameLetters, beq_iff_eq, whole] at same
    obtain ⟨c, more, rfl, equal, -⟩ := List.map_eq_cons_iff.1 same.symm
    exact ⟨letter, by simp [whole], c, more, rfl, alpha letter (by simp [whole]), equal⟩
  cases spelled with
  | last same => exact ⟨_, rfl, first List.mem_cons_self same⟩
  | more same run nonempty later =>
    obtain ⟨letter, head, c, more, rfl, alpha, equal⟩ := first List.mem_cons_self same
    exact ⟨_, rfl, letter, head, c, _, rfl, alpha, equal⟩

theorem ne_nil (spelled : Spells phrase written) (lettered : phrase.Lettered) : written ≠ [] := by
  obtain ⟨-, -, -, -, c, more, rfl, -⟩ := spelled.exists_head lettered
  simp

theorem head_solid (spelled : Spells phrase written) (lettered : phrase.Lettered) :
    ∀ c ∈ (written ++ rest).head?, isSpace c = false := by
  obtain ⟨-, -, letter, -, c, more, rfl, alpha, equal⟩ := spelled.exists_head lettered
  rintro c ⟨⟩
  apply Bool.eq_false_iff.2
  intro space
  exact toLower_ne_of_isSpace space alpha equal

theorem matchPhrase?_eq (spelled : Spells phrase written) (lettered : phrase.Lettered)
    (ends : endsKeyword rest = true) :
    matchPhrase? phrase (written ++ rest) = some (written, rest) := by
  induction spelled with
  | last same => exact matchPhrase?_singleton_iff.2 ⟨matchWord?_of_sameLetters same rest, ends⟩
  | @more word next phrase text gap later same run nonempty spelled ih =>
    have solid : ∀ c ∈ (later ++ rest).head?, isSpace c = false := spelled.head_solid lettered.tail
    rw [List.append_assoc, List.append_assoc, matchPhrase?, matchWord?_of_sameLetters same]
    simp only [run.takeWhile_append solid, run.dropWhile_append solid, ih lettered.tail,
      List.isEmpty_eq_false_iff.2 nonempty]
    simp

theorem no_quote (spelled : Spells phrase written) (lettered : phrase.Lettered) :
    '\'' ∉ written := by
  induction spelled with
  | last same => exact no_quote_of_sameLetters lettered same
  | more same run nonempty later ih =>
    rw [List.mem_append, List.mem_append, not_or, not_or]
    exact ⟨⟨no_quote_of_sameLetters lettered.first same, run.no_quote⟩, ih lettered.tail⟩

theorem matchAny?_eq_none (spelled : Spells phrase written) (lettered : phrase.Lettered)
    (keys : ∀ key ∈ words, Phrase.Lettered [key])
    (apart : ∀ key ∈ words, ∀ word ∈ phrase.head?, sameLetters key.toList word.toList = false)
    (stop : ∀ c ∈ rest.head?, c.isAlpha = false) :
    matchAny? (singles words) (written ++ rest) = none := by
  cases spelled with
  | last same =>
    exact matchAny?_other keys lettered same (fun key listed => apart key listed _ rfl) stop
  | more same run nonempty later =>
    rw [List.append_assoc, List.append_assoc]
    exact matchAny?_other keys lettered.first same (fun key listed => apart key listed _ rfl)
      (head?_of_endsKeyword (run.endsKeyword_append nonempty _))

theorem passes (spelled : Spells phrase written) (lettered : phrase.Lettered)
    (keys : ∀ key ∈ words, Phrase.Lettered [key])
    (apart : ∀ key ∈ words, ∀ word ∈ phrase, sameLetters key.toList word.toList = false)
    (stop : ∀ c ∈ rest.head?, c.isAlpha = false) : Passes (singles words) place written rest := by
  induction spelled generalizing place with
  | last same =>
    have other := fun key listed => apart key listed _ List.mem_cons_self
    refine passes_solid (solid_of_sameLetters lettered same) fun _ => ?_
    exact matchAny?_other keys lettered same other stop
  | @more word next phrase text gap later same run nonempty spelled ih =>
    have first := lettered.first
    have other := fun key listed => apart key listed _ List.mem_cons_self
    have border : ∀ c ∈ (gap ++ (later ++ rest)).head?, c.isAlpha = false :=
      head?_of_endsKeyword (run.endsKeyword_append nonempty _)
    rw [passes_append_iff, passes_append_iff]
    refine ⟨⟨passes_solid (solid_of_sameLetters first same) fun _ => ?_, ?_⟩, ?_⟩
    · exact matchAny?_other keys first same other border
    · exact passes_unlettered (lettered_singles keys) run.unlettered
    · exact ih lettered.tail fun key listed word member =>
        apart key listed word (List.mem_cons_of_mem _ member)

end Spells

theorem exists_spelled {skip : Nat} {meaning : Meaning} {cut : Cut}
    (nonempty : ∀ keyword ∈ keywords, keyword.phrase ≠ [])
    (found : findFrom? keywords skip .start text = some (meaning, cut)) :
    ∃ keyword ∈ keywords, text = cut.before ++ cut.keyword ++ cut.after ∧ Closed cut.before ∧
      cut.before.getLast?.any isSpace = true ∧ Spells keyword.phrase cut.keyword ∧
      endsKeyword cut.after = true := by
  obtain ⟨matched, c, -, admitted⟩ := findFrom?_found found
  obtain ⟨keyword, member, -, here⟩ := exists_of_matchAny? matched
  have previous := Place.previous_of_admitsKeyword admitted
  rw [Place.previous_after, Place.start, Option.or_none] at previous
  exact ⟨keyword, member, (findFrom?_whole found).1.symm, Place.outside_of_admitsKeyword admitted,
    previous, spells_of_matchPhrase? (nonempty keyword member) here⟩

theorem find?_found {cut : Cut} (nonempty : phrase ≠ [])
    (found : find? [⟨(), phrase⟩] text = some ((), cut)) :
    text = cut.before ++ cut.keyword ++ cut.after ∧ Closed cut.before ∧
      cut.before.getLast?.any isSpace = true ∧ Spells phrase cut.keyword ∧
      endsKeyword cut.after = true := by
  obtain ⟨keyword, member, split⟩ := exists_spelled (by simpa using nonempty) found
  obtain rfl := List.mem_singleton.1 member
  exact split

theorem findFrom?_passes {meaning : Meaning} {cut : Cut}
    (found : findFrom? keywords 0 place text = some (meaning, cut)) :
    Passes keywords place cut.before (cut.keyword ++ cut.after) := by
  induction text generalizing place cut with
  | nil => cases found
  | cons c text ih =>
    rw [findFrom?_cons] at found
    split at found
    · cases found
      trivial
    · rename_i silent
      obtain ⟨⟨other, inner⟩, later, same⟩ := Option.map_eq_some_iff.1 found
      cases same
      have whole : inner.before ++ (inner.keyword ++ inner.after) = text := by
        rw [← List.append_assoc]
        exact (findFrom?_whole later).1
      refine ⟨fun admitted => ?_, ih later⟩
      rw [if_pos admitted, ← whole] at silent
      exact silent

theorem Spells.admitsKeyword {written : List Char} (spelled : Spells phrase written)
    (lettered : phrase.Lettered) (outside : place.inside = false)
    (space : place.previous.any isSpace = true) :
    ∃ c more, written = c :: more ∧ place.admitsKeyword c = true := by
  obtain ⟨_, -, letter, -, c, more, rfl, alpha, equal⟩ := spelled.exists_head lettered
  have plain : c ≠ '\'' := by
    rintro rfl
    have low := (toLower_range alpha).1
    rw [← equal] at low
    revert low
    decide
  refine ⟨c, more, rfl, ?_⟩
  rw [Place.admitsKeyword_of_ne plain, outside, space]
  rfl

theorem Passes.not_occurs (passes : Passes [⟨(), phrase⟩] .start text rest)
    (lettered : phrase.Lettered) (ends : endsKeyword rest = true) : ¬Occurs phrase text := by
  intro occurs
  obtain ⟨before, written, after, rfl, closed, previous, spelled, ends'⟩ := occurs
  have space : (Place.start.after before).previous.any isSpace = true := by
    rw [Place.previous_after, Place.start, Option.or_none, previous]
  obtain ⟨c, more, rfl, admitted⟩ := spelled.admitsKeyword lettered closed space
  have border : endsKeyword (after ++ rest) = true := (endsKeyword_append ends after).trans ends'
  have matched := spelled.matchPhrase?_eq lettered border
  rw [List.append_assoc, List.cons_append, passes_append_iff] at passes
  have silent := passes.2.1 admitted
  rw [List.append_assoc, ← List.cons_append, matchAny?, matched] at silent
  cases silent

theorem exists_findFrom? {skip : Nat} {before written after : List Char}
    (late : skip ≤ (bytes before).length) (lettered : phrase.Lettered)
    (outside : (place.after before).inside = false)
    (space : (place.after before).previous.any isSpace = true) (spelled : Spells phrase written)
    (ends : endsKeyword after = true) :
    ∃ cut, findFrom? [⟨(), phrase⟩] skip place (before ++ (written ++ after)) = some ((), cut) ∧
      cut.before.length ≤ before.length := by
  -- Another keyword may begin earlier, so only a bound is known of the cut.
  induction before generalizing skip place with
  | nil =>
    obtain rfl := Nat.le_zero.1 late
    obtain ⟨c, more, rfl, admitted⟩ := spelled.admitsKeyword lettered outside space
    rw [Place.after_nil] at admitted
    have matched := spelled.matchPhrase?_eq lettered ends
    rw [List.nil_append, List.cons_append, findFrom?_cons, if_pos admitted, ← List.cons_append,
      matchAny?, matched]
    exact ⟨_, rfl, Nat.le_refl _⟩
  | cons c before ih =>
    rw [List.cons_append, findFrom?]
    dsimp only
    split
    · exact ⟨_, rfl, Nat.zero_le _⟩
    · rw [bytes_cons, List.length_append, String.length_utf8EncodeChar] at late
      have later : skip - c.utf8Size ≤ (bytes before).length := by omega
      obtain ⟨cut, found, early⟩ := ih later outside space
      rw [found]
      exact ⟨_, rfl, Nat.succ_le_succ early⟩

/-- A search finds nothing exactly where the phrase does not occur. -/
theorem find?_eq_none_iff (lettered : phrase.Lettered) :
    find? [⟨(), phrase⟩] text = none ↔ ¬Occurs phrase text := by
  constructor
  · intro absent
    exact (passes_iff_findFrom?.2 absent).not_occurs lettered rfl
  · intro never
    apply Option.eq_none_iff_forall_not_mem.2
    rintro ⟨_, cut⟩ found
    exact never ⟨cut.before, cut.keyword, cut.after, find?_found lettered.nonempty found⟩

namespace Occurs

theorem append_right (occurs : Occurs phrase text) (ends : endsKeyword rest = true) :
    Occurs phrase (text ++ rest) := by
  obtain ⟨before, written, after, rfl, closed, previous, spelled, ends'⟩ := occurs
  exact ⟨before, written, after ++ rest, by simp, closed, previous, spelled,
    (endsKeyword_append ends after).trans ends'⟩

/-- What occurs behind a space occurs behind every text that ends with white space, unless a literal
is open there. -/
theorem append_left {front : List Char} (occurs : Occurs phrase (' ' :: text))
    (closed : Closed front) (ends : (Place.start.after front).previous.any isSpace = true) :
    Occurs phrase (front ++ text) := by
  obtain ⟨before, written, after, whole, outside, previous, spelled, ends'⟩ := occurs
  cases before with
  | nil => cases previous
  | cons c more =>
    rw [List.cons_append, List.cons_append, List.cons.injEq] at whole
    obtain ⟨rfl, rfl⟩ := whole
    have fresh := Place.startsToken_of_space ends
    rw [Place.previous_after, Place.start, Option.or_none] at ends
    have alike : (Place.start.after front).inside = (Place.start.next ' ').inside := closed
    refine ⟨front ++ more, written, after, by simp, ?_, ?_, spelled, ends'⟩
    · rw [Closed, Place.after_append, Place.inside_after_congr alike fresh]
      exact outside
    · rw [List.getLast?_append]
      rw [List.getLast?_cons] at previous
      cases last : more.getLast? with
      | none => exact ends
      | some c => simpa [last] using previous

end Occurs

theorem passes_of_not_occurs (never : ¬Occurs phrase (' ' :: text))
    (border : Sealed [⟨(), phrase⟩] rest) (outside : place.inside = false)
    (starts : place.startsToken = true) : Passes [⟨(), phrase⟩] place text rest := by
  have lettered := border.lettered _ List.mem_cons_self
  have absent := (find?_eq_none_iff lettered).2 never
  exact (passes_of_sealed border absent).2.of_space outside starts

end TableQuery.Query
