import TableQuery.Query.Place

/-! Keywords in query text.

A keyword is a phrase of words in any letter case with white space between them. It counts only
in plain text, after white space, and before white space or the end of the text.
-/

set_option autoImplicit false

namespace TableQuery.Query

open Text

abbrev Phrase : Type := List String

def matchWord? : (word : List Char) → List Char → Option (List Char × List Char)
  | [], text => some ([], text)
  | _ :: _, [] => none
  | letter :: word, c :: text =>
    if c.toLower = letter.toLower then
      (matchWord? word text).map fun split => (c :: split.1, split.2)
    else none

def endsKeyword : List Char → Bool
  | [] => true
  | c :: _ => isSpace c

def matchPhrase? : Phrase → List Char → Option (List Char × List Char)
  | [], text => if endsKeyword text then some ([], text) else none
  | [word], text =>
    match matchWord? word.toList text with
    | some (written, rest) => if endsKeyword rest then some (written, rest) else none
    | none => none
  | word :: following :: more, text =>
    match matchWord? word.toList text with
    | some (written, rest) =>
      let gap := rest.takeWhile isSpace
      if gap.isEmpty then none
      else (matchPhrase? (following :: more) (rest.dropWhile isSpace)).map fun split =>
        (written ++ gap ++ split.1, split.2)
    | none => none

structure Cut where
  before : List Char
  keyword : List Char
  after : List Char
  deriving DecidableEq, Repr

def Cut.whole (cut : Cut) : List Char :=
  cut.before ++ cut.keyword ++ cut.after

structure Keyword (Meaning : Type) where
  meaning : Meaning
  phrase : Phrase

variable {Meaning : Type}

def matchAny? : List (Keyword Meaning) → List Char → Option (Meaning × List Char × List Char)
  | [], _ => none
  | keyword :: rest, text =>
    match matchPhrase? keyword.phrase text with
    | some (written, after) => some (keyword.meaning, written, after)
    | none => matchAny? rest text

/-- Looks for a keyword at or after `skip` bytes of the text. -/
def findFrom? (keywords : List (Keyword Meaning)) :
    (skip : Nat) → Place → List Char → Option (Meaning × Cut)
  | _, _, [] => none
  | skip, place, c :: text =>
    -- Skipped text is scanned too: its quotes decide where a literal stands.
    let here := if skip = 0 ∧ place.admitsKeyword c then matchAny? keywords (c :: text) else none
    match here with
    | some (meaning, written, after) => some (meaning, ⟨[], written, after⟩)
    | none =>
      (findFrom? keywords (skip - c.utf8Size) (place.next c) text).map fun found =>
        (found.1, { found.2 with before := c :: found.2.before })

def find? (keywords : List (Keyword Meaning)) (text : List Char) : Option (Meaning × Cut) :=
  findFrom? keywords 0 .start text

def findPhrase? (phrase : Phrase) (text : List Char) : Option Cut :=
  (find? [⟨(), phrase⟩] text).map Prod.snd

theorem matchWord?_append {word text written rest : List Char}
    (found : matchWord? word text = some (written, rest)) : written ++ rest = text := by
  induction word generalizing text written with
  | nil => simp_all [matchWord?]
  | cons letter word ih =>
    cases text with
    | nil => simp [matchWord?] at found
    | cons c text =>
      unfold matchWord? at found
      split at found
      · obtain ⟨split, tail, same⟩ := Option.map_eq_some_iff.1 found
        simp only [Prod.mk.injEq] at same
        obtain ⟨rfl, rfl⟩ := same
        simp [ih tail]
      · cases found

theorem matchPhrase?_append {phrase : Phrase} {text written rest : List Char}
    (found : matchPhrase? phrase text = some (written, rest)) : written ++ rest = text := by
  induction phrase generalizing text written with
  | nil =>
    simp only [matchPhrase?] at found
    split at found <;> simp_all
  | cons word more ih =>
    cases more with
    | nil =>
      simp only [matchPhrase?] at found
      split at found
      · rename_i matched
        split at found
        · simp only [Option.some.injEq, Prod.mk.injEq] at found
          obtain ⟨rfl, rfl⟩ := found
          exact matchWord?_append matched
        · cases found
      · cases found
    | cons following more =>
      simp only [matchPhrase?] at found
      split at found
      · rename_i first tail matched
        split at found
        · cases found
        · obtain ⟨split, inner, same⟩ := Option.map_eq_some_iff.1 found
          simp only [Prod.mk.injEq] at same
          obtain ⟨rfl, rfl⟩ := same
          rw [List.append_assoc, List.append_assoc, ih inner, List.takeWhile_append_dropWhile,
            matchWord?_append matched]
      · cases found

theorem matchAny?_append {keywords : List (Keyword Meaning)} {text written rest : List Char}
    {meaning : Meaning} (found : matchAny? keywords text = some (meaning, written, rest)) :
    written ++ rest = text := by
  induction keywords with
  | nil => simp [matchAny?] at found
  | cons keyword keywords ih =>
    unfold matchAny? at found
    split at found
    · rename_i matched
      simp only [Option.some.injEq, Prod.mk.injEq] at found
      obtain ⟨-, rfl, rfl⟩ := found
      exact matchPhrase?_append matched
    · exact ih found

/-- A keyword cuts its text without loss, and never at its very start. -/
theorem findFrom?_whole {keywords : List (Keyword Meaning)} {skip : Nat} {place : Place}
    {text : List Char} {meaning : Meaning} {cut : Cut}
    (found : findFrom? keywords skip place text = some (meaning, cut)) :
    cut.whole = text ∧ (place.previous = none → cut.before ≠ []) := by
  induction text generalizing skip place cut with
  | nil => simp [findFrom?] at found
  | cons c text ih =>
    simp only [findFrom?] at found
    split at found
    · rename_i here
      split at here
      · rename_i allowed
        simp only [Option.some.injEq, Prod.mk.injEq] at found
        obtain ⟨-, rfl⟩ := found
        refine ⟨by simpa [Cut.whole] using matchAny?_append here, fun fresh => ?_⟩
        simp [Place.admitsKeyword, fresh] at allowed
      · cases here
    · obtain ⟨⟨_, inner⟩, later, same⟩ := Option.map_eq_some_iff.1 found
      simp only [Prod.mk.injEq] at same
      obtain ⟨rfl, rfl⟩ := same
      exact ⟨by simpa [Cut.whole] using (ih later).1, by simp⟩

theorem find?_whole {keywords : List (Keyword Meaning)} {text : List Char} {meaning : Meaning}
    {cut : Cut} (found : find? keywords text = some (meaning, cut)) : cut.whole = text :=
  (findFrom?_whole found).1

theorem find?_before_ne_nil {keywords : List (Keyword Meaning)} {text : List Char}
    {meaning : Meaning} {cut : Cut} (found : find? keywords text = some (meaning, cut)) :
    cut.before ≠ [] :=
  (findFrom?_whole found).2 rfl

theorem find?_after_length {keywords : List (Keyword Meaning)} {text : List Char}
    {meaning : Meaning} {cut : Cut} (found : find? keywords text = some (meaning, cut)) :
    cut.after.length < text.length := by
  have whole := congrArg List.length (find?_whole found)
  have size := List.length_pos_iff.2 (find?_before_ne_nil found)
  simp only [Cut.whole, List.length_append] at whole
  omega

def separate (keywords : List (Keyword Meaning)) (text : List Char) : List (List Char) :=
  match _found : find? keywords text with
  | none => [trim text]
  | some (_, cut) => trim cut.before :: separate keywords cut.after
termination_by text.length
decreasing_by exact find?_after_length _found

/-- What follows a word at the front of the text, if white space follows it. -/
def afterLeadingWord? (word : String) (text : List Char) : Option (List Char) :=
  match matchWord? word.toList text with
  | some (_, c :: rest) => if isSpace c then some (c :: rest) else none
  | _ => none

end TableQuery.Query
