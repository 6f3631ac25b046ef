import TableQuery.Proofs.Request.Stages
import TableQuery.Proofs.Text.Weight

/-! Keywords that head a part of a written query.

Such a keyword is found where it was written exactly when the text in front leads it. One
direction scans the front. The other starts from the part that was read: its weight says where
the keyword stood.
-/

set_option autoImplicit false

namespace TableQuery.Query

open Text

variable {Meaning : Type} {letters : List Char}

def Closed (text : List Char) : Prop :=
  (Place.start.after text).inside = false

instance (text : List Char) : Decidable (Closed text) :=
  inferInstanceAs (Decidable (_ = false))

/-- None of the keywords stands in the text. If one is `written` behind it, no literal is open
there, so that the written one is found. -/
structure Leads (keywords : List (Keyword Meaning)) (front : List Char) (written : Bool) :
    Prop where
  silent : find? keywords front = none
  closed : written = true → Closed front

theorem leads_false_iff {keywords : List (Keyword Meaning)} {front : List Char} :
    Leads keywords front false ↔ find? keywords front = none :=
  ⟨Leads.silent, fun silent => ⟨silent, nofun⟩⟩

theorem matchWord?_sameLetters {word text written rest : List Char}
    (found : matchWord? word text = some (written, rest)) :
    written.map Char.toLower = word.map Char.toLower := by
  induction word generalizing text written with
  | nil =>
    simp only [matchWord?, Option.some.injEq, Prod.mk.injEq] at found
    rw [← found.1]
  | cons letter word ih =>
    cases text with
    | nil => simp [matchWord?] at found
    | cons c text =>
      rw [matchWord?] at found
      split at found
      · rename_i equal
        obtain ⟨⟨front, back⟩, later, same⟩ := Option.map_eq_some_iff.1 found
        cases same
        rw [List.map_cons, List.map_cons, equal, ih later]
      · cases found

theorem matchPhrase?_singleton_iff {word : String} {text written rest : List Char} :
    matchPhrase? [word] text = some (written, rest) ↔
      matchWord? word.toList text = some (written, rest) ∧ endsKeyword rest = true := by
  rw [matchPhrase?]
  cases matchWord? word.toList text with
  | none => simp
  | some split =>
    obtain ⟨front, back⟩ := split
    dsimp only
    constructor
    · intro found
      split at found
      · rename_i ends
        cases found
        exact ⟨rfl, ends⟩
      · cases found
    · intro held
      obtain ⟨same, ends⟩ := held
      cases same
      rw [if_pos ends]

theorem matchPhrase?_last {phrase : Phrase} {last : String} {text written rest : List Char}
    (ending : phrase.getLast? = some last) (found : matchPhrase? phrase text = some (written, rest)) :
    endsKeyword rest = true ∧ ∃ lead word, written = lead ++ word ∧
      word.map Char.toLower = last.toList.map Char.toLower := by
  induction phrase generalizing text written with
  | nil => cases ending
  | cons word more ih =>
    cases more with
    | nil =>
      simp only [List.getLast?_singleton, Option.some.injEq] at ending
      subst ending
      obtain ⟨matched, ends⟩ := matchPhrase?_singleton_iff.1 found
      exact ⟨ends, [], written, rfl, matchWord?_sameLetters matched⟩
    | cons following more =>
      simp only [matchPhrase?] at found
      split at found
      · split at found
        · cases found
        · obtain ⟨split, inner, same⟩ := Option.map_eq_some_iff.1 found
          simp only [Prod.mk.injEq] at same
          obtain ⟨rfl, rfl⟩ := same
          rw [List.getLast?_cons_cons] at ending
          obtain ⟨ends, lead, word, whole, spelled⟩ := ih ending inner
          exact ⟨ends, _, word, by rw [whole, ← List.append_assoc], spelled⟩
      · cases found

/-- The words of the keywords that stand at their end have weight. -/
def Heavy (letters : List Char) (keywords : List (Keyword Meaning)) : Prop :=
  ∀ keyword ∈ keywords, ∃ last, keyword.phrase.getLast? = some last ∧
    0 < weight letters last.toList

theorem not_space_of_sameLetters {word letters : List Char}
    (alpha : ∀ letter ∈ letters, letter.isAlpha = true)
    (same : word.map Char.toLower = letters.map Char.toLower) : ∀ c ∈ word, isSpace c = false := by
  intro c member
  have lowered : c.toLower ∈ letters.map Char.toLower := same ▸ List.mem_map_of_mem member
  obtain ⟨letter, listed, equal⟩ := List.mem_map.1 lowered
  apply Bool.eq_false_iff.2
  intro space
  exact toLower_ne_of_isSpace space (alpha letter listed) equal.symm

theorem matchAny?_last {keywords : List (Keyword Meaning)} {text written rest : List Char}
    {meaning : Meaning} (lettered : ∀ keyword ∈ keywords, keyword.phrase.Lettered)
    (heavy : Heavy letters keywords)
    (found : matchAny? keywords text = some (meaning, written, rest)) :
    endsKeyword rest = true ∧ ∃ lead word, written = lead ++ word ∧
      0 < weight letters word ∧ ∀ c ∈ word, isSpace c = false := by
  obtain ⟨keyword, member, -, matched⟩ := exists_of_matchAny? found
  obtain ⟨last, ending, weighs⟩ := heavy keyword member
  obtain ⟨ends, lead, word, whole, same⟩ := matchPhrase?_last ending matched
  have words := (lettered keyword member).words last (List.mem_of_getLast? ending)
  refine ⟨ends, lead, word, whole, ?_, not_space_of_sameLetters words.2 same⟩
  rwa [weight_of_sameLetters same]

structure Heading (keywords : List (Keyword Meaning)) (meaning : Meaning)
    (written tail : List Char) : Prop where
  border : Sealed keywords (' ' :: (written ++ tail))
  matched : matchAny? keywords (written ++ tail) = some (meaning, written, tail)
  nonempty : written ≠ []
  free : '\'' ∉ written

namespace Heading

variable {keywords : List (Keyword Meaning)} {meaning : Meaning} {written tail : List Char}

theorem find?_eq (heading : Heading keywords meaning written tail) {front : List Char}
    (leads : Leads keywords front true) :
    find? keywords (front ++ ' ' :: (written ++ tail)) =
      some (meaning, ⟨front ++ [' '], written, tail⟩) :=
  find?_written heading.border heading.nonempty heading.matched leads.silent (leads.closed rfl)

theorem after_eq (heading : Heading keywords meaning written tail) (heavy : Heavy letters keywords)
    {front : List Char} {other : Meaning} {cut : Cut}
    (found : find? keywords (front ++ ' ' :: (written ++ tail)) = some (other, cut))
    (level : weight letters cut.after = weight letters tail) : cut.after = tail := by
  have lettered := heading.border.lettered
  -- Both keywords end in a word with weight that stands before white space.
  obtain ⟨ends, lead, word, whole, weighs, solid⟩ :=
    matchAny?_last lettered heavy (findFrom?_found found).1
  obtain ⟨ends', lead', word', rfl, weighs', solid'⟩ :=
    matchAny?_last lettered heavy heading.matched
  have same : cut.before ++ lead ++ word ++ cut.after =
      (front ++ ' ' :: lead') ++ word' ++ tail := by
    have text := find?_whole found
    rw [Cut.whole, whole] at text
    simpa [List.append_assoc] using text
  refine append_right_unique same solid solid' weighs weighs' ?_ ?_ level
  · intro c first
    cases after : cut.after <;> simp_all [endsKeyword]
  · intro c first
    cases tail <;> simp_all [endsKeyword]

/-- What is read behind the keyword that was found has the weight of the part: then it is the
written keyword that was found, and the text in front leads it. -/
theorem leads (heading : Heading keywords meaning written tail) (heavy : Heavy letters keywords)
    {front : List Char} {other : Meaning} {cut : Cut}
    (found : find? keywords (front ++ ' ' :: (written ++ tail)) = some (other, cut))
    (level : weight letters cut.after = weight letters tail) : Leads keywords front true := by
  obtain ⟨silent, closed⟩ :=
    find?_written_inv heading.border heading.free found (heading.after_eq heavy found level)
  exact ⟨silent, fun _ => closed⟩

theorem leads_of_before (heading : Heading keywords meaning written tail) {front : List Char}
    {other : Meaning} {cut : Cut}
    (found : find? keywords (front ++ ' ' :: (written ++ tail)) = some (other, cut))
    (level : weight [] cut.before = weight [] front) : Leads keywords front true := by
  have lettered := heading.border.lettered
  -- A keyword begins with a letter, so no text without weight stands in front of it.
  have heavy : ∀ gap text rest, matchAny? keywords (gap ++ text) = some rest →
      weight [] gap = 0 → gap = [] := by
    intro gap text rest matched light
    cases gap with
    | nil => rfl
    | cons c gap =>
      have letter := matchAny?_head lettered matched
      rw [weight_cons, weight_of_letter letter.1 letter.2] at light
      omega
  have whole : cut.before ++ (cut.keyword ++ cut.after) = (front ++ [' ']) ++ (written ++ tail) := by
    simpa [Cut.whole] using find?_whole found
  have level' : weight [] cut.before = weight [] (front ++ [' ']) := by
    rw [weight_append, weight_space, weight_nil, level, Nat.add_zero]
  have same : cut.keyword ++ cut.after = written ++ tail := by
    rcases List.append_eq_append_iff.1 whole with ⟨gap, longer, rest⟩ | ⟨gap, longer, rest⟩
    · rw [longer, weight_append] at level'
      have none := heavy gap _ _ (rest ▸ (findFrom?_found found).1) (by omega)
      rw [rest, none, List.nil_append]
    · rw [longer, weight_append] at level'
      have none := heavy gap _ _ (rest ▸ heading.matched) (by omega)
      rw [rest, none, List.nil_append]
  have spelled := (findFrom?_found found).1
  rw [same, heading.matched] at spelled
  cases spelled
  obtain ⟨silent, closed⟩ := find?_written_inv heading.border heading.free found rfl
  exact ⟨silent, fun _ => closed⟩

end Heading

theorem cutClause_heading_iff {Part : Type} {phrase : Phrase}
    {read : List Char → Except Rejection Part} {written tail front rest : List Char}
    {accepted : Part → Prop} (heading : Heading [⟨(), phrase⟩] () written tail)
    (heavy : Heavy letters [⟨(), phrase⟩]) (trimmed : Trimmed front)
    (level : ∀ text part, read text = .ok part → accepted part →
      weight letters text = weight letters tail) :
    (∃ part, cutClause phrase read (front ++ ' ' :: (written ++ tail)) = .ok (rest, some part) ∧
        accepted part) ↔
      Leads [⟨(), phrase⟩] front true ∧ rest = front ∧
        ∃ part, read tail = .ok part ∧ accepted part := by
  have gone : trimEnd (front ++ [' ']) = front := by
    rw [trimEnd_append blank_of_mem_space, trimEnd_eq_self trimmed.last]
  constructor
  · intro held
    obtain ⟨part, clause, good⟩ := held
    -- The part tells the weight behind the cut, so the cut was made where the keyword was written.
    obtain ⟨cut, found, readable, rfl⟩ := cutClause_some_iff.1 clause
    have leads := heading.leads heavy found (level _ _ readable good)
    have first := heading.find?_eq leads
    rw [found] at first
    cases first
    exact ⟨leads, gone, part, readable, good⟩
  · intro held
    obtain ⟨leads, rfl, part, readable, good⟩ := held
    exact ⟨part, cutClause_some_iff.2 ⟨_, heading.find?_eq leads, readable, gone.symm⟩, good⟩

/-- The same for a part that is known. -/
theorem cutClause_heading_iff_of_read {Part : Type} {phrase : Phrase}
    {read : List Char → Except Rejection Part} {written tail front rest : List Char} {part : Part}
    (heading : Heading [⟨(), phrase⟩] () written tail) (heavy : Heavy letters [⟨(), phrase⟩])
    (trimmed : Trimmed front) (reads : read tail = .ok part)
    (level : ∀ text, read text = .ok part → weight letters text = weight letters tail) :
    cutClause phrase read (front ++ ' ' :: (written ++ tail)) = .ok (rest, some part) ↔
      Leads [⟨(), phrase⟩] front true ∧ rest = front := by
  have level' : ∀ text other, read text = .ok other → other = part →
      weight letters text = weight letters tail := by
    rintro text _ readable rfl
    exact level text readable
  have stage : (∃ other, cutClause phrase read (front ++ ' ' :: (written ++ tail)) =
      .ok (rest, some other) ∧ other = part) ↔ _ :=
    cutClause_heading_iff heading heavy trimmed level'
  simpa [reads] using stage

end TableQuery.Query
