import Mathlib.Data.List.TakeWhile
import TableQuery.Query.Keyword

/-! Keyword searches in texts that are put together from parts.

A search in `text ++ suffix` first looks through `text`. What stands there decides alone as long
as the suffix is sealed off: it does not continue a word, and no phrase goes on with it.
-/

set_option autoImplicit false

namespace TableQuery.Query

open Text

variable {Meaning : Type}

namespace Place

theorem next_inside {c : Char} (plain : c ≠ '\'') (place : Place) :
    (place.next c).inside = place.inside := by
  simp [next, toggles, beq_false_of_ne plain]

theorem after_inside {text : List Char} (free : '\'' ∉ text) (place : Place) :
    (place.after text).inside = place.inside := by
  induction text generalizing place with
  | nil => rfl
  | cons c text ih =>
    rw [List.mem_cons, not_or] at free
    rw [after_cons, ih free.2, next_inside (Ne.symm free.1)]

theorem admitsKeyword_of_inside {place : Place} (inside : place.inside = true) (c : Char) :
    place.admitsKeyword c = false := by
  simp [admitsKeyword, isPlain, inside]

theorem outside_of_admitsKeyword {place : Place} {c : Char}
    (admitted : place.admitsKeyword c = true) : place.inside = false := by
  simp only [admitsKeyword, isPlain, Bool.and_eq_true, Bool.not_eq_true'] at admitted
  exact admitted.1.1

end Place

structure Phrase.Lettered (phrase : Phrase) : Prop where
  nonempty : phrase ≠ []
  words : ∀ word ∈ phrase, word.toList ≠ [] ∧ ∀ letter ∈ word.toList, letter.isAlpha = true

/-- No later word of the phrase begins the suffix. -/
def Phrase.EndsBefore : Phrase → List Char → Prop
  | _ :: following :: more, suffix =>
    matchPhrase? (following :: more) (suffix.dropWhile isSpace) = none ∧
      Phrase.EndsBefore (following :: more) suffix
  | _, _ => True

/-- A suffix that adds no keyword to the text in front of it. -/
structure Sealed (keywords : List (Keyword Meaning)) (suffix : List Char) : Prop where
  ends : endsKeyword suffix = true
  lettered : ∀ keyword ∈ keywords, keyword.phrase.Lettered
  phrases : ∀ keyword ∈ keywords, keyword.phrase.EndsBefore suffix

theorem toLower_range {letter : Char} (alpha : letter.isAlpha = true) :
    'a'.toNat ≤ letter.toLower.toNat ∧ letter.toLower.toNat ≤ 'z'.toNat := by
  unfold Char.isAlpha Char.isUpper Char.isLower at alpha
  simp only [Bool.or_eq_true, Bool.and_eq_true, decide_eq_true_eq] at alpha
  unfold Char.toLower
  split
  · rename_i upper
    have low := UInt32.le_iff_toNat_le.1 upper.1
    have high := UInt32.le_iff_toNat_le.1 upper.2
    simp only [Char.toNat, UInt32.toNat_add] at *
    have shift : ('a'.val - 'A'.val).toNat = 32 := rfl
    have first : 'A'.val.toNat = 65 := rfl
    have last : 'Z'.val.toNat = 90 := rfl
    have small : 'a'.val.toNat = 97 ∧ 'z'.val.toNat = 122 := ⟨rfl, rfl⟩
    omega
  · rename_i other
    rcases alpha with upper | lower
    · exact absurd ⟨upper.1, upper.2⟩ other
    · exact ⟨UInt32.le_iff_toNat_le.1 lower.1, UInt32.le_iff_toNat_le.1 lower.2⟩

theorem isAlpha_of_toLower {c : Char} (low : 'a'.toNat ≤ c.toLower.toNat)
    (high : c.toLower.toNat ≤ 'z'.toNat) : c.isAlpha = true := by
  unfold Char.isAlpha Char.isUpper Char.isLower
  simp only [Bool.or_eq_true, Bool.and_eq_true, decide_eq_true_eq]
  unfold Char.toLower at low high
  split at low
  · rename_i upper
    exact .inl upper
  · rename_i other
    rw [dif_neg other] at high
    exact .inr ⟨UInt32.le_iff_toNat_le.2 low, UInt32.le_iff_toNat_le.2 high⟩

theorem not_isAlpha_of_isSpace {c : Char} (space : isSpace c = true) : c.isAlpha = false := by
  simp only [isSpace, Bool.or_eq_true, beq_iff_eq] at space
  rcases space with (((rfl | rfl) | rfl) | rfl) | rfl <;> rfl

theorem toLower_ne_of_not_isAlpha {c letter : Char} (plain : c.isAlpha = false)
    (alpha : letter.isAlpha = true) : c.toLower ≠ letter.toLower := by
  intro same
  obtain ⟨low, high⟩ := toLower_range alpha
  rw [← same] at low high
  rw [isAlpha_of_toLower low high] at plain
  cases plain

theorem toLower_ne_of_isSpace {c letter : Char} (space : isSpace c = true)
    (alpha : letter.isAlpha = true) : c.toLower ≠ letter.toLower :=
  toLower_ne_of_not_isAlpha (not_isAlpha_of_isSpace space) alpha

theorem matchWord?_append_of_stop {word suffix : List Char}
    (letters : ∀ letter ∈ word, letter.isAlpha = true)
    (stop : ∀ c ∈ suffix.head?, c.isAlpha = false) (text : List Char) :
    matchWord? word (text ++ suffix) =
      (matchWord? word text).map fun split => (split.1, split.2 ++ suffix) := by
  induction word generalizing text with
  | nil => simp [matchWord?]
  | cons letter word ih =>
    have alpha := letters letter (by simp)
    have tail := ih fun other member => letters other (List.mem_cons_of_mem _ member)
    cases text with
    | nil =>
      cases suffix with
      | nil => simp [matchWord?]
      | cons c rest =>
        -- The text ends within the word, and the suffix does not continue it.
        simp [matchWord?, toLower_ne_of_not_isAlpha (stop c rfl) alpha]
    | cons c text =>
      simp only [List.cons_append, matchWord?]
      split
      · rw [tail text, Option.map_map, Option.map_map]
        rfl
      · rfl

theorem head?_of_endsKeyword {suffix : List Char} (ends : endsKeyword suffix = true) :
    ∀ c ∈ suffix.head?, c.isAlpha = false := by
  intro c first
  cases suffix with
  | nil => cases first
  | cons other rest =>
    cases first
    exact not_isAlpha_of_isSpace ends

theorem matchWord?_append_right {word suffix : List Char}
    (letters : ∀ letter ∈ word, letter.isAlpha = true) (ends : endsKeyword suffix = true)
    (text : List Char) :
    matchWord? word (text ++ suffix) =
      (matchWord? word text).map fun split => (split.1, split.2 ++ suffix) :=
  matchWord?_append_of_stop letters (head?_of_endsKeyword ends) text

theorem endsKeyword_append {suffix : List Char} (ends : endsKeyword suffix = true)
    (text : List Char) : endsKeyword (text ++ suffix) = endsKeyword text := by
  cases text with
  | nil => simpa [endsKeyword] using ends
  | cons c text => rfl

theorem Phrase.Lettered.tail {word following : String} {more : Phrase}
    (lettered : Phrase.Lettered (word :: following :: more)) :
    Phrase.Lettered (following :: more) :=
  ⟨by simp, fun other member => lettered.words other (List.mem_cons_of_mem _ member)⟩

theorem Phrase.Lettered.first {word : String} {more : Phrase}
    (lettered : Phrase.Lettered (word :: more)) : Phrase.Lettered [word] :=
  ⟨by simp, List.forall_mem_singleton.2 (lettered.words word List.mem_cons_self)⟩

theorem matchPhrase?_nil {phrase : Phrase} (lettered : phrase.Lettered) :
    matchPhrase? phrase [] = none := by
  cases phrase with
  | nil => exact absurd rfl lettered.nonempty
  | cons word more =>
    obtain ⟨letter, rest, same⟩ := List.exists_cons_of_ne_nil (lettered.words word (by simp)).1
    cases more <;> simp [matchPhrase?, same, matchWord?]

theorem matchPhrase?_append_right {phrase : Phrase} {suffix : List Char}
    (lettered : phrase.Lettered) (ends : endsKeyword suffix = true)
    (before : phrase.EndsBefore suffix) (text : List Char) :
    matchPhrase? phrase (text ++ suffix) =
      (matchPhrase? phrase text).map fun split => (split.1, split.2 ++ suffix) := by
  induction phrase generalizing text with
  | nil => exact absurd rfl lettered.nonempty
  | cons word more ih =>
    have letters := (lettered.words word (by simp)).2
    cases more with
    | nil =>
      simp only [matchPhrase?, matchWord?_append_right letters ends]
      cases matchWord? word.toList text with
      | none => rfl
      | some split =>
        simp only [Option.map_some, endsKeyword_append ends]
        split <;> simp
    | cons following more =>
      simp only [matchPhrase?, matchWord?_append_right letters ends]
      cases matchWord? word.toList text with
      | none => rfl
      | some split =>
        obtain ⟨written, rest⟩ := split
        simp only [Option.map_some]
        by_cases blank : ∀ c ∈ rest, isSpace c = true
        · -- The word stands at the end of the text, so the rest of the phrase is missing.
          rw [List.dropWhile_append_of_pos blank, before.1, List.dropWhile_eq_nil_iff.2 blank,
            matchPhrase?_nil lettered.tail]
          simp
        · have stop : (rest.dropWhile isSpace).isEmpty = false := by
            simpa [List.isEmpty_eq_false_iff, List.dropWhile_eq_nil_iff] using blank
          have gap : (rest ++ suffix).takeWhile isSpace = rest.takeWhile isSpace := by
            refine List.takeWhile_append.trans (if_neg fun whole => blank ?_)
            exact List.takeWhile_eq_self_iff.1 ((List.takeWhile_prefix _).eq_of_length whole)
          rw [gap, List.dropWhile_append, stop, if_neg Bool.false_ne_true, ih lettered.tail before.2]
          split
          · rfl
          · rw [Option.map_map, Option.map_map]
            rfl

theorem matchAny?_append_right {keywords : List (Keyword Meaning)} {suffix : List Char}
    (border : Sealed keywords suffix) (text : List Char) :
    matchAny? keywords (text ++ suffix) =
      (matchAny? keywords text).map fun found => (found.1, found.2.1, found.2.2 ++ suffix) := by
  obtain ⟨ends, lettered, phrases⟩ := border
  induction keywords with
  | nil => rfl
  | cons keyword keywords ih =>
    have later := ih (fun other member => lettered other (List.mem_cons_of_mem _ member))
      (fun other member => phrases other (List.mem_cons_of_mem _ member))
    simp only [matchAny?, matchPhrase?_append_right (lettered keyword (by simp)) ends
      (phrases keyword (by simp))]
    cases matchPhrase? keyword.phrase text with
    | none => exact later
    | some split => rfl

theorem matchPhrase?_head {phrase : Phrase} {c : Char} {text : List Char}
    {split : List Char × List Char} (lettered : phrase.Lettered)
    (found : matchPhrase? phrase (c :: text) = some split) :
    'a'.toNat ≤ c.toLower.toNat ∧ c.toLower.toNat ≤ 'z'.toNat := by
  cases phrase with
  | nil => exact absurd rfl lettered.nonempty
  | cons word more =>
    have words := lettered.words word (by simp)
    obtain ⟨letter, rest, same⟩ := List.exists_cons_of_ne_nil words.1
    have alpha : letter.isAlpha = true := words.2 letter (by simp [same])
    by_cases equal : c.toLower = letter.toLower
    · exact equal ▸ toLower_range alpha
    · cases more <;> simp [matchPhrase?, same, matchWord?, equal] at found

theorem exists_of_matchAny? {keywords : List (Keyword Meaning)} {text written rest : List Char}
    {meaning : Meaning} (matched : matchAny? keywords text = some (meaning, written, rest)) :
    ∃ keyword ∈ keywords, keyword.meaning = meaning ∧
      matchPhrase? keyword.phrase text = some (written, rest) := by
  induction keywords with
  | nil => cases matched
  | cons keyword keywords ih =>
    rw [matchAny?] at matched
    split at matched
    · rename_i here
      cases matched
      exact ⟨keyword, List.mem_cons_self, rfl, here⟩
    · obtain ⟨other, member, found⟩ := ih matched
      exact ⟨other, List.mem_cons_of_mem _ member, found⟩

theorem matchAny?_eq_none_iff {keywords : List (Keyword Meaning)} {text : List Char} :
    matchAny? keywords text = none ↔
      ∀ keyword ∈ keywords, matchPhrase? keyword.phrase text = none := by
  induction keywords with
  | nil => simp [matchAny?]
  | cons keyword keywords ih =>
    rw [List.forall_mem_cons, ← ih, matchAny?]
    cases matchPhrase? keyword.phrase text <;> simp

theorem matchAny?_head {keywords : List (Keyword Meaning)} {c : Char} {text : List Char}
    {found : Meaning × List Char × List Char}
    (lettered : ∀ keyword ∈ keywords, keyword.phrase.Lettered)
    (matched : matchAny? keywords (c :: text) = some found) :
    'a'.toNat ≤ c.toLower.toNat ∧ c.toLower.toNat ≤ 'z'.toNat := by
  obtain ⟨keyword, member, -, here⟩ := exists_of_matchAny? matched
  exact matchPhrase?_head (lettered keyword member) here

theorem matchPhrase?_unlettered {phrase : Phrase} {c : Char} {text : List Char}
    (lettered : phrase.Lettered) (plain : c.isAlpha = false) :
    matchPhrase? phrase (c :: text) = none := by
  apply Option.eq_none_iff_forall_not_mem.2
  intro split found
  obtain ⟨low, high⟩ := matchPhrase?_head lettered found
  rw [isAlpha_of_toLower low high] at plain
  cases plain

theorem matchAny?_unlettered {keywords : List (Keyword Meaning)} {c : Char} {text : List Char}
    (lettered : ∀ keyword ∈ keywords, keyword.phrase.Lettered) (plain : c.isAlpha = false) :
    matchAny? keywords (c :: text) = none :=
  matchAny?_eq_none_iff.2 fun keyword member =>
    matchPhrase?_unlettered (lettered keyword member) plain

def Cut.append (cut : Cut) (suffix : List Char) : Cut :=
  { cut with after := cut.after ++ suffix }

def Cut.prepend (front : List Char) (cut : Cut) : Cut :=
  { cut with before := front ++ cut.before }

@[simp] theorem findFrom?_cons (keywords : List (Keyword Meaning)) (place : Place) (c : Char)
    (text : List Char) :
    findFrom? keywords 0 place (c :: text) =
      match if place.admitsKeyword c then matchAny? keywords (c :: text) else none with
      | some (meaning, written, after) => some (meaning, ⟨[], written, after⟩)
      | none => (findFrom? keywords 0 (place.next c) text).map fun found =>
          (found.1, found.2.prepend [c]) := by
  simp only [findFrom?, true_and, Nat.zero_sub]
  rfl

/-- The search in a text with a sealed suffix: first in the text, then in the suffix. -/
theorem findFrom?_append {keywords : List (Keyword Meaning)} {suffix : List Char}
    (border : Sealed keywords suffix) (place : Place) (text : List Char) :
    findFrom? keywords 0 place (text ++ suffix) =
      ((findFrom? keywords 0 place text).map fun found => (found.1, found.2.append suffix)).or
        ((findFrom? keywords 0 (place.after text) suffix).map fun found =>
          (found.1, found.2.prepend text)) := by
  induction text generalizing place with
  | nil => simp [findFrom?, Cut.prepend]
  | cons c text ih =>
    simp only [List.cons_append, findFrom?_cons, ih, Place.after_cons]
    -- What begins here is the same with and without the suffix.
    have ahead := matchAny?_append_right border (c :: text)
    rw [List.cons_append] at ahead
    by_cases admitted : place.admitsKeyword c = true
    · simp only [if_pos admitted, ahead]
      cases matchAny? keywords (c :: text) with
      | some found => rfl
      | none =>
        simp only [Option.map_none, Option.map_or, Option.map_map]
        rfl
    · simp only [if_neg admitted, Option.map_or, Option.map_map]
      rfl

theorem findPhrase?_eq_some_iff {phrase : Phrase} {text : List Char} {cut : Cut} :
    findPhrase? phrase text = some cut ↔ find? [⟨(), phrase⟩] text = some ((), cut) := by
  rw [findPhrase?, Option.map_eq_some_iff]
  constructor
  · intro cutAs
    obtain ⟨⟨_, _⟩, found, rfl⟩ := cutAs
    exact found
  · intro found
    exact ⟨_, found, rfl⟩

theorem findPhrase?_eq_none_iff {phrase : Phrase} {text : List Char} :
    findPhrase? phrase text = none ↔ find? [⟨(), phrase⟩] text = none :=
  Option.map_eq_none_iff

theorem separate_of_none {keywords : List (Keyword Meaning)} {text : List Char}
    (absent : find? keywords text = none) : separate keywords text = [trim text] := by
  rw [separate]
  split
  · rfl
  · simp_all

theorem separate_of_some {keywords : List (Keyword Meaning)} {text : List Char} {meaning : Meaning}
    {cut : Cut} (found : find? keywords text = some (meaning, cut)) :
    separate keywords text = trim cut.before :: separate keywords cut.after := by
  rw [separate]
  split
  · simp_all
  · rename_i other
    rw [found] at other
    cases other
    rfl

/-- What a search finds: the keyword matches where it stands, in plain text after white space. -/
theorem findFrom?_found {keywords : List (Keyword Meaning)} {skip : Nat} {place : Place}
    {text : List Char} {meaning : Meaning} {cut : Cut}
    (found : findFrom? keywords skip place text = some (meaning, cut)) :
    matchAny? keywords (cut.keyword ++ cut.after) = some (meaning, cut.keyword, cut.after) ∧
      ∃ c ∈ (cut.keyword ++ cut.after).head?, (place.after cut.before).admitsKeyword c = true := by
  induction text generalizing skip place cut with
  | nil => simp [findFrom?] at found
  | cons c text ih =>
    simp only [findFrom?] at found
    split at found
    · rename_i here
      split at here
      · rename_i allowed
        simp only [Option.some.injEq, Prod.mk.injEq] at found
        obtain ⟨rfl, rfl⟩ := found
        have whole := matchAny?_append here
        exact ⟨by rw [whole, here], c, by simp [whole], allowed.2⟩
      · cases here
    · obtain ⟨⟨_, inner⟩, later, same⟩ := Option.map_eq_some_iff.1 found
      simp only [Prod.mk.injEq] at same
      obtain ⟨rfl, rfl⟩ := same
      exact (ih later :)

theorem find?_outside {keywords : List (Keyword Meaning)} {text : List Char} {meaning : Meaning}
    {cut : Cut} (found : find? keywords text = some (meaning, cut)) :
    (Place.start.after cut.before).inside = false := by
  obtain ⟨-, c, -, admitted⟩ := findFrom?_found found
  exact Place.outside_of_admitsKeyword admitted

theorem findFrom?_inside {place : Place} {text : List Char} (inside : place.inside = true)
    (free : '\'' ∉ text) (keywords : List (Keyword Meaning)) (suffix : List Char) :
    findFrom? keywords 0 place (text ++ suffix) =
      (findFrom? keywords 0 (place.after text) suffix).map fun found =>
        (found.1, found.2.prepend text) := by
  induction text generalizing place with
  | nil => simp [Cut.prepend]
  | cons c text ih =>
    rw [List.mem_cons, not_or] at free
    have still := (Place.next_inside (Ne.symm free.1) place).trans inside
    simp only [List.cons_append, findFrom?_cons, Place.admitsKeyword_of_inside inside,
      ih still free.2, Place.after_cons, Option.map_map, Bool.false_eq_true, if_false]
    rfl

/-- A keyword that is put behind a text in which none stands is found, unless the text leaves a
literal open. -/
theorem find?_written {keywords : List (Keyword Meaning)} {front written tail : List Char}
    {meaning : Meaning} (border : Sealed keywords (' ' :: (written ++ tail)))
    (nonempty : written ≠ [])
    (matched : matchAny? keywords (written ++ tail) = some (meaning, written, tail))
    (absent : find? keywords front = none) (outside : (Place.start.after front).inside = false) :
    find? keywords (front ++ ' ' :: (written ++ tail)) =
      some (meaning, ⟨front ++ [' '], written, tail⟩) := by
  obtain ⟨c, rest, rfl⟩ := List.exists_cons_of_ne_nil nonempty
  have low := (matchAny?_head border.lettered matched).1
  have plain : c ≠ '\'' := by
    intro quote
    subst quote
    revert low
    decide
  have still := (Place.next_inside (c := ' ') (by decide) (Place.start.after front)).trans outside
  have admitted : ((Place.start.after front).next ' ').admitsKeyword c = true := by
    rw [Place.admitsKeyword, Place.isPlain, Place.toggles, still, beq_false_of_ne plain]
    rfl
  rw [find?] at absent ⊢
  rw [findFrom?_append border, absent, findFrom?_cons, matchAny?_unlettered border.lettered rfl]
  simp only [List.cons_append] at matched ⊢
  simp [findFrom?_cons, admitted, matched, Cut.prepend]

/-- Conversely, a keyword that was put there and is found there stands behind such a text. -/
theorem find?_written_inv {keywords : List (Keyword Meaning)} {front written tail : List Char}
    {meaning : Meaning} {cut : Cut} (border : Sealed keywords (' ' :: (written ++ tail)))
    (free : '\'' ∉ written)
    (found : find? keywords (front ++ ' ' :: (written ++ tail)) = some (meaning, cut))
    (same : cut.after = tail) :
    find? keywords front = none ∧ (Place.start.after front).inside = false := by
  rw [find?, findFrom?_append border] at found
  cases absent : find? keywords front with
  | some other =>
    -- A keyword of the front would leave more behind itself than the tail.
    rw [find?] at absent
    simp only [absent, Option.map_some, Option.some_or, Option.some.injEq, Prod.mk.injEq] at found
    have size := congrArg List.length (found.2 ▸ same)
    simp only [Cut.append, List.length_append, List.length_cons] at size
    omega
  | none =>
    refine ⟨rfl, Bool.eq_false_iff.2 fun inside => ?_⟩
    have free' : '\'' ∉ ' ' :: written := by simp [free]
    rw [find?] at absent
    rw [absent, Option.map_none, Option.none_or, ← List.cons_append,
      findFrom?_inside inside free', Option.map_map] at found
    obtain ⟨⟨_, inner⟩, later, equal⟩ := Option.map_eq_some_iff.1 found
    simp only [Function.comp, Prod.mk.injEq] at equal
    obtain ⟨rfl, rfl⟩ := equal
    have whole := congrArg List.length (findFrom?_whole later).1
    obtain ⟨-, c, -, admitted⟩ := findFrom?_found later
    simp only [Cut.prepend] at same
    simp only [Cut.whole, List.length_append, same] at whole
    -- So the keyword stands where it was put, and there the literal would still be open.
    have first : inner.before = [] := List.eq_nil_of_length_eq_zero (by omega)
    have still := (Place.after_inside free' (Place.start.after front)).trans inside
    rw [first, Place.after_nil, Place.admitsKeyword_of_inside still] at admitted
    cases admitted

end TableQuery.Query
