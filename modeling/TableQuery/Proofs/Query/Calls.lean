import Mathlib.Data.List.Basic
import TableQuery.Proofs.Text.Classes
import TableQuery.Proofs.Text.Trimming
import TableQuery.Query.Aggregate

/-! Calls of aggregate functions, as a language.

A call is a name, white space, and an argument in parentheses, and it counts wherever no word runs
into it. The search tries every place of the text and takes the argument as far as it goes. It finds
a call exactly if there is one: what ends an argument never continues a word, and white space is
neither part of a word nor a parenthesis.
-/

set_option autoImplicit false

namespace TableQuery.Query

open Text

/-- Simple case folding, as far as it leads to ASCII letters: to these fold their capitals, the long
s and the Kelvin sign, and no other character. -/
def foldCase (c : Char) : Char :=
  if c = 'ſ' then 's' else if c = '\u212a' then 'k' else c.toLower

def IsAggregateName (name : List Char) : Prop :=
  ∃ known ∈ aggregateNames, name.map foldCase = known.toList.map foldCase

inductive IsArgument : List Char → Prop where
  | star : IsArgument ['*']
  | word {word : List Char} (nonempty : word ≠ []) (letters : ∀ c ∈ word, isWord c = true) :
      IsArgument word

inductive IsArguments : List Char → Prop where
  | listed {gap lead argument trail : List Char} (gaps : ∀ c ∈ gap, isBlank c = true)
      (leads : ∀ c ∈ lead, isBlank c = true) (argued : IsArgument argument)
      (trails : ∀ c ∈ trail, isBlank c = true) :
      IsArguments (gap ++ '(' :: (lead ++ argument ++ trail ++ [')']))

inductive IsCall : List Char → Prop where
  | call {name arguments : List Char} (named : IsAggregateName name)
      (listed : IsArguments arguments) : IsCall (name ++ arguments)

section Letters
variable {letter c : Char}

theorem toUpper_eq_iff (capital : letter.isUpper = true) :
    c.toUpper = letter ↔ c.toLower = letter.toLower := by
  unfold Char.isUpper at capital
  rw [decide_eq_true_eq] at capital
  unfold Char.toUpper Char.toLower
  rw [Char.ext_iff, Char.ext_iff]
  split <;> split <;> grind

theorem foldCase_of_isUpper (capital : letter.isUpper = true) :
    foldCase letter = letter.toLower := by
  unfold foldCase
  rw [if_neg, if_neg]
  · rintro rfl
    revert capital
    decide
  · rintro rfl
    revert capital
    decide

/-- A capital is spelled by the characters that fold alike. Only for a K these would be more. -/
theorem spells_iff (capital : letter.isUpper = true) (other : letter ≠ 'K') :
    spells letter c = true ↔ foldCase c = foldCase letter := by
  rw [foldCase_of_isUpper capital, spells, Bool.or_eq_true, Bool.and_eq_true, beq_iff_eq,
    beq_iff_eq, beq_iff_eq, toUpper_eq_iff capital]
  have letter_eq (small : Char) (same : small.toLower = letter.toLower) : small.toUpper = letter :=
    (toUpper_eq_iff capital).2 same
  unfold foldCase
  -- From outside ASCII only the long s and the Kelvin sign fold to letters.
  by_cases long : c = 'ſ'
  · rw [if_pos long, long]
    constructor
    · rintro (same | ⟨rfl, -⟩)
      · exact absurd (letter_eq _ same) (by rintro rfl; revert capital; decide)
      · rfl
    · intro same
      exact .inr ⟨(letter_eq 's' same).symm, rfl⟩
  · rw [if_neg long]
    by_cases kelvin : c = '\u212a'
    · rw [if_pos kelvin, kelvin]
      constructor
      · rintro (same | ⟨-, same⟩)
        · exact absurd (letter_eq _ same) (by rintro rfl; revert capital; decide)
        · cases same
      · intro same
        exact absurd (letter_eq 'k' same).symm other
    · rw [if_neg kelvin]
      simp [long]

end Letters

section Names

theorem letters_of_mem_aggregateNames : ∀ known ∈ aggregateNames, ∀ letter ∈ known.toList,
    letter.isUpper = true ∧ letter ≠ 'K' := by
  simp [aggregateNames]

theorem afterName?_eq_some_iff {name text rest : List Char}
    (letters : ∀ letter ∈ name, letter.isUpper = true ∧ letter ≠ 'K') :
    afterName? name text = some rest ↔
      ∃ front, text = front ++ rest ∧ front.map foldCase = name.map foldCase := by
  induction name generalizing text with
  | nil => simp [afterName?]
  | cons letter name ih =>
    obtain ⟨⟨capital, other⟩, letters⟩ := List.forall_mem_cons.1 letters
    rw [List.map_cons]
    cases text with
    | nil => simp [afterName?]
    | cons c text =>
      rw [afterName?]
      split
      · rename_i spelled
        rw [ih letters]
        constructor
        · rintro ⟨front, rfl, same⟩
          exact ⟨c :: front, rfl, by rw [List.map_cons, (spells_iff capital other).1 spelled, same]⟩
        · rintro ⟨_, split, same⟩
          obtain ⟨first, front, rfl, -, later⟩ := List.map_eq_cons_iff.1 same
          obtain ⟨-, rfl⟩ := List.cons.inj split
          exact ⟨front, rfl, later⟩
      · rename_i different
        constructor
        · intro found
          cases found
        · rintro ⟨_, split, same⟩
          obtain ⟨first, front, rfl, here, -⟩ := List.map_eq_cons_iff.1 same
          obtain ⟨rfl, -⟩ := List.cons.inj split
          exact absurd ((spells_iff capital other).2 here) different

end Names

section Arguments

theorem not_isWord_of_isBlank {c : Char} (blank : isBlank c = true) : isWord c = false := by
  have none : covers alphabetic c.toNat = false ∧ covers mark c.toNat = false ∧
      covers decimalNumber c.toNat = false ∧ covers connector c.toNat = false ∧
      covers joinControl c.toNat = false :=
    ⟨not_covers_of_apart (by decide +kernel) blank, not_covers_of_apart (by decide +kernel) blank,
      not_covers_of_apart (by decide +kernel) blank, not_covers_of_apart (by decide) blank,
      not_covers_of_apart (by decide) blank⟩
  simp [isWord, none]

theorem not_isWord_of_trail {trail : List Char} (trails : ∀ c ∈ trail, isBlank c = true)
    (after : List Char) : ∀ c ∈ (trail ++ ')' :: after).head?, isWord c = false := by
  intro c first
  cases trail with
  | nil =>
    cases first
    decide +kernel
  | cons first' trail =>
    cases first
    exact not_isWord_of_isBlank (trails c List.mem_cons_self)

theorem afterArgument?_append {argument rest : List Char} (argued : IsArgument argument)
    (ends : ∀ c ∈ rest.head?, isWord c = false) :
    afterArgument? (argument ++ rest) = some rest := by
  cases argued with
  | star => rfl
  | word nonempty letters =>
    obtain ⟨c, word, rfl⟩ := List.exists_cons_of_ne_nil nonempty
    obtain ⟨letter, letters⟩ := List.forall_mem_cons.1 letters
    have star : c ≠ '*' := by
      rintro rfl
      revert letter
      decide +kernel
    have stops : rest.dropWhile isWord = rest := by
      cases rest with
      | nil => rfl
      | cons first rest => exact List.dropWhile_cons_of_neg (by simp [ends first rfl])
    rw [List.cons_append, afterArgument?, if_neg star, if_pos letter,
      List.dropWhile_append_of_pos letters, stops]

theorem exists_argument {text rest : List Char} (read : afterArgument? text = some rest) :
    ∃ argument, IsArgument argument ∧ text = argument ++ rest := by
  cases text with
  | nil => cases read
  | cons c text =>
    rw [afterArgument?] at read
    split at read
    · rename_i star
      cases read
      exact ⟨['*'], .star, by rw [star]; rfl⟩
    · split at read
      · rename_i letter
        cases read
        refine ⟨c :: text.takeWhile isWord, .word (by simp) ?_, ?_⟩
        · exact List.forall_mem_cons.2 ⟨letter, fun _ => List.mem_takeWhile_imp⟩
        · rw [List.cons_append, List.takeWhile_append_dropWhile]
      · cases read

theorem IsArgument.exists_visible {argument : List Char} (argued : IsArgument argument) :
    ∃ c more, argument = c :: more ∧ isBlank c = false := by
  cases argued with
  | star => exact ⟨'*', [], rfl, rfl⟩
  | word nonempty letters =>
    obtain ⟨c, word, rfl⟩ := List.exists_cons_of_ne_nil nonempty
    refine ⟨c, word, rfl, Bool.eq_false_iff.2 fun blank => ?_⟩
    have letter := letters c List.mem_cons_self
    rw [not_isWord_of_isBlank blank] at letter
    cases letter

theorem beginsArguments_of_append {arguments : List Char} (listed : IsArguments arguments)
    (after : List Char) : beginsArguments (arguments ++ after) = true := by
  cases listed with
  | @listed gap lead argument trail gaps leads argued trails =>
    obtain ⟨c, more, rfl, visible⟩ := argued.exists_visible
    have shape : gap ++ '(' :: (lead ++ c :: more ++ trail ++ [')']) ++ after =
        gap ++ '(' :: (lead ++ c :: (more ++ (trail ++ ')' :: after))) := by
      simp
    have read := afterArgument?_append argued (not_isWord_of_trail trails after)
    have closed : trimStart (trail ++ ')' :: after) = ')' :: after :=
      trimStart_append_cons trails rfl after
    rw [List.cons_append] at read
    rw [shape, beginsArguments, trimStart_append_cons gaps rfl]
    simp only [trimStart_append_cons leads visible, read, closed]
    rfl

theorem exists_arguments {text : List Char} (begins : beginsArguments text = true) :
    ∃ arguments after, IsArguments arguments ∧ text = arguments ++ after := by
  rw [beginsArguments] at begins
  split at begins
  · rename_i inner opened
    split at begins
    · rename_i behind read
      obtain ⟨gap, gaps, whole⟩ := exists_trimStart text
      obtain ⟨lead, leads, inside⟩ := exists_trimStart inner
      obtain ⟨argument, argued, taken⟩ := exists_argument read
      obtain ⟨trail, trails, rest⟩ := exists_trimStart behind
      obtain ⟨after, closed⟩ := List.head?_eq_some_iff.1 (beq_iff_eq.1 begins)
      refine ⟨_, after, .listed gaps leads argued trails, ?_⟩
      rw [whole, opened, inside, taken, rest, closed]
      simp
    · cases begins
  · cases begins

end Arguments

theorem beginsCall_iff {text : List Char} :
    beginsCall text = true ↔ ∃ call after, text = call ++ after ∧ IsCall call := by
  simp only [beginsCall, List.any_eq_true, Option.any_eq_true]
  constructor
  · rintro ⟨known, member, rest, found, begins⟩
    obtain ⟨name, rfl, same⟩ :=
      (afterName?_eq_some_iff (letters_of_mem_aggregateNames known member)).1 found
    obtain ⟨arguments, after, listed, rfl⟩ := exists_arguments begins
    refine ⟨name ++ arguments, after, (List.append_assoc ..).symm, ?_⟩
    exact .call ⟨known, member, same⟩ listed
  · rintro ⟨_, after, rfl, ⟨⟨known, member, same⟩, listed⟩⟩
    refine ⟨known, member, _, ?_, beginsArguments_of_append listed after⟩
    rw [afterName?_eq_some_iff (letters_of_mem_aggregateNames known member)]
    exact ⟨_, List.append_assoc .., same⟩

theorem getLast?_cons_or (c : Char) (before : List Char) (previous : Option Char) :
    (c :: before).getLast?.or previous = before.getLast?.or (some c) := by
  rw [List.getLast?_cons]
  cases before.getLast? <;> rfl

theorem IsCall.ne_nil {call : List Char} (isCall : IsCall call) : call ≠ [] := by
  obtain ⟨-, ⟨-, -, -, -⟩⟩ := isCall
  simp

theorem callsAggregateFrom_iff {previous : Option Char} {text : List Char} :
    callsAggregateFrom previous text = true ↔ ∃ before call after, text = before ++ call ++ after ∧
      IsCall call ∧ ∀ c ∈ before.getLast?.or previous, isWord c = false := by
  -- The character in front is general: behind the first step it is the one that was passed.
  induction text generalizing previous with
  | nil =>
    rw [callsAggregateFrom]
    constructor
    · intro found
      cases found
    · rintro ⟨before, call, after, split, isCall, -⟩
      exact absurd (by simp_all) isCall.ne_nil
  | cons c text ih =>
    have apart : (!previous.any isWord) = true ↔ ∀ c ∈ previous, isWord c = false := by
      cases previous <;> simp
    rw [callsAggregateFrom, Bool.or_eq_true, Bool.and_eq_true, beginsCall_iff, apart, ih]
    constructor
    · rintro (⟨⟨call, after, split, isCall⟩, apart⟩ | ⟨before, call, after, rfl, isCall, apart⟩)
      · exact ⟨[], call, after, split, isCall, apart⟩
      · exact ⟨c :: before, call, after, rfl, isCall, by rwa [getLast?_cons_or]⟩
    · rintro ⟨before, call, after, split, isCall, apart⟩
      cases before with
      | nil => exact .inl ⟨⟨call, after, split, isCall⟩, apart⟩
      | cons first before =>
        obtain ⟨rfl, rfl⟩ := List.cons.inj split
        exact .inr ⟨before, call, after, rfl, isCall, by rwa [getLast?_cons_or] at apart⟩

/-- Aggregate functions are found exactly where they are called. -/
theorem hasUngroupedAggregate_iff (text : List Char) (groupBy : Option (List String)) :
    hasUngroupedAggregate text groupBy = true ↔ groupBy = none ∧
      ∃ before call after, text = before ++ call ++ after ∧ IsCall call ∧
        ∀ c ∈ before.getLast?, isWord c = false := by
  rw [hasUngroupedAggregate, Bool.and_eq_true, Option.isNone_iff_eq_none, callsAggregate,
    callsAggregateFrom_iff]
  simp only [Option.or_none]

-- The first name is followed by two words, and the second one is spelled with a long s.
example : hasUngroupedAggregate "MAX(a b) or ſum ( * )".toList none = true := by
  decide +kernel

end TableQuery.Query
