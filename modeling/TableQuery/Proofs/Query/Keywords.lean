import TableQuery.Proofs.Query.Conservation
import TableQuery.Request.Printing

/-! The keywords of canonical query text. -/

set_option autoImplicit false

namespace TableQuery.Query

open Text

theorem lettered_iff {phrase : Phrase} :
    phrase.Lettered ↔ (!phrase.isEmpty &&
      phrase.all fun word => !word.toList.isEmpty && word.toList.all Char.isAlpha) = true := by
  simp only [Bool.and_eq_true, List.all_eq_true, Bool.not_eq_true', List.isEmpty_eq_false_iff]
  constructor
  · intro lettered
    exact ⟨lettered.nonempty, lettered.words⟩
  · intro parts
    exact ⟨parts.1, parts.2⟩

instance (phrase : Phrase) : Decidable phrase.Lettered :=
  decidable_of_iff _ lettered_iff.symm

theorem matchWord?_self (word rest : List Char) :
    matchWord? word (word ++ rest) = some (word, rest) := by
  induction word with
  | nil => rfl
  | cons letter word ih => simp [matchWord?, ih]

theorem heading_word {word : String} (lettered : Phrase.Lettered [word]) (tail : List Char) :
    Heading [⟨(), [word]⟩] () word.toList (' ' :: tail) where
  border := by
    refine ⟨rfl, ?_, ?_⟩
    · simpa using lettered
    · simp [Phrase.EndsBefore]
  matched := by
    have here := matchPhrase?_singleton_iff.2 ⟨matchWord?_self word.toList (' ' :: tail), rfl⟩
    rw [matchAny?, here]
  nonempty := (lettered.words word (by simp)).1
  free := by
    intro quote
    have alpha := (lettered.words word (by simp)).2 _ quote
    revert alpha
    decide

theorem heading_by {first : String} (sorted : first ∈ ["ORDER", "GROUP"]) (tail : List Char) :
    Heading [⟨(), [first, "BY"]⟩] () (first.toList ++ " BY".toList) (' ' :: tail) := by
  simp only [List.mem_cons, List.not_mem_nil, or_false] at sorted
  constructor
  · refine ⟨rfl, ?_, fun keyword member => ?_⟩
    · rcases sorted with rfl | rfl <;> decide
    · obtain rfl := List.mem_singleton.1 member
      rcases sorted with rfl | rfl <;> exact ⟨rfl, trivial⟩
  · rcases sorted with rfl | rfl <;> rfl
  · simp
  · rcases sorted with rfl | rfl <;> decide

theorem heading_join (kind : JoinKind) (tail : List Char) :
    Heading joinKeywords kind (kind.keyword.toList ++ " JOIN".toList) (' ' :: tail) where
  border := by
    refine ⟨rfl, by decide, fun keyword member => ?_⟩
    obtain ⟨other, -, rfl⟩ := List.mem_map.1 member
    cases kind <;> exact ⟨rfl, trivial⟩
  matched := by cases kind <;> rfl
  nonempty := by cases kind <;> decide
  free := by cases kind <;> decide

theorem heading_and (tail : List Char) :
    Heading connectives () "AND".toList (' ' :: tail) where
  border := ⟨rfl, by decide, by simp [Phrase.EndsBefore, connectives]⟩
  matched := rfl
  nonempty := by decide
  free := by decide

theorem heavy_word {letters : List Char} {word : String}
    (weighs : 0 < weight letters word.toList) : Heavy letters [⟨(), [word]⟩] := by
  intro keyword member
  obtain rfl := List.mem_singleton.1 member
  exact ⟨word, rfl, weighs⟩

theorem heavy_by (first : String) : Heavy particles [⟨(), [first, "BY"]⟩] := by
  intro keyword member
  obtain rfl := List.mem_singleton.1 member
  exact ⟨"BY", rfl, by decide⟩

theorem heavy_join : Heavy particles joinKeywords := by
  intro keyword member
  obtain ⟨kind, -, rfl⟩ := List.mem_map.1 member
  exact ⟨"JOIN", rfl, by decide⟩

end TableQuery.Query
