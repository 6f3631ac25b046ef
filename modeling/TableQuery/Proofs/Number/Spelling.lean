import Mathlib.Data.List.TakeWhile
import TableQuery.Number.Literal
import TableQuery.Proofs.Text.Classes

/-! The characters that numeric literals are spelled with. -/

set_option autoImplicit false

namespace TableQuery.Literal

open Text

/-- The letters of an exponent and of `infinity` and `nan`, in lower case. -/
def numeralLetters : List Char :=
  "einftya".toList

def isNumeral (c : Char) : Bool :=
  c.isDigit || c == '+' || c == '-' || c == '.' || numeralLetters.contains c.toLower

def Spelled (text : List Char) : Prop :=
  ∀ c ∈ text, isNumeral c = true

theorem spelled_append {first second : List Char} (before : Spelled first)
    (after : Spelled second) : Spelled (first ++ second) := by
  intro c member
  rcases List.mem_append.1 member with member | member
  · exact before c member
  · exact after c member

theorem spelled_digits {text : List Char} (digits : ∀ c ∈ text, c.isDigit = true) :
    Spelled text := by
  intro c member
  rw [isNumeral, digits c member]
  rfl

theorem spelled_cons {c : Char} {text : List Char} (first : isNumeral c = true)
    (rest : Spelled text) : Spelled (c :: text) := by
  intro other member
  rcases List.mem_cons.1 member with rfl | member
  · exact first
  · exact rest other member

theorem spelled_of_splitSign {text : List Char} (rest : Spelled (splitSign text).2) :
    Spelled text := by
  unfold splitSign at rest
  split at rest
  · exact spelled_cons (by decide) rest
  · exact spelled_cons (by decide) rest
  · exact rest

theorem spelled_of_integer? {text : List Char} {value : Int}
    (read : integer? text = some value) : Spelled text := by
  refine spelled_of_splitSign (spelled_digits ?_)
  simp only [integer?] at read
  split at read
  · cases read
  · rename_i digits
    simp only [Bool.or_eq_true, Bool.not_eq_true', not_or, Bool.not_eq_false] at digits
    exact List.all_eq_true.1 digits.2

theorem spelled_of_exponent? {text : List Char} {value : Int}
    (read : exponent? text = some value) : Spelled text := by
  unfold exponent? at read
  split at read
  · simp [Spelled]
  · rename_i letter rest
    split at read
    · rename_i same
      refine spelled_cons ?_ (spelled_of_integer? read)
      rcases same with rfl | rfl <;> decide
    · cases read

theorem spelled_of_splitFraction {text : List Char} (rest : Spelled (splitFraction text).2) :
    Spelled text := by
  unfold splitFraction at rest
  split at rest
  · rename_i tail
    apply spelled_cons (by decide)
    rw [← List.takeWhile_append_dropWhile (p := Char.isDigit) (l := tail)]
    exact spelled_append (spelled_digits fun _ => List.mem_takeWhile_imp) rest
  · exact rest

theorem spelled_of_decimal? {text : List Char} {value : Nat × Int}
    (read : decimal? text = some value) : Spelled text := by
  rw [← List.takeWhile_append_dropWhile (p := Char.isDigit) (l := text)]
  apply spelled_append (spelled_digits fun _ => List.mem_takeWhile_imp)
  simp only [decimal?] at read
  split at read
  · cases read
  · obtain ⟨exponent, found, -⟩ := Option.map_eq_some_iff.1 read
    exact spelled_of_splitFraction (spelled_of_exponent? found)

theorem spelled_of_word? {negative : Bool} {text : List Char} {literal : Literal}
    (read : word? negative text = some literal) : Spelled text := by
  have letters : ∀ c ∈ text.map Char.toLower, numeralLetters.contains c = true := by
    simp only [word?] at read
    split at read
    · rename_i same
      rcases same with same | same <;> rw [same] <;> exact List.all_eq_true.1 rfl
    · split at read
      · rename_i same
        rw [same]
        exact List.all_eq_true.1 rfl
      · cases read
  intro c member
  rw [isNumeral, letters c.toLower (List.mem_map_of_mem member), Bool.or_true]

theorem spelled_of_ofText? {text : List Char} {literal : Literal}
    (read : ofText? text = some literal) : Spelled text := by
  apply spelled_of_splitSign
  simp only [ofText?] at read
  split at read
  · rename_i found
    exact spelled_of_decimal? found
  · exact spelled_of_word? read

theorem ne_nil_of_ofText? {text : List Char} {literal : Literal}
    (read : ofText? text = some literal) : text ≠ [] := by
  rintro rfl
  cases read

theorem not_blank_of_isNumeral {c : Char} (numeral : isNumeral c = true) : isBlank c = false := by
  have plain : ∀ letter ∈ numeralLetters, (!isBlank letter) = true := List.all_eq_true.1 rfl
  simp only [isNumeral, Bool.or_eq_true, beq_iff_eq, List.contains_iff_mem] at numeral
  rcases numeral with (((digit | rfl) | rfl) | rfl) | letter
  · exact not_blank_of_isDigit digit
  · rfl
  · rfl
  · rfl
  · apply Bool.eq_false_iff.2
    intro blank
    rw [toLower_of_isBlank blank] at letter
    have visible := plain c letter
    rw [blank] at visible
    cases visible

theorem isNumeral_toLower {c : Char} (numeral : isNumeral c = true) :
    isNumeral c.toLower = true := by
  have letters : ∀ letter ∈ numeralLetters, isNumeral letter = true := List.all_eq_true.1 rfl
  have whole := numeral
  simp only [isNumeral, Bool.or_eq_true, beq_iff_eq, List.contains_iff_mem] at numeral
  rcases numeral with (((digit | rfl) | rfl) | rfl) | letter
  · rwa [toLower_of_isDigit digit]
  · rfl
  · rfl
  · rfl
  · exact letters _ letter

theorem not_mem_of_spelled {text : List Char} (spelled : Spelled text) {letter : Char}
    (other : isNumeral letter = false) : letter ∉ text.map Char.toLower := by
  intro member
  obtain ⟨c, inside, rfl⟩ := List.mem_map.1 member
  rw [isNumeral_toLower (spelled c inside)] at other
  cases other

end TableQuery.Literal
