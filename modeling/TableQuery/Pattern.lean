/-! LIKE patterns.

In a pattern `%` stands for any stretch of characters, `_` for any one character, and every
other character for itself. The scan goes through the text once and keeps one point of return:
the pattern after the last `%`, and the text from which that pattern was last tried.
-/

set_option autoImplicit false

namespace TableQuery.Pattern

inductive Move where
  /-- A `%` comes first; the pattern goes on after it. -/
  | skip (rest : List Char)
  /-- The character is taken. -/
  | take (rest : List Char)
  | stuck

def move (c : Char) : List Char → Move
  | [] => .stuck
  | p :: rest => if p = '%' then .skip rest else if p = '_' ∨ p = c then .take rest else .stuck

theorem length_of_move_skip {c : Char} {pattern rest : List Char}
    (moved : move c pattern = .skip rest) : rest.length < pattern.length := by
  cases pattern with
  | nil => cases moved
  | cons p tail =>
    simp only [move] at moved
    split at moved
    · cases moved
      exact Nat.lt_succ_self _
    · split at moved <;> cases moved

theorem length_of_move_take {c : Char} {pattern rest : List Char}
    (moved : move c pattern = .take rest) : rest.length < pattern.length := by
  cases pattern with
  | nil => cases moved
  | cons p tail =>
    simp only [move] at moved
    split at moved
    · cases moved
    · split at moved
      · cases moved
        exact Nat.lt_succ_self _
      · cases moved

/-- Where a scan that is stuck starts again, one character further on. -/
structure Return where
  pattern : List Char
  text : List Char

def reach (text : List Char) : Option Return → Nat
  | some point => point.text.length
  | none => text.length + 1

/-- The text at hand is a later part of the text at the point of return. -/
def Within (text : List Char) (back : Option Return) : Prop :=
  ∀ point ∈ back, text.length ≤ point.text.length

def scan (text pattern : List Char) (back : Option Return) (within : Within text back) : Bool :=
  match text with
  | [] => pattern.all (· == '%')
  | c :: rest =>
    match _moved : move c pattern with
    | .skip following =>
      scan (c :: rest) following (some ⟨following, c :: rest⟩) (by simp [Within])
    | .take following =>
      scan rest following back fun point member => Nat.le_of_succ_le (within point member)
    | .stuck =>
      match back with
      | some ⟨following, _ :: later⟩ =>
        scan later following (some ⟨following, later⟩) (by simp [Within])
      | _ => false
termination_by (reach text back, pattern.length)
decreasing_by
  · have shorter := length_of_move_skip _moved
    cases back with
    | none => exact Prod.Lex.left _ _ (by simp [reach])
    | some point =>
      have bound := within point rfl
      simp only [List.length_cons] at bound
      simp only [reach, List.length_cons]
      rcases Nat.lt_or_eq_of_le bound with less | equal
      · exact Prod.Lex.left _ _ less
      · exact equal ▸ Prod.Lex.right _ shorter
  · have shorter := length_of_move_take _moved
    cases back with
    | none => exact Prod.Lex.left _ _ (by simp [reach])
    | some point => exact Prod.Lex.right _ shorter
  · exact Prod.Lex.left _ _ (by simp [reach])

def holds (pattern text : String) : Bool :=
  scan text.toList pattern.toList none (by simp [Within])

end TableQuery.Pattern
