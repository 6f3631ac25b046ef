import Mathlib.Algebra.Ring.Nat
import TableQuery.Proofs.Text.Classes
import TableQuery.Proofs.Text.Trimming

/-! What reading conserves.

Readers drop white space, quotes and commas, and the letters of the small words between the parts
that they keep. The weight of a text counts the other characters, so two texts that are read as
the same parts weigh the same.
-/

set_option autoImplicit false

namespace TableQuery.Text

/-- Whether `c` has no weight, in either case, when `letters` have none. -/
def isIncidental (letters : List Char) (c : Char) : Bool :=
  isBlank c.toLower || c.toLower == '\'' || c.toLower == ',' || letters.contains c.toLower

def weight (letters text : List Char) : Nat :=
  text.countP fun c => !isIncidental letters c

variable {letters : List Char}

@[simp] theorem weight_nil : weight letters [] = 0 := rfl

@[simp] theorem weight_append (first second : List Char) :
    weight letters (first ++ second) = weight letters first + weight letters second :=
  List.countP_append

theorem weight_cons (c : Char) (text : List Char) :
    weight letters (c :: text) = weight letters [c] + weight letters text :=
  weight_append [c] text

theorem weight_eq_zero_iff {text : List Char} :
    weight letters text = 0 ↔ ∀ c ∈ text, isIncidental letters c = true := by
  simp [weight, List.countP_eq_zero]

theorem isIncidental_of_isBlank {c : Char} (blank : isBlank c = true) :
    isIncidental letters c = true := by
  rw [isIncidental, toLower_of_isBlank blank, blank]
  rfl

theorem weight_blanks {text : List Char} (blank : ∀ c ∈ text, isBlank c = true) :
    weight letters text = 0 :=
  weight_eq_zero_iff.2 fun c member => isIncidental_of_isBlank (blank c member)

@[simp] theorem weight_space (text : List Char) :
    weight letters (' ' :: text) = weight letters text := by
  rw [weight_cons, weight_blanks blank_of_mem_space, Nat.zero_add]

theorem weight_of_letter {c : Char} (low : 'a'.toNat ≤ c.toLower.toNat)
    (high : c.toLower.toNat ≤ 'z'.toNat) : weight [] [c] = 1 := by
  have letter : covers [(97, 122)] c.toLower.toNat = true := by
    simp only [covers, List.any_cons, List.any_nil, Bool.or_false, Bool.and_eq_true,
      decide_eq_true_eq]
    exact ⟨low, high⟩
  have plain : isBlank c.toLower = false := not_covers_of_apart (by decide) letter
  have quote : c.toLower ≠ '\'' ∧ c.toLower ≠ ',' := by
    constructor <;>
    · intro same
      rw [same] at low
      revert low
      decide
  simp [weight, isIncidental, plain, quote]

theorem weight_trim (text : List Char) : weight letters (trim text) = weight letters text := by
  obtain ⟨lead, trail, before, after, same⟩ := exists_trim text
  conv => rhs; rw [same]
  simp [weight_blanks before, weight_blanks after]

theorem weight_of_sameLetters {first second : List Char}
    (same : first.map Char.toLower = second.map Char.toLower) :
    weight letters first = weight letters second := by
  have lowered : ∀ text : List Char, weight letters text =
      (text.map Char.toLower).countP fun c =>
        !(isBlank c || c == '\'' || c == ',' || letters.contains c) := by
    intro text
    rw [List.countP_map]
    rfl
  rw [lowered, lowered, same]

theorem weight_pieces {mark : Char → Bool}
    (light : ∀ c, mark c = true → isIncidental letters c = true) (text : List Char) :
    ((pieces mark text).map (weight letters)).sum = weight letters text := by
  induction text with
  | nil => rfl
  | cons c text ih =>
    rw [weight_cons, ← ih, pieces]
    split
    · rename_i marked
      have zero : weight letters [c] = 0 := by
        simpa [weight_eq_zero_iff] using light c marked
      simp [zero]
    · cases found : pieces mark text with
      | nil => exact absurd found (pieces_ne_nil mark text)
      | cons first more =>
        dsimp only
        rw [List.map_cons, List.map_cons, List.sum_cons, List.sum_cons, weight_cons c first]
        omega

theorem weight_entries (text : List Char) :
    ((entries text).map (weight letters)).sum = weight letters text := by
  refine weight_pieces (fun c marked => ?_) text
  obtain rfl := beq_iff_eq.1 marked
  rfl

theorem weight_words (text : List Char) :
    ((words text).map (weight letters)).sum = weight letters text := by
  have whole : ((pieces isBlank text).map (weight letters)).sum = weight letters text :=
    weight_pieces (fun _ => isIncidental_of_isBlank) text
  rw [← whole, words]
  induction pieces isBlank text with
  | nil => rfl
  | cons piece more ih =>
    rw [List.filter_cons]
    split
    · simp [ih]
    · simp_all

-- A word with weight cannot end in a text without weight that begins with white space.
theorem not_space_before_word {front word whole extra : List Char} {c : Char}
    (same : front ++ word = whole ++ c :: extra) (space : isSpace c = true)
    (solid : ∀ c ∈ word, isSpace c = false) (heavy : 0 < weight letters word)
    (level : weight letters (c :: extra) = 0) : False := by
  rcases List.append_eq_append_iff.1 same with ⟨gap, -, rfl⟩ | ⟨gap, -, inside⟩
  · have plain := solid c (by simp)
    rw [plain] at space
    cases space
  · rw [inside, weight_append] at level
    omega

theorem append_right_unique_of_le {front word tail front' word' tail' : List Char}
    (same : front ++ word ++ tail = front' ++ word' ++ tail')
    (solid : ∀ c ∈ word, isSpace c = false) (heavy : 0 < weight letters word)
    (ends' : ∀ c ∈ tail'.head?, isSpace c = true)
    (level : weight letters tail = weight letters tail') (shorter : tail.length ≤ tail'.length) :
    tail = tail' := by
  have suffix : tail <:+ tail' :=
    List.suffix_of_suffix_length_le (same ▸ List.suffix_append _ _) (List.suffix_append _ _) shorter
  obtain ⟨extra, rfl⟩ := suffix
  cases extra with
  | nil => rfl
  | cons c extra =>
    -- A longer tail would begin with white space and weigh nothing before the shorter one.
    rw [← List.append_assoc, List.append_cancel_right_eq] at same
    rw [weight_append] at level
    exact absurd (by omega) (not_space_before_word same (ends' c rfl) solid heavy)

/-- A word with weight that ends before white space: what follows it is known by its weight. -/
theorem append_right_unique {front word tail front' word' tail' : List Char}
    (same : front ++ word ++ tail = front' ++ word' ++ tail')
    (solid : ∀ c ∈ word, isSpace c = false) (solid' : ∀ c ∈ word', isSpace c = false)
    (heavy : 0 < weight letters word) (heavy' : 0 < weight letters word')
    (ends : ∀ c ∈ tail.head?, isSpace c = true) (ends' : ∀ c ∈ tail'.head?, isSpace c = true)
    (level : weight letters tail = weight letters tail') : tail = tail' := by
  rcases Nat.le_total tail.length tail'.length with shorter | longer
  · exact append_right_unique_of_le same solid heavy ends' level shorter
  · exact (append_right_unique_of_le same.symm solid' heavy' ends level.symm longer).symm

end TableQuery.Text
