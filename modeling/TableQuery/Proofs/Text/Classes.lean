import TableQuery.Text.Blank
import TableQuery.Text.Word

/-! Characters of different classes. -/

set_option autoImplicit false

namespace TableQuery.Text

/-- No interval of the one table meets one of the other. -/
def Apart (first second : List (Nat × Nat)) : Prop :=
  ∀ left ∈ first, ∀ right ∈ second, left.2 < right.1 ∨ right.2 < left.1

instance (first second : List (Nat × Nat)) : Decidable (Apart first second) :=
  inferInstanceAs (Decidable (∀ left ∈ first, ∀ right ∈ second, left.2 < right.1 ∨ right.2 < left.1))

theorem not_covers_of_apart {first second : List (Nat × Nat)} {code : Nat}
    (apart : Apart first second) (covered : covers first code = true) :
    covers second code = false := by
  apply Bool.eq_false_iff.2
  intro other
  obtain ⟨left, member, lower, upper⟩ := covers_iff.1 covered
  obtain ⟨right, member', lower', upper'⟩ := covers_iff.1 other
  have sides := apart left member right member'
  omega

theorem toLower_of_apart {c : Char} {table : List (Nat × Nat)}
    (apart : Apart table [('A'.toNat, 'Z'.toNat)]) (covered : covers table c.toNat = true) :
    c.toLower = c := by
  have other := not_covers_of_apart apart covered
  unfold Char.toLower
  rw [dif_neg]
  rintro ⟨low, high⟩
  have first : 'A'.toNat ≤ c.toNat := UInt32.le_iff_toNat_le.1 low
  have last : c.toNat ≤ 'Z'.toNat := UInt32.le_iff_toNat_le.1 high
  simp only [covers, List.any_cons, List.any_nil, first, last] at other
  cases other

theorem toLower_of_isBlank {c : Char} (blank : isBlank c = true) : c.toLower = c :=
  toLower_of_apart (by decide) blank

theorem covers_of_isDigit {c : Char} (digit : c.isDigit = true) :
    covers [('0'.toNat, '9'.toNat)] c.toNat = true := by
  simp only [Char.isDigit, Bool.and_eq_true, decide_eq_true_eq] at digit
  have first : '0'.toNat ≤ c.toNat := UInt32.le_iff_toNat_le.1 digit.1
  have last : c.toNat ≤ '9'.toNat := UInt32.le_iff_toNat_le.1 digit.2
  simp only [covers, List.any_cons, List.any_nil, first, last]
  rfl

theorem toLower_of_isDigit {c : Char} (digit : c.isDigit = true) : c.toLower = c :=
  toLower_of_apart (by decide) (covers_of_isDigit digit)

theorem not_space_of_not_blank {c : Char} (visible : isBlank c = false) : isSpace c = false := by
  apply Bool.eq_false_iff.2
  intro space
  rw [isBlank_of_isSpace space] at visible
  cases visible

theorem not_blank_of_isDigit {c : Char} (digit : c.isDigit = true) : isBlank c = false :=
  not_covers_of_apart (by decide) (covers_of_isDigit digit)

theorem covers_of_isAlpha {c : Char} (letter : c.isAlpha = true) :
    covers [('A'.toNat, 'Z'.toNat), ('a'.toNat, 'z'.toNat)] c.toNat = true := by
  unfold Char.isAlpha Char.isUpper Char.isLower at letter
  simp only [Bool.or_eq_true, Bool.and_eq_true, decide_eq_true_eq] at letter
  rcases letter with upper | lower
  · have first : 'A'.toNat ≤ c.toNat := UInt32.le_iff_toNat_le.1 upper.1
    have last : c.toNat ≤ 'Z'.toNat := UInt32.le_iff_toNat_le.1 upper.2
    exact covers_iff.2 ⟨_, List.mem_cons_self, first, last⟩
  · have first : 'a'.toNat ≤ c.toNat := UInt32.le_iff_toNat_le.1 lower.1
    have last : c.toNat ≤ 'z'.toNat := UInt32.le_iff_toNat_le.1 lower.2
    exact covers_iff.2 ⟨_, List.mem_cons_of_mem _ List.mem_cons_self, first, last⟩

theorem not_isAlpha_of_isBlank {c : Char} (blank : isBlank c = true) : c.isAlpha = false := by
  apply Bool.eq_false_iff.2
  intro letter
  have visible : isBlank c = false := not_covers_of_apart (by decide) (covers_of_isAlpha letter)
  rw [blank] at visible
  cases visible

theorem not_covers_of_isAlphanumeric {c : Char} {table : List (Nat × Nat)}
    (apart : Apart alphabetic table ∧ Apart decimalNumber table ∧ Apart otherNumber table)
    (alphanumeric : isAlphanumeric c = true) : covers table c.toNat = false := by
  simp only [isAlphanumeric, Bool.or_eq_true] at alphanumeric
  rcases alphanumeric with (letter | digit) | number
  · exact not_covers_of_apart apart.1 letter
  · exact not_covers_of_apart apart.2.1 digit
  · exact not_covers_of_apart apart.2.2 number

theorem not_blank_of_isAlphanumeric {c : Char} (alphanumeric : isAlphanumeric c = true) :
    isBlank c = false :=
  not_covers_of_isAlphanumeric (by decide +kernel) alphanumeric

theorem ne_of_isAlphanumeric {c : Char} (alphanumeric : isAlphanumeric c = true) :
    c ≠ '\'' ∧ c ≠ '.' ∧ c ≠ '=' := by
  have outside : covers [(0x27, 0x27), (0x2E, 0x2E), (0x3D, 0x3D)] c.toNat = false :=
    not_covers_of_isAlphanumeric (by decide +kernel) alphanumeric
  refine ⟨?_, ?_, ?_⟩ <;> rintro rfl <;> cases outside

end TableQuery.Text
