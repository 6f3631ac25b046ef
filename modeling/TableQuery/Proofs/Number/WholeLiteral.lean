import TableQuery.Number.Literal
import TableQuery.Proofs.Number.Notation
import TableQuery.Proofs.Number.Rounding
import TableQuery.Proofs.Number.Spelling
import TableQuery.Proofs.Text.Trimming

/-! Literals of whole numbers.

A sign and digits are read as a whole number, and as a literal of the floating-point number nearest
to it. The text of a whole number is read back as that number.
-/

set_option autoImplicit false

namespace TableQuery.Literal

variable {text : List Char} {m : Int}

def signed (negative : Bool) (magnitude : Nat) : Int :=
  if negative then -(magnitude : Int) else magnitude

theorem natAbs_signed (negative : Bool) (magnitude : Nat) :
    (signed negative magnitude).natAbs = magnitude := by
  cases negative <;> simp [signed]

theorem accepts_digits_iff :
    (text.isEmpty || !text.all Char.isDigit) = false ↔ AreDigits text := by
  rw [Bool.or_eq_false_iff, List.isEmpty_eq_false_iff, Bool.not_eq_false', List.all_eq_true]
  exact ⟨fun accepted => ⟨accepted.1, accepted.2⟩, fun digits => ⟨digits.ne_nil, digits.digits⟩⟩

theorem integer?_eq_some_iff : integer? text = some m ↔ AreDigits (splitSign text).2 ∧
    signed (splitSign text).1 (digitsValue (splitSign text).2) = m := by
  unfold integer?
  obtain ⟨negative, rest⟩ := splitSign text
  dsimp only
  rw [← accepts_digits_iff]
  cases rest.isEmpty || !rest.all Char.isDigit with
  | true => simp
  | false => cases negative <;> simp [signed]

theorem decimal?_of_areDigits (digits : AreDigits text) :
    decimal? text = some (digitsValue text, 0) := by
  have whole : text.takeWhile Char.isDigit = text := List.takeWhile_eq_self_iff.2 digits.digits
  have rest : text.dropWhile Char.isDigit = [] := List.dropWhile_eq_nil_iff.2 digits.digits
  simp [decimal?, whole, rest, splitFraction, exponent?, digits.ne_nil]

theorem ofDecimal?_whole (negative : Bool) {k : Nat} (small : k ≤ 2 ^ 64) :
    Double.ofDecimal? negative k 0 = some ⟨negative, Double.roundUnits (k * Double.one) 1⟩ := by
  unfold Double.ofDecimal?
  split
  · rename_i zero
    rw [zero, Nat.zero_mul]
    rfl
  · have above : ¬(0 + (k.log2 : Int) < -400) := by omega
    rw [if_neg (by decide), if_neg above]
    simp [Double.round?, Double.roundUnits_lt_limit small]

theorem signedUnits_signed (negative : Bool) (k : Nat) :
    (Double.mk negative (Double.roundUnits (k * Double.one) 1)).signedUnits =
      (Double.ofInt (signed negative k)).signedUnits := by
  rw [Double.signedUnits_ofInt, natAbs_signed, Double.signedUnits]
  cases negative with
  | false => simp [signed, Int.not_lt.2 (Int.natCast_nonneg k)]
  | true =>
    rcases Nat.eq_zero_or_pos k with rfl | positive
    · rw [Nat.zero_mul]
      rfl
    · have below : signed true k < 0 := Int.neg_neg_of_pos (Int.natCast_pos.2 positive)
      rw [if_pos rfl, if_pos below]

theorem exists_finite_of_integer? (read : integer? text = some m) (small : m.natAbs ≤ 2 ^ 64) :
    ∃ value, ofText? text = some (.finite value) ∧
      value.signedUnits = (Double.ofInt m).signedUnits := by
  obtain ⟨digits, rfl⟩ := integer?_eq_some_iff.1 read
  rw [natAbs_signed] at small
  refine ⟨⟨_, _⟩, ?_, signedUnits_signed _ _⟩
  unfold ofText?
  dsimp only
  rw [decimal?_of_areDigits digits]
  dsimp only
  rw [ofDecimal?_whole _ small]

theorem splitSign_of_isDigit {c : Char} (first : text.head? = some c) (digit : c.isDigit = true) :
    splitSign text = (false, text) := by
  unfold splitSign
  split
  · cases first
    exact absurd digit (by decide)
  · cases first
    exact absurd digit (by decide)
  · rfl

theorem integer?_intText (m : Int) : integer? (Value.intText m).toList = some m := by
  have digits := areDigits_toDigits m.natAbs
  have read : digitsValue (Nat.toDigits 10 m.natAbs) = m.natAbs := Nat.ofDigitChars_ten_toDigits
  rw [integer?_eq_some_iff, Value.intText, String.toList_ofList]
  split
  · refine ⟨digits, ?_⟩
    show signed true (digitsValue (Nat.toDigits 10 m.natAbs)) = m
    rw [read, signed, if_pos rfl]
    omega
  · obtain ⟨c, rest, same⟩ := List.exists_cons_of_ne_nil digits.ne_nil
    have digit := digits.digits c (same ▸ List.mem_cons_self)
    rw [List.nil_append, splitSign_of_isDigit (congrArg List.head? same) digit]
    refine ⟨digits, ?_⟩
    show signed false (digitsValue (Nat.toDigits 10 m.natAbs)) = m
    rw [read, signed, if_neg Bool.false_ne_true]
    omega

theorem integer?_trim_intText (m : Int) :
    integer? (Text.trim (Value.intText m).toList) = some m := by
  have read := integer?_intText m
  have solid : ∀ c ∈ (Value.intText m).toList, Text.isBlank c = false := fun c member =>
    not_blank_of_isNumeral (spelled_of_integer? read c member)
  rw [(Text.trimmed_of_solid solid).trim_eq, read]

end TableQuery.Literal
