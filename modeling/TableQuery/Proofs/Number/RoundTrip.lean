import TableQuery.Proofs.Number.Search
import TableQuery.Proofs.Number.WholeLiteral

/-! Numbers are read back from their text.

The text shows the digits that the search found, plainly or with a power of ten. Read as a literal
it gives the number again, its sign included.
-/

set_option autoImplicit false

namespace TableQuery

namespace Literal

variable {whole fraction rest : List Char}

theorem span_digits (digits : ∀ c ∈ whole, c.isDigit = true)
    (stops : ∀ c ∈ rest.head?, c.isDigit = false) :
    (whole ++ rest).takeWhile Char.isDigit = whole ∧
      (whole ++ rest).dropWhile Char.isDigit = rest := by
  rw [List.takeWhile_append_of_pos digits, List.dropWhile_append_of_pos digits]
  cases rest with
  | nil => simp
  | cons c rest => simp [stops c rfl]

theorem decimal?_pointed (digits : AreDigits whole) (others : ∀ c ∈ fraction, c.isDigit = true)
    (stops : ∀ c ∈ rest.head?, c.isDigit = false) :
    decimal? (whole ++ '.' :: (fraction ++ rest)) = (exponent? rest).map fun power =>
      (digitsValue (whole ++ fraction), power - (fraction.length : Int)) := by
  have point : ∀ c ∈ ('.' :: (fraction ++ rest)).head?, c.isDigit = false := by
    rintro c ⟨⟩
    rfl
  obtain ⟨taken, left⟩ := span_digits digits.digits point
  obtain ⟨behind, last⟩ := span_digits others stops
  unfold decimal?
  simp only [taken, left, splitFraction, behind, last]
  rw [if_neg (by simp [digits.ne_nil])]

theorem decimal?_whole (digits : AreDigits whole) (stops : ∀ c ∈ rest.head?, c.isDigit = false)
    (plain : ∀ c ∈ rest.head?, c ≠ '.') :
    decimal? (whole ++ rest) = (exponent? rest).map fun power =>
      (digitsValue whole, power) := by
  obtain ⟨taken, left⟩ := span_digits digits.digits stops
  have split : splitFraction rest = ([], rest) := by
    unfold splitFraction
    split
    · exact absurd rfl (plain '.' rfl)
    · rfl
  unfold decimal?
  simp only [taken, left, split]
  rw [if_neg (by simp [digits.ne_nil])]
  simp

end Literal

namespace Double

variable {number : Digits} {units : Nat}

def Reads (text : List Char) (units : Nat) : Prop :=
  ∃ coefficient exponent, Literal.decimal? text = some (coefficient, exponent) ∧
    decimalUnits coefficient exponent = units

theorem digitsValue_zeros_append (k : Nat) (digits : List Char) :
    Literal.digitsValue (List.replicate k '0' ++ digits) = Literal.digitsValue digits := by
  have zeros : Nat.ofDigitChars 10 (List.replicate k '0') 0 = 0 := by simp
  have split := Nat.ofDigitChars_append (b := 10) (l := List.replicate k '0') (m := digits) 0
  rw [zeros] at split
  exact split

/-- A number below one shows its digits behind the point. -/
theorem reads_fraction (digits : AreDigits number.digits) (small : number.exponent < 0) :
    Reads ('0' :: '.' :: List.replicate ((-number.exponent).toNat - 1) '0' ++ number.digits)
      number.magnitude := by
  have others : ∀ c ∈ List.replicate ((-number.exponent).toNat - 1) '0' ++ number.digits,
      c.isDigit = true :=
    List.forall_mem_append.2 ⟨isDigit_of_mem_replicate, digits.digits⟩
  have read := @Literal.decimal?_pointed _ _ [] (@areDigits_singleton '0' rfl) others nofun
  rw [List.append_nil] at read
  refine ⟨_, _, read, ?_⟩
  have value := digitsValue_zeros_append ((-number.exponent).toNat - 1 + 1) number.digits
  rw [List.replicate_succ] at value
  have place : 0 - ((List.replicate ((-number.exponent).toNat - 1) '0' ++
      number.digits).length : Int) = number.exponent + 1 - number.digits.length := by
    rw [List.length_append, List.length_replicate]
    omega
  rw [Digits.magnitude, ← place, ← value]
  rfl

/-- A whole number ends in zeros, the last of them behind the point. -/
theorem reads_whole (digits : AreDigits number.digits) {size : Nat}
    (place : number.exponent = (size : Int) - 1) (short : number.digits.length ≤ size) :
    Reads (number.digits ++ List.replicate (size - number.digits.length) '0' ++ ['.', '0'])
      number.magnitude := by
  have whole : AreDigits (number.digits ++ List.replicate (size - number.digits.length) '0') :=
    digits.append isDigit_of_mem_replicate
  have zero : ∀ c ∈ ['0'], c.isDigit = true := List.forall_mem_singleton.2 rfl
  have read := @Literal.decimal?_pointed _ _ [] whole zero nofun
  rw [List.append_nil] at read
  refine ⟨_, _, read, ?_⟩
  have value := digitsValue_append_zeros number.digits (size - number.digits.length + 1)
  rw [List.replicate_succ', ← List.append_assoc] at value
  have last : 0 - ((['0'] : List Char).length : Int) + (size - number.digits.length + 1 : Nat) =
      number.exponent + 1 - number.digits.length := by
    rw [List.length_singleton]
    omega
  rw [value, decimalUnits_mul_ten_pow, last, Digits.magnitude]

/-- A number with digits on both sides of the point. -/
theorem reads_mixed (digits : AreDigits number.digits) {size : Nat} (positive : 0 < size)
    (place : number.exponent = (size : Int) - 1) (long : size < number.digits.length) :
    Reads (number.digits.take size ++ '.' :: number.digits.drop size) number.magnitude := by
  have whole : AreDigits (number.digits.take size) := by
    constructor
    · rw [Ne, List.take_eq_nil_iff, not_or]
      exact ⟨Nat.ne_of_gt positive, digits.ne_nil⟩
    · exact fun c member => digits.digits c (List.mem_of_mem_take member)
  have others : ∀ c ∈ number.digits.drop size, c.isDigit = true :=
    fun c member => digits.digits c (List.mem_of_mem_drop member)
  have read := @Literal.decimal?_pointed _ _ [] whole others nofun
  rw [List.append_nil, List.take_append_drop] at read
  refine ⟨_, _, read, ?_⟩
  have last : 0 - ((number.digits.drop size).length : Int) =
      number.exponent + 1 - number.digits.length := by
    rw [List.length_drop]
    omega
  rw [Digits.magnitude, ← last]

theorem reads_plainText (significant : number.Significant) :
    Reads (plainText number) number.magnitude := by
  have digits := significant.areDigits
  unfold plainText
  split
  · rename_i small
    exact reads_fraction digits small
  · extract_lets size fraction
    have place : number.exponent = (size : Int) - 1 := by
      show number.exponent = ((number.exponent.toNat + 1 : Nat) : Int) - 1
      omega
    -- The point stands among the digits, or behind all of them.
    rcases Nat.lt_or_ge size number.digits.length with long | short
    · have full : size - number.digits.length = 0 := by omega
      have nonempty : fraction.isEmpty = false := by
        rw [List.isEmpty_eq_false_iff, Ne, List.drop_eq_nil_iff]
        omega
      have read := reads_mixed digits (Nat.succ_pos _) place long
      rw [full, nonempty]
      simpa using read
    · have empty : fraction = [] := List.drop_eq_nil_of_le short
      have read := reads_whole digits place short
      rw [empty, List.take_of_length_le short]
      exact read

theorem exponent?_scientific (exponent : Int) :
    Literal.exponent? ('e' :: (if exponent < 0 then '-' else '+') ::
      Nat.toDigits 10 exponent.natAbs) = some exponent := by
  have digits := areDigits_toDigits exponent.natAbs
  have value : Literal.digitsValue (Nat.toDigits 10 exponent.natAbs) = exponent.natAbs :=
    Nat.ofDigitChars_ten_toDigits
  rw [Literal.exponent?, if_pos (.inl rfl), Literal.integer?_eq_some_iff]
  split
  · refine ⟨digits, ?_⟩
    show Literal.signed true (Literal.digitsValue (Nat.toDigits 10 exponent.natAbs)) = exponent
    rw [value, Literal.signed, if_pos rfl]
    omega
  · refine ⟨digits, ?_⟩
    show Literal.signed false (Literal.digitsValue (Nat.toDigits 10 exponent.natAbs)) = exponent
    rw [value, Literal.signed, if_neg Bool.false_ne_true]
    omega

theorem reads_scientificText (significant : number.Significant) :
    Reads (scientificText number) number.magnitude := by
  have digits := significant.areDigits
  have power := exponent?_scientific number.exponent
  unfold scientificText Digits.magnitude
  dsimp only
  -- Of the exponent only its value counts, and that it begins with its mark.
  generalize (if number.exponent < 0 then '-' else '+') ::
    Nat.toDigits 10 number.exponent.natAbs = tail at power ⊢
  have stops : ∀ c ∈ ('e' :: tail).head?, c.isDigit = false := by
    rintro c ⟨⟩
    rfl
  have plain : ∀ c ∈ ('e' :: tail).head?, c ≠ '.' := by
    rintro c ⟨⟩
    decide
  cases shown : number.digits with
  | nil => exact absurd shown digits.ne_nil
  | cons first rest =>
    rw [shown] at digits
    obtain ⟨leading, others⟩ := List.forall_mem_cons.1 digits.digits
    have whole := areDigits_singleton leading
    -- A single digit is written without a point.
    cases rest with
    | nil =>
      have read := Literal.decimal?_whole whole stops plain
      rw [power] at read
      refine ⟨_, _, read, ?_⟩
      rw [List.length_singleton, Int.natCast_one, Int.add_sub_cancel]
    | cons second rest =>
      have read := Literal.decimal?_pointed whole others stops
      rw [power] at read
      refine ⟨_, _, read, ?_⟩
      have last : number.exponent - ((second :: rest).length : Int) =
          number.exponent + 1 - ((first :: second :: rest).length : Int) := by
        simp only [List.length_cons]
        omega
      rw [last]
      rfl

theorem reads_magnitudeText (onGrid : gap units ∣ units) : Reads (magnitudeText units) units := by
  unfold magnitudeText
  split
  · rename_i zero
    subst zero
    exact ⟨0, -1, rfl, decimalUnits_zero _⟩
  · rename_i nonzero
    have positive := Nat.pos_of_ne_zero nonzero
    have significant := significant_shortestDigits positive
    have plain := reads_plainText significant
    have scientific := reads_scientificText significant
    rw [magnitude_shortestDigits onGrid positive] at plain scientific
    extract_lets number
    split
    · exact plain
    · exact scientific

theorem exists_digit_of_isMagnitude {text : List Char} (magnitude : IsMagnitude text) :
    ∃ c, text.head? = some c ∧ c.isDigit = true := by
  cases magnitude with
  | written whole _ _ =>
    obtain ⟨c, rest, rfl⟩ := List.exists_cons_of_ne_nil whole.areDigits.ne_nil
    exact ⟨c, rfl, whole.areDigits.digits c List.mem_cons_self⟩

theorem splitSign_text (number : Double) : Literal.splitSign number.text.toList =
    (number.negative, magnitudeText number.units) := by
  rw [text, String.toList_ofList]
  cases number.negative with
  | true => rfl
  | false =>
    obtain ⟨c, first, digit⟩ := exists_digit_of_isMagnitude (isMagnitude_magnitudeText number.units)
    exact Literal.splitSign_of_isDigit first digit

theorem ofText?_text {number : Double} (representable : number.Representable) :
    Literal.ofText? number.text.toList = some (.finite number) := by
  obtain ⟨coefficient, exponent, read, rounds⟩ := reads_magnitudeText representable.onGrid
  unfold Literal.ofText?
  rw [splitSign_text]
  dsimp only
  rw [read]
  dsimp only
  rw [ofDecimal?_eq, rounds, if_pos representable.bounded]

theorem exists_mark (units : Nat) : ∃ c ∈ magnitudeText units, c.isDigit = false := by
  unfold magnitudeText
  split
  · exact ⟨'.', by decide, rfl⟩
  · extract_lets number
    split
    · refine ⟨'.', ?_, rfl⟩
      unfold plainText
      split <;> simp
    · exact ⟨'e', by simp [scientificText], rfl⟩

/-- A floating-point number is not written as a whole one. -/
theorem integer?_text (number : Double) : Literal.integer? number.text.toList = none := by
  apply Option.eq_none_iff_forall_not_mem.2
  intro m read
  have digits := (Literal.integer?_eq_some_iff.1 read).1
  rw [splitSign_text] at digits
  obtain ⟨c, member, mark⟩ := exists_mark number.units
  exact Bool.false_ne_true (mark.symm.trans (digits.digits c member))

theorem representable_of_ofText? {text : List Char} {number : Double}
    (read : Literal.ofText? text = some (.finite number)) : number.Representable := by
  unfold Literal.ofText? at read
  dsimp only at read
  split at read
  · rw [Option.some_inj] at read
    split at read
    · rename_i found
      cases read
      exact representable_of_ofDecimal? found
    · cases read
  · unfold Literal.word? at read
    dsimp only at read
    split at read
    · cases read
    · split at read <;> cases read

end Double

end TableQuery
