import Mathlib.Data.List.TakeWhile
import TableQuery.Value

/-! Numbers as they are written.

Whole numbers and floating-point numbers are written in one grammar: an optional minus, a whole part
without superfluous zeros, and then perhaps a fraction and perhaps an exponent.
-/

set_option autoImplicit false

namespace TableQuery

structure AreDigits (text : List Char) : Prop where
  ne_nil : text ≠ []
  digits : ∀ c ∈ text, c.isDigit = true

/-- The whole part of a number. It starts with a zero only if it is zero. -/
structure IsWhole (text : List Char) : Prop where
  areDigits : AreDigits text
  lone : text.head? = some '0' → text = ['0']

inductive IsFraction : List Char → Prop where
  | absent : IsFraction []
  | point {digits : List Char} : AreDigits digits → IsFraction ('.' :: digits)

inductive IsExponent : List Char → Prop where
  | absent : IsExponent []
  | mark {letter : Char} {sign digits : List Char} : letter ∈ ['e', 'E'] →
      sign ∈ [[], ['+'], ['-']] → AreDigits digits → IsExponent (letter :: (sign ++ digits))

inductive IsMagnitude : List Char → Prop where
  | written {whole fraction exponent : List Char} : IsWhole whole → IsFraction fraction →
      IsExponent exponent → IsMagnitude (whole ++ fraction ++ exponent)

inductive IsNumber : List Char → Prop where
  | positive {text : List Char} : IsMagnitude text → IsNumber text
  | negative {text : List Char} : IsMagnitude text → IsNumber ('-' :: text)

theorem isNumber_signed (negative : Prop) [Decidable negative] {text : List Char}
    (magnitude : IsMagnitude text) : IsNumber ((if negative then ['-'] else []) ++ text) := by
  split
  · exact .negative magnitude
  · exact .positive magnitude

section
variable {first second : List Char}

theorem AreDigits.append (here : AreDigits first) (there : ∀ c ∈ second, c.isDigit = true) :
    AreDigits (first ++ second) where
  ne_nil := List.append_ne_nil_of_left_ne_nil here.ne_nil second
  digits := List.forall_mem_append.2 ⟨here.digits, there⟩

theorem areDigits_singleton {c : Char} (digit : c.isDigit = true) : AreDigits [c] where
  ne_nil := List.cons_ne_nil c []
  digits := List.forall_mem_singleton.2 digit

theorem isWhole_singleton {c : Char} (digit : c.isDigit = true) : IsWhole [c] where
  areDigits := areDigits_singleton digit
  lone same := by rw [Option.some_inj.1 same]

end

theorem isDigit_of_mem_replicate {n : Nat} : ∀ c ∈ List.replicate n '0', c.isDigit = true := by
  intro c member
  rw [List.eq_of_mem_replicate member]
  rfl

theorem areDigits_toDigits (n : Nat) : AreDigits (Nat.toDigits 10 n) where
  ne_nil := Nat.toDigits_ne_nil
  digits _ := Nat.isDigit_of_mem_toDigits (by decide) (by decide)

theorem head?_toDigits {n : Nat} (positive : 0 < n) : (Nat.toDigits 10 n).head? ≠ some '0' := by
  induction n using Nat.strongRecOn with
  | ind n ih =>
    by_cases small : n < 10
    · rw [Nat.toDigits_of_lt_base small, List.head?_cons]
      simpa using Nat.ne_of_gt positive
    · have base : 10 ≤ n := Nat.le_of_not_lt small
      have smaller : n / 10 < n := Nat.div_lt_self positive (by decide)
      rw [Nat.toDigits_of_base_le (by decide) base,
        List.head?_append, Option.or_of_isSome (List.isSome_head?.2 Nat.toDigits_ne_nil)]
      exact ih (n / 10) smaller (Nat.div_pos base (by decide))

theorem isWhole_toDigits (n : Nat) : IsWhole (Nat.toDigits 10 n) where
  areDigits := areDigits_toDigits n
  lone zero := by
    rcases Nat.eq_zero_or_pos n with rfl | positive
    · rfl
    · exact absurd zero (head?_toDigits positive)

theorem IsWhole.isMagnitude {text : List Char} (whole : IsWhole text) : IsMagnitude text := by
  have written := IsMagnitude.written whole .absent .absent
  rwa [List.append_nil, List.append_nil] at written

theorem isNumber_intText (value : Int) : IsNumber (Value.intText value).toList := by
  rw [Value.intText, String.toList_ofList]
  exact isNumber_signed _ (isWhole_toDigits value.natAbs).isMagnitude

namespace Double

theorem basin_low_pos {units : Nat} (positive : 0 < units) : 0 < (basin units).low := by
  have least : 2 ^ units.log2 ≤ units := Nat.log2_self_le (Nat.ne_of_gt positive)
  have gap : Nat.pow 2 (units.log2 + 1 - 53) ≤ 2 ^ units.log2 :=
    Nat.pow_le_pow_right (by decide) (by omega)
  simp only [basin]
  split <;> omega

theorem holds_of_firstOf {p : Nat → Bool} {first second found : Nat}
    (same : (if p first then some first else if p second then some second else none) =
      some found) : p found = true := by
  split at same
  · rename_i holds
    exact Option.some_inj.1 same ▸ holds
  · split at same
    · rename_i holds
      exact Option.some_inj.1 same ▸ holds
    · cases same

theorem pos_of_nearestOnGrid? {units point : Nat} {exponent : Int} (positive : 0 < units)
    (found : nearestOnGrid? units exponent = some point) : 0 < point := by
  unfold nearestOnGrid? at found
  extract_lets fine step bounds low high inside below first second at found
  have within : inside point = true := holds_of_firstOf found
  have low_pos : 0 < low := Nat.mul_pos (basin_low_pos positive) (Nat.pow_pos (by decide))
  apply Nat.pos_of_ne_zero
  rintro rfl
  simp only [inside, Nat.zero_mul] at within
  split at within
  all_goals
    rw [Bool.and_eq_true, decide_eq_true_eq] at within
    exact absurd within.1 (by omega)

/-- Significant digits. The first of them is zero in the number 0 only. -/
structure Digits.Significant (number : Digits) : Prop where
  areDigits : AreDigits number.digits
  lone : number.digits.head? = some '0' → number.digits = ['0'] ∧ number.exponent = 0

theorem significant_digitsOf {point : Nat} (positive : 0 < point) (exponent : Int) :
    (digitsOf point exponent).Significant := by
  have written := areDigits_toDigits point
  have start : (digitsOf point exponent).digits <+: Nat.toDigits 10 point := by
    have suffix := List.dropWhile_suffix (l := (Nat.toDigits 10 point).reverse) (· == '0')
    rw [← List.reverse_prefix, List.reverse_reverse] at suffix
    exact suffix
  have nonzero : (digitsOf point exponent).digits ≠ [] := by
    intro empty
    have zeros := List.dropWhile_eq_nil_iff.1 (List.reverse_eq_nil_iff.1 empty)
    have first := List.head_mem written.ne_nil
    have zero := zeros _ (List.mem_reverse.2 first)
    apply head?_toDigits positive
    rw [List.head?_eq_some_head written.ne_nil, beq_iff_eq.1 zero]
  refine ⟨⟨nonzero, fun c member => written.digits c (start.subset member)⟩, ?_⟩
  intro zero
  obtain ⟨rest, same⟩ := start
  have head : (Nat.toDigits 10 point).head? = some '0' := by
    rw [← same, List.head?_append, zero]
    rfl
  exact absurd head (head?_toDigits positive)

theorem significant_shortestDigits {units : Nat} (positive : 0 < units) :
    (shortestDigits units).Significant := by
  unfold shortestDigits
  extract_lets leading found
  cases search : found with
  | none => exact ⟨areDigits_singleton rfl, fun _ => ⟨rfl, rfl⟩⟩
  | some number =>
    obtain ⟨more, -, hit⟩ := List.exists_of_findSome?_eq_some search
    obtain ⟨point, near, rfl⟩ := Option.map_eq_some_iff.1 hit
    exact significant_digitsOf (pos_of_nearestOnGrid? positive near) _

theorem isMagnitude_plainText {number : Digits} (significant : number.Significant) :
    IsMagnitude (plainText number) := by
  unfold plainText
  split
  · have fraction : AreDigits
        (List.replicate ((-number.exponent).toNat - 1) '0' ++ number.digits) :=
      ⟨List.append_ne_nil_of_right_ne_nil _ significant.areDigits.ne_nil,
        List.forall_mem_append.2 ⟨isDigit_of_mem_replicate, significant.areDigits.digits⟩⟩
    have written := IsMagnitude.written (@isWhole_singleton '0' rfl) (.point fraction) .absent
    rwa [List.append_nil] at written
  · extract_lets size fraction
    have whole : IsWhole (number.digits.take size ++
        List.replicate (size - number.digits.length) '0') := by
      have front : number.digits.take size ≠ [] := by
        simp [size, significant.areDigits.ne_nil]
      have inside : ∀ c ∈ number.digits.take size, c.isDigit = true := fun c member =>
        significant.areDigits.digits c (List.mem_of_mem_take member)
      refine ⟨AreDigits.append ⟨front, inside⟩ isDigit_of_mem_replicate, ?_⟩
      intro zero
      rw [List.head?_append, Option.or_of_isSome (List.isSome_head?.2 front), List.head?_take,
        if_neg (Nat.succ_ne_zero _)] at zero
      obtain ⟨lone, least⟩ := significant.lone zero
      simp [size, lone, least]
    have digits : AreDigits (if fraction.isEmpty then ['0'] else fraction) := by
      split
      · exact areDigits_singleton rfl
      · rename_i rest
        exact ⟨fun empty => rest (List.isEmpty_iff.2 empty),
          fun c member => significant.areDigits.digits c (List.mem_of_mem_drop member)⟩
    have written := IsMagnitude.written whole (.point digits) .absent
    rwa [List.append_nil] at written

theorem isMagnitude_scientificText {number : Digits} (significant : number.Significant) :
    IsMagnitude (scientificText number) := by
  unfold scientificText
  extract_lets mantissa sign
  have signed : [sign] ∈ [[], ['+'], ['-']] := by
    unfold sign
    split <;> simp
  have exponent := IsExponent.mark (List.mem_cons_self : 'e' ∈ ['e', 'E']) signed
    (areDigits_toDigits number.exponent.natAbs)
  obtain ⟨ne_nil, digits⟩ := significant.areDigits
  unfold mantissa
  cases shown : number.digits with
  | nil => exact absurd shown ne_nil
  | cons first rest =>
    rw [shown, List.forall_mem_cons] at digits
    have whole := isWhole_singleton digits.1
    cases rest with
    | nil => exact .written whole .absent exponent
    | cons second rest =>
      have fraction : AreDigits (second :: rest) := ⟨List.cons_ne_nil _ _, digits.2⟩
      have written := IsMagnitude.written whole (.point fraction) exponent
      exact written

theorem isMagnitude_magnitudeText (units : Nat) : IsMagnitude (magnitudeText units) := by
  unfold magnitudeText
  split
  · have written := IsMagnitude.written (@isWhole_singleton '0' rfl)
      (.point (@areDigits_singleton '0' rfl)) .absent
    exact written
  · rename_i nonzero
    have significant := significant_shortestDigits (Nat.pos_of_ne_zero nonzero)
    extract_lets number
    split
    · exact isMagnitude_plainText significant
    · exact isMagnitude_scientificText significant

theorem isNumber_text (number : Double) : IsNumber number.text.toList := by
  rw [text, String.toList_ofList]
  exact isNumber_signed _ (isMagnitude_magnitudeText number.units)

end Double

end TableQuery
