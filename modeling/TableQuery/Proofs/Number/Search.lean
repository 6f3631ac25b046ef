import TableQuery.Proofs.Number.Decimals
import TableQuery.Proofs.Number.Notation

/-! The search for the shortest decimal number.

Every point that it accepts is rounded to the magnitude. With seventeen digits the grid is so fine
that one of the two points next to the magnitude lies in its basin, so the search finds one.
-/

set_option autoImplicit false

namespace TableQuery.Double

variable {units point : Nat} {exponent : Int}

theorem contains_of_nearestOnGrid? (found : nearestOnGrid? units exponent = some point) :
    (basin units).Contains (point * 10 ^ exponent.toNat * one) (10 ^ (-exponent).toNat) := by
  unfold nearestOnGrid? at found
  extract_lets fine step bounds low high inside below first second at found
  have within : inside point = true := holds_of_firstOf found
  have scaled : point * step = 4 * (point * 10 ^ exponent.toNat * one) := by
    show point * (4 * one * 10 ^ exponent.toNat) = _
    rw [Nat.mul_left_comm, Nat.mul_assoc 4, Nat.mul_left_comm, Nat.mul_comm one, Nat.mul_assoc]
  unfold Basin.Contains
  rw [← scaled]
  simp only [inside] at within
  split at within
  all_goals
    rename_i closed
    rw [Bool.and_eq_true, decide_eq_true_eq, decide_eq_true_eq] at within
  · rwa [if_pos closed]
  · rwa [if_neg closed]

theorem decimalUnits_of_nearestOnGrid? (onGrid : gap units ∣ units)
    (found : nearestOnGrid? units exponent = some point) : decimalUnits point exponent = units :=
  roundUnits_of_contains onGrid (ten_pow_pos _) (contains_of_nearestOnGrid? found)

theorem lt_width (units : Nat) :
    4 * units + (basin units).low * 10 ^ 16 < (basin units).high * 10 ^ 16 := by
  have least := gap_pos units
  have greatest := units_lt units
  rw [basin_high]
  by_cases halved : Halved units
  · have next : units < (2 ^ 52 + 1) * gap units := by
      rw [← halved.2, ← Nat.div_lt_iff_lt_mul least]
      exact Nat.lt_succ_self _
    rw [basin_low_of_halved halved]
    omega
  · rw [basin_low_of_not_halved halved]
    omega

theorem basin_low_lt (nonzero : 0 < units) : (basin units).low < 4 * units := by
  have least := gap_pos units
  by_cases halved : Halved units
  · rw [basin_low_of_halved halved]
    omega
  · rw [basin_low_of_not_halved halved]
    omega

/-- Of two neighbours on a grid one lies in an interval that is wider than the gap. -/
theorem neighbour_within {low value high step : Nat} (positive : 0 < step) (above : low < value)
    (under : value < high) (narrow : low + step < high) :
    ∃ point, (point = value / step ∨ point = value / step + 1) ∧
      low < point * step ∧ point * step < high := by
  have below : value / step * step ≤ value := Nat.div_mul_le_self _ _
  have next : value < (value / step + 1) * step :=
    (Nat.div_lt_iff_lt_mul positive).1 (Nat.lt_succ_self _)
  rw [Nat.add_mul, Nat.one_mul] at next
  by_cases inside : low < value / step * step
  · exact ⟨_, .inl rfl, inside, Nat.lt_of_le_of_lt below under⟩
  · refine ⟨_, .inr rfl, ?_⟩
    rw [Nat.add_mul, Nat.one_mul]
    omega

theorem exists_firstOf {p : Nat → Bool} {first second found : Nat}
    (either : found = first ∨ found = second) (holds : p found = true) :
    ∃ other, (if p first then some first else if p second then some second else none) =
      some other := by
  by_cases here : p first = true
  · exact ⟨first, if_pos here⟩
  · have there : p second = true := by
      rcases either with rfl | rfl
      · exact absurd holds here
      · exact holds
    rw [if_neg here, if_pos there]
    exact ⟨second, rfl⟩

/-- On a grid of seventeen digits a point next to the magnitude lies in the basin. -/
theorem exists_nearestOnGrid? (nonzero : 0 < units)
    (precise : one * 10 ^ exponent.toNat * 10 ^ 16 ≤ units * 10 ^ (-exponent).toNat) :
    ∃ point, nearestOnGrid? units exponent = some point := by
  unfold nearestOnGrid?
  extract_lets fine step bounds low high inside below first second
  have unit : 0 < fine := ten_pow_pos _
  have step_pos : 0 < step := Nat.mul_pos (Nat.mul_pos (by decide) one_pos) (ten_pow_pos _)
  have above : low < 4 * units * fine := Nat.mul_lt_mul_of_pos_right (basin_low_lt nonzero) unit
  have under : 4 * units * fine < high :=
    Nat.mul_lt_mul_of_pos_right (Nat.lt_add_of_pos_right (Nat.mul_pos (by decide) (gap_pos _))) unit
  -- A step is no more than a part in 10 ^ 16 of the magnitude, and the basin is wider than that.
  have narrow : low + step < high := by
    have width : 4 * units * fine + low * 10 ^ 16 < high * 10 ^ 16 := by
      have scaled := Nat.mul_lt_mul_of_pos_right (lt_width units) unit
      rwa [Nat.add_mul, Nat.mul_right_comm _ (10 ^ 16), Nat.mul_right_comm _ (10 ^ 16)] at scaled
    have steps : step * 10 ^ 16 ≤ 4 * units * fine := by
      show 4 * one * 10 ^ exponent.toNat * 10 ^ 16 ≤ 4 * units * fine
      rw [Nat.mul_assoc, Nat.mul_assoc 4, Nat.mul_assoc 4, ← Nat.mul_assoc one]
      exact Nat.mul_le_mul_left 4 precise
    omega
  obtain ⟨point, neighbour, within⟩ := neighbour_within step_pos above under narrow
  have accepted : inside point = true := by
    simp only [inside]
    split
    · simp [Nat.le_of_lt within.1, Nat.le_of_lt within.2]
    · simp [within.1, within.2]
  -- Rounding to the grid gives one of the two neighbours, and the other one is tried next.
  have tried : point = first ∨ point = second := by
    have bounds := divideEven_bounds (4 * units * fine) step
    have other : second = if first = below then below + 1 else below := rfl
    have nearer : first = below ∨ first = below + 1 := by
      change below ≤ first ∧ first ≤ below + 1 at bounds
      omega
    change point = below ∨ point = below + 1 at neighbour
    rw [other]
    split <;> omega
  exact exists_firstOf tried accepted

theorem ten_pow_le_of_length {n k : Nat} (nonzero : 0 < n)
    (long : k < (Nat.toDigits 10 n).length) : 10 ^ k ≤ n := by
  rcases Nat.eq_zero_or_pos k with rfl | positive
  · exact nonzero
  · rw [← Nat.not_lt, ← Nat.length_toDigits_le_iff (by decide) positive]
    exact Nat.not_le_of_lt long

/-- Sixteen digits behind the first one the grid is fine enough. -/
theorem precise_of_leadingExponent (nonzero : 0 < units)
    (last : exponent = leadingExponent units - 16) :
    one * 10 ^ exponent.toNat * 10 ^ 16 ≤ units * 10 ^ (-exponent).toNat := by
  have small : one ≤ 10 ^ 400 := by decide +kernel
  have shown : 0 < units * 10 ^ 400 / one :=
    Nat.div_pos (Nat.le_trans small (Nat.le_mul_of_pos_left _ nonzero)) one_pos
  obtain ⟨k, size⟩ := Nat.exists_eq_add_of_lt
    (Nat.length_toDigits_pos (b := 10) (n := units * 10 ^ 400 / one))
  have reached : 10 ^ k * one ≤ units * 10 ^ 400 :=
    (Nat.le_div_iff_mul_le one_pos).1 (ten_pow_le_of_length shown (by omega))
  have first : leadingExponent units = k - 400 := by
    unfold leadingExponent
    simp only [Nat.pow_eq, size]
    omega
  have powers : exponent.toNat + 16 + 400 = k + (-exponent).toNat := by omega
  apply Nat.le_of_mul_le_mul_right _ (ten_pow_pos 400)
  calc one * 10 ^ exponent.toNat * 10 ^ 16 * 10 ^ 400
      = one * 10 ^ (exponent.toNat + 16 + 400) := by
        rw [Nat.pow_add, Nat.pow_add, Nat.mul_assoc, Nat.mul_assoc, Nat.mul_assoc]
    _ = 10 ^ k * one * 10 ^ (-exponent).toNat := by
        rw [powers, Nat.pow_add, ← Nat.mul_assoc, Nat.mul_comm one]
    _ ≤ units * 10 ^ 400 * 10 ^ (-exponent).toNat := Nat.mul_le_mul_right _ reached
    _ = units * 10 ^ (-exponent).toNat * 10 ^ 400 := Nat.mul_right_comm _ _ _

def Digits.magnitude (number : Digits) : Nat :=
  decimalUnits (Literal.digitsValue number.digits) (number.exponent + 1 - number.digits.length)

theorem digitsValue_append_zeros (digits : List Char) (k : Nat) :
    Literal.digitsValue (digits ++ List.replicate k '0') = Literal.digitsValue digits * 10 ^ k := by
  rw [Nat.mul_comm]
  exact (Nat.ofDigitChars_append 0).trans Nat.ofDigitChars_replicate_zero

theorem exists_zeros (point : Nat) (exponent : Int) :
    ∃ k, Nat.toDigits 10 point = (digitsOf point exponent).digits ++ List.replicate k '0' := by
  have whole := List.takeWhile_append_dropWhile (p := (· == '0'))
    (l := (Nat.toDigits 10 point).reverse)
  have zeros : ∀ c ∈ (Nat.toDigits 10 point).reverse.takeWhile (· == '0'), c = '0' := by
    intro c member
    have zero := List.mem_takeWhile_imp member
    exact beq_iff_eq.1 zero
  rw [List.eq_replicate_of_mem zeros] at whole
  have turned := congrArg List.reverse whole
  rw [List.reverse_append, List.reverse_replicate, List.reverse_reverse] at turned
  exact ⟨_, turned.symm⟩

theorem magnitude_digitsOf (point : Nat) (exponent : Int) :
    (digitsOf point exponent).magnitude = decimalUnits point exponent := by
  obtain ⟨k, written⟩ := exists_zeros point exponent
  have value : Literal.digitsValue (Nat.toDigits 10 point) = point := Nat.ofDigitChars_ten_toDigits
  have place : (digitsOf point exponent).exponent + 1 - (digitsOf point exponent).digits.length =
      exponent + k := by
    have size := congrArg List.length written
    rw [List.length_append, List.length_replicate] at size
    show exponent + (Nat.toDigits 10 point).length - 1 + 1 - _ = exponent + k
    omega
  rw [Digits.magnitude, place, ← decimalUnits_mul_ten_pow, ← digitsValue_append_zeros, ← written, value]

theorem magnitude_shortestDigits (onGrid : gap units ∣ units) (nonzero : 0 < units) :
    (shortestDigits units).magnitude = units := by
  unfold shortestDigits
  extract_lets leading found
  cases search : found with
  | none =>
    -- The search ends at seventeen digits at the latest, where there is a point.
    obtain ⟨point, last⟩ := exists_nearestOnGrid? nonzero (precise_of_leadingExponent nonzero rfl)
    have missed := List.findSome?_eq_none_iff.1 search 16 (by decide)
    have hit : nearestOnGrid? units (leading - (16 : Nat)) = some point := last
    rw [hit] at missed
    cases missed
  | some number =>
    obtain ⟨more, -, hit⟩ := List.exists_of_findSome?_eq_some search
    obtain ⟨point, near, rfl⟩ := Option.map_eq_some_iff.1 hit
    exact (magnitude_digitsOf _ _).trans (decimalUnits_of_nearestOnGrid? onGrid near)

end TableQuery.Double
