import Mathlib.Algebra.Ring.Nat
import TableQuery.Number.Shortest
import TableQuery.Proofs.Number.Rounding

/-! Rounding of quotients to the nearest magnitude.

A quotient that lies in the basin of a magnitude is rounded to it. The grid above a power of two is
twice as wide as below it, so the lower end of a basin is a case of its own.
-/

set_option autoImplicit false

namespace TableQuery.Double

/-- A number of the format: at most 53 significant bits, and not too great. -/
structure Representable (number : Double) : Prop where
  onGrid : gap number.units ∣ number.units
  bounded : number.units < limit

section Quotients
variable {a b c d m k : Nat}

theorem divideEven_eq (positive : 0 < d) (low : 2 * (m * d) ≤ 2 * a + d)
    (high : 2 * a ≤ 2 * (m * d) + d)
    (tie : m % 2 = 1 → 2 * (m * d) < 2 * a + d ∧ 2 * a < 2 * (m * d) + d) :
    divideEven a d = m := by
  have parts := Nat.div_add_mod a d
  have rest := Nat.mod_lt a positive
  rw [Nat.mul_comm] at parts
  -- Within half a divisor lie only the quotient and its successor; the remainder decides.
  have quotient : m = a / d ∨ m = a / d + 1 := by
    have below : a / d < m + 1 := by
      rw [Nat.div_lt_iff_lt_mul positive, Nat.add_mul]
      omega
    have above : m < a / d + 2 := by
      apply Nat.lt_of_mul_lt_mul_right (a := d)
      rw [Nat.add_mul]
      omega
    omega
  unfold divideEven
  dsimp only
  rcases quotient with same | next
  · rw [same] at low high tie ⊢
    split
    · rfl
    · split <;> omega
  · rw [next, Nat.add_mul, Nat.one_mul] at low high tie
    rw [next]
    split
    · omega
    · split <;> omega

theorem divideEven_scale (positive : 0 < k) : divideEven (a * k) (d * k) = divideEven a d := by
  unfold divideEven
  rw [Nat.mul_div_mul_right _ _ positive, Nat.mul_mod_mul_right]
  simp only [← Nat.mul_assoc, Nat.mul_lt_mul_right positive]

theorem roundUnits_eq (a b : Nat) :
    roundUnits a b = divideEven a (b * gap (a / b)) * gap (a / b) :=
  rfl

theorem roundUnits_scale (positive : 0 < k) : roundUnits (a * k) (b * k) = roundUnits a b := by
  rw [roundUnits_eq, Nat.mul_div_mul_right _ _ positive, Nat.mul_right_comm,
    divideEven_scale positive, roundUnits_eq]

theorem roundUnits_congr (first : 0 < b) (second : 0 < d) (same : a * d = c * b) :
    roundUnits a b = roundUnits c d := by
  rw [← roundUnits_scale (a := a) second, ← roundUnits_scale (a := c) first, same, Nat.mul_comm b]

theorem roundUnits_onGrid (a b : Nat) : gap (roundUnits a b) ∣ roundUnits a b := by
  have bounded : a / b / gap (a / b) < 2 ^ 53 := by
    rw [Nat.div_lt_iff_lt_mul (gap_pos _), gap, ← Nat.pow_add]
    exact Nat.lt_of_lt_of_le Nat.lt_log2_self (Nat.pow_le_pow_right (by decide) (by omega))
  have rounded := (divideEven_bounds a (b * gap (a / b))).2
  rw [← Nat.div_div_eq_div_mul] at rounded
  -- The significand may be rounded up to 2 ^ 53, and rounding keeps that one too.
  have kept := roundUnits_mul_two_pow (Nat.le_trans rounded bounded) ((a / b).log2 + 1 - 53)
  change roundUnits (roundUnits a b) 1 = roundUnits a b at kept
  rw [roundUnits_one] at kept
  exact ⟨_, kept.symm⟩

end Quotients

def Basin.Contains (bounds : Basin) (a b : Nat) : Prop :=
  if bounds.closed then bounds.low * b ≤ 4 * a ∧ 4 * a ≤ bounds.high * b
  else bounds.low * b < 4 * a ∧ 4 * a < bounds.high * b

section Basins
variable {units a b m step : Nat}

theorem Basin.Contains.bounds {bounds : Basin} (inside : bounds.Contains a b) :
    (bounds.low * b ≤ 4 * a ∧ 4 * a ≤ bounds.high * b) ∧
      (bounds.closed = false → bounds.low * b < 4 * a ∧ 4 * a < bounds.high * b) := by
  unfold Contains at inside
  split at inside
  · rename_i closed
    exact ⟨inside, fun opened => absurd (closed.symm.trans opened) Bool.noConfusion⟩
  · exact ⟨⟨Nat.le_of_lt inside.1, Nat.le_of_lt inside.2⟩, fun _ => inside⟩

theorem units_lt (units : Nat) : units < 2 ^ 53 * gap units := by
  rw [gap, ← Nat.pow_add]
  exact Nat.lt_of_lt_of_le Nat.lt_log2_self (Nat.pow_le_pow_right (by decide) (by omega))

theorem le_units (wide : units.log2 + 1 - 53 ≠ 0) : 2 ^ 52 * gap units ≤ units := by
  have nonzero : units ≠ 0 := by
    rintro rfl
    exact wide rfl
  have size : 52 + (units.log2 + 1 - 53) = units.log2 := by omega
  rw [gap, ← Nat.pow_add, size]
  exact Nat.log2_self_le nonzero

/-- Between two powers of two the grid has one gap, and it has no smaller one than 1. -/
theorem gap_eq {point e : Nat} (low : e ≠ 0 → 2 ^ 52 * 2 ^ e ≤ point)
    (high : point < 2 ^ 53 * 2 ^ e) : gap point = 2 ^ e := by
  rw [← Nat.pow_add] at low high
  have bits : point.log2 + 1 - 53 = e := by
    rcases Nat.eq_zero_or_pos point with rfl | positive
    · apply Eq.symm
      apply Nat.eq_zero_of_not_pos
      exact fun wide => absurd (low (Nat.ne_of_gt wide)) (Nat.not_le_of_gt (Nat.two_pow_pos _))
    · have nonzero := Nat.ne_of_gt positive
      have least : e ≠ 0 → 52 + e ≤ point.log2 := fun wide => (Nat.le_log2 nonzero).2 (low wide)
      have greatest := (Nat.log2_lt nonzero).2 high
      omega
  rw [gap, bits]

theorem roundUnits_of_near {e : Nat} (positive : 0 < b)
    (least : e ≠ 0 → 2 ^ 52 * (b * 2 ^ e) ≤ a) (greatest : a < 2 ^ 53 * (b * 2 ^ e))
    (low : 2 * (m * (b * 2 ^ e)) ≤ 2 * a + b * 2 ^ e)
    (high : 2 * a ≤ 2 * (m * (b * 2 ^ e)) + b * 2 ^ e)
    (tie : m % 2 = 1 →
      2 * (m * (b * 2 ^ e)) < 2 * a + b * 2 ^ e ∧ 2 * a < 2 * (m * (b * 2 ^ e)) + b * 2 ^ e) :
    roundUnits a b = m * 2 ^ e := by
  have grid : gap (a / b) = 2 ^ e := by
    apply gap_eq
    · intro wide
      rw [Nat.le_div_iff_mul_le positive, Nat.mul_assoc, Nat.mul_comm _ b]
      exact least wide
    · rw [Nat.div_lt_iff_lt_mul positive, Nat.mul_assoc, Nat.mul_comm _ b]
      exact greatest
  have unit : 0 < b * 2 ^ e := Nat.mul_pos positive (Nat.two_pow_pos e)
  rw [roundUnits_eq, grid, divideEven_eq unit low high tie]

/-- The numbers below the magnitude lie half as far apart as those above it. -/
def Halved (units : Nat) : Prop :=
  units.log2 + 1 - 53 ≠ 0 ∧ units / gap units = 2 ^ 52

theorem basin_low_of_halved (halved : Halved units) :
    (basin units).low = 4 * units - gap units :=
  congrArg (4 * units - ·) (if_pos halved)

theorem basin_low_of_not_halved (even : ¬Halved units) :
    (basin units).low = 4 * units - 2 * gap units :=
  congrArg (4 * units - ·) (if_neg even)

theorem le_basin_low (units : Nat) : 4 * units ≤ (basin units).low + 2 * gap units := by
  by_cases halved : Halved units
  · rw [basin_low_of_halved halved]
    omega
  · rw [basin_low_of_not_halved halved]
    omega

theorem basin_high (units : Nat) : (basin units).high = 4 * units + 2 * gap units :=
  rfl

theorem basin_closed (units : Nat) :
    (basin units).closed = (units / gap units % 2 == 0) :=
  rfl

section
variable (whole : units = gap units * m)
include whole

theorem units_mul : units * b = m * (b * gap units) := by
  rw [← Nat.mul_assoc, Nat.mul_right_comm, Nat.mul_comm m, ← whole]

theorem significand_lt : m < 2 ^ 53 := by
  apply Nat.lt_of_mul_lt_mul_left (a := gap units)
  rw [← whole, Nat.mul_comm]
  exact units_lt units

theorem le_significand (wide : units.log2 + 1 - 53 ≠ 0) : 2 ^ 52 ≤ m := by
  apply Nat.le_of_mul_le_mul_left _ (gap_pos units)
  rw [← whole, Nat.mul_comm]
  exact le_units wide

/-- A basin reaches at most half a gap to either side, and the ends count for even magnitudes. -/
theorem near_of_contains (inside : (basin units).Contains a b) :
    (2 * (m * (b * gap units)) ≤ 2 * a + b * gap units ∧
        2 * a ≤ 2 * (m * (b * gap units)) + b * gap units) ∧
      (m % 2 = 1 → 2 * (m * (b * gap units)) < 2 * a + b * gap units ∧
        2 * a < 2 * (m * (b * gap units)) + b * gap units) := by
  have low : 4 * (m * (b * gap units)) ≤ (basin units).low * b + 2 * (b * gap units) := by
    rw [← units_mul whole, ← Nat.mul_assoc, Nat.mul_comm b, ← Nat.mul_assoc, ← Nat.add_mul]
    exact Nat.mul_le_mul_right b (le_basin_low units)
  have high : (basin units).high * b = 4 * (m * (b * gap units)) + 2 * (b * gap units) := by
    rw [← units_mul whole, ← Nat.mul_assoc, Nat.mul_comm b, ← Nat.mul_assoc, ← Nat.add_mul,
      basin_high]
  have ends (odd : m % 2 = 1) : (basin units).closed = false := by
    rw [basin_closed, Nat.div_eq_of_eq_mul_right (gap_pos units) whole, odd]
    rfl
  obtain ⟨within, strict⟩ := inside.bounds
  rw [high] at within strict
  constructor
  · omega
  · intro odd
    have apart := strict (ends odd)
    omega

theorem roundUnits_of_halved (halved : Halved units) (positive : 0 < b)
    (low : (basin units).low * b ≤ 4 * a) (below : a < units * b) : roundUnits a b = units := by
  obtain ⟨e, shift⟩ := Nat.exists_eq_succ_of_ne_zero halved.1
  have least : m = 2 ^ 52 := (Nat.div_eq_of_eq_mul_right (gap_pos units) whole).symm.trans halved.2
  have doubled : gap units = 2 * 2 ^ e := by rw [gap, shift, Nat.pow_succ, Nat.mul_comm]
  have power : units = 2 ^ 53 * 2 ^ e := by
    rw [doubled, least] at whole
    omega
  have unit : 0 < b * 2 ^ e := Nat.mul_pos positive (Nat.two_pow_pos e)
  have product : units * b = 2 ^ 53 * (b * 2 ^ e) := by
    rw [power, Nat.mul_assoc, Nat.mul_comm _ b]
  have lost : gap units * b = 2 * (b * 2 ^ e) := by
    rw [doubled, Nat.mul_assoc, Nat.mul_comm _ b]
  rw [basin_low_of_halved halved, Nat.sub_mul, Nat.mul_assoc, product, lost] at low
  rw [product] at below
  rw [roundUnits_of_near positive (m := 2 ^ 53) (e := e), power]
  all_goals omega

end

theorem roundUnits_of_contains (onGrid : gap units ∣ units) (positive : 0 < b)
    (inside : (basin units).Contains a b) : roundUnits a b = units := by
  obtain ⟨m, whole⟩ := onGrid
  -- Below a power of two the quotient lies on the finer grid.
  by_cases halved : Halved units ∧ a < units * b
  · exact roundUnits_of_halved whole halved.1 positive inside.bounds.1.1 halved.2
  · have unit : 0 < b * gap units := Nat.mul_pos positive (gap_pos units)
    obtain ⟨⟨low, high⟩, tie⟩ := near_of_contains whole inside
    have least : units.log2 + 1 - 53 ≠ 0 → 2 ^ 52 * (b * gap units) ≤ a := by
      intro wide
      rcases Nat.lt_or_eq_of_le (le_significand whole wide) with more | rfl
      · have next : (2 ^ 52 + 1) * (b * gap units) ≤ m * (b * gap units) :=
          Nat.mul_le_mul_right _ more
        omega
      · have quotient := Nat.div_eq_of_eq_mul_right (gap_pos units) whole
        rw [← units_mul whole]
        exact Nat.le_of_not_lt fun below => halved ⟨⟨wide, quotient⟩, below⟩
    have greatest : a < 2 ^ 53 * (b * gap units) := by
      have most : m * (b * gap units) ≤ (2 ^ 53 - 1) * (b * gap units) :=
        Nat.mul_le_mul_right _ (Nat.le_sub_one_of_lt (significand_lt whole))
      omega
    have rounded : roundUnits a b = m * gap units :=
      roundUnits_of_near positive least greatest low high tie
    rw [rounded, Nat.mul_comm, ← whole]

end Basins

end TableQuery.Double
