import Mathlib.Algebra.Ring.Nat
import TableQuery.Number.Double

/-! Rounding of whole numbers.

The magnitudes that a number can have form a grid whose gap doubles with each power of two. Rounding
passes no point of the grid, so it keeps the order of numbers, and it keeps what lies on the grid.
Up to `2 ^ 53` every whole number does.
-/

set_option autoImplicit false

namespace TableQuery.Double

section Quotients
variable {a b d : Nat}

theorem divideEven_bounds (a d : Nat) : a / d ≤ divideEven a d ∧ divideEven a d ≤ a / d + 1 := by
  unfold divideEven
  dsimp only
  split
  · omega
  · split <;> omega

theorem divideEven_mono (le : a ≤ b) : divideEven a d ≤ divideEven b d := by
  have quotients : a / d ≤ b / d := Nat.div_le_div_right le
  rcases Nat.lt_or_eq_of_le quotients with below | same
  · have first := (divideEven_bounds a d).2
    have second := (divideEven_bounds b d).1
    omega
  · have remainders : a % d ≤ b % d := by
      have first := Nat.div_add_mod a d
      have second := Nat.div_add_mod b d
      rw [same] at first
      omega
    unfold divideEven
    rw [same]
    dsimp only
    split <;> split <;> (try split) <;> (try split) <;> omega

theorem divideEven_mul (positive : 0 < d) (k : Nat) : divideEven (d * k) d = k := by
  simp [divideEven, positive]

end Quotients

def gap (units : Nat) : Nat :=
  2 ^ (units.log2 + 1 - 53)

section Magnitudes
variable {a b point : Nat}

theorem gap_pos (units : Nat) : 0 < gap units :=
  Nat.two_pow_pos _

theorem gap_dvd_two_pow {e : Nat} (reaches : a.log2 + 1 - 53 ≤ e) : gap a ∣ 2 ^ e :=
  Nat.pow_dvd_pow 2 reaches

theorem roundUnits_one (a : Nat) : roundUnits a 1 = gap a * divideEven a (gap a) := by
  simp [roundUnits, gap, Nat.mul_comm]

theorem le_roundUnits (onGrid : gap a ∣ point) (le : point ≤ a) : point ≤ roundUnits a 1 := by
  obtain ⟨k, rfl⟩ := onGrid
  have kept := divideEven_mono (d := gap a) le
  rw [divideEven_mul (gap_pos a)] at kept
  rw [roundUnits_one]
  exact Nat.mul_le_mul_left _ kept

theorem roundUnits_le (onGrid : gap a ∣ point) (le : a ≤ point) : roundUnits a 1 ≤ point := by
  obtain ⟨k, rfl⟩ := onGrid
  have kept := divideEven_mono (d := gap a) le
  rw [divideEven_mul (gap_pos a)] at kept
  rw [roundUnits_one]
  exact Nat.mul_le_mul_left _ kept

theorem roundUnits_of_dvd (onGrid : gap a ∣ a) : roundUnits a 1 = a :=
  Nat.le_antisymm (roundUnits_le onGrid (Nat.le_refl a)) (le_roundUnits onGrid (Nat.le_refl a))

theorem roundUnits_mono (le : a ≤ b) : roundUnits a 1 ≤ roundUnits b 1 := by
  rcases Nat.lt_trichotomy a.log2 b.log2 with below | same | above
  · -- A power of two lies between the two magnitudes, on the grids of both.
    have nonzero : b ≠ 0 := by
      rintro rfl
      simp at below
    calc roundUnits a 1 ≤ 2 ^ (a.log2 + 1) :=
          roundUnits_le (gap_dvd_two_pow (Nat.sub_le _ _)) (Nat.le_of_lt Nat.lt_log2_self)
      _ ≤ 2 ^ b.log2 := Nat.pow_le_pow_right (by decide) below
      _ ≤ roundUnits b 1 := le_roundUnits (gap_dvd_two_pow (by omega)) (Nat.log2_self_le nonzero)
  · have grid : gap a = gap b := by rw [gap, gap, same]
    rw [roundUnits_one, roundUnits_one, grid]
    exact Nat.mul_le_mul_left _ (divideEven_mono le)
  · have nonzero : a ≠ 0 := by
      rintro rfl
      simp at above
    have reaches : 2 ^ (b.log2 + 1) ≤ a :=
      Nat.le_trans (Nat.pow_le_pow_right (by decide) above) (Nat.log2_self_le nonzero)
    exact absurd (Nat.lt_of_lt_of_le Nat.lt_log2_self reaches) (Nat.not_lt_of_ge le)

theorem roundUnits_mul_two_pow {k : Nat} (small : k ≤ 2 ^ 53) (e : Nat) :
    roundUnits (k * 2 ^ e) 1 = k * 2 ^ e := by
  apply roundUnits_of_dvd
  rcases Nat.lt_or_eq_of_le small with below | rfl
  · rcases Nat.eq_zero_or_pos k with rfl | positive
    · simp
    · have size : k * 2 ^ e < 2 ^ (53 + e) := by
        rw [Nat.pow_add]
        exact Nat.mul_lt_mul_of_pos_right below (Nat.two_pow_pos e)
      have nonzero : k * 2 ^ e ≠ 0 := Nat.ne_of_gt (Nat.mul_pos positive (Nat.two_pow_pos e))
      have bits := (Nat.log2_lt nonzero).2 size
      exact Nat.dvd_trans (gap_dvd_two_pow (by omega)) (Nat.dvd_mul_left _ _)
  · rw [← Nat.pow_add]
    apply gap_dvd_two_pow
    rw [Nat.log2_two_pow]
    omega

theorem isPowerOfTwo_one : one.isPowerOfTwo :=
  ⟨1074, by decide +kernel⟩

theorem roundUnits_lt_limit {k : Nat} (small : k ≤ 2 ^ 64) : roundUnits (k * one) 1 < limit :=
  have greatest : roundUnits (2 ^ 64 * one) 1 < limit := by decide +kernel
  Nat.lt_of_le_of_lt (roundUnits_mono (Nat.mul_le_mul_right _ small)) greatest

end Magnitudes

section WholeNumbers
variable {n m : Int}

theorem one_pos : 0 < one := by
  obtain ⟨e, power⟩ := isPowerOfTwo_one
  rw [power]
  exact Nat.two_pow_pos e

theorem signedUnits_ofInt (n : Int) : (ofInt n).signedUnits =
    if n < 0 then -(roundUnits (n.natAbs * one) 1 : Int) else roundUnits (n.natAbs * one) 1 := by
  simp [ofInt, signedUnits]

theorem signedUnits_ofInt_mono (le : n ≤ m) :
    (ofInt n).signedUnits ≤ (ofInt m).signedUnits := by
  have rounds {first second : Int} (within : first.natAbs ≤ second.natAbs) :
      roundUnits (first.natAbs * one) 1 ≤ roundUnits (second.natAbs * one) 1 :=
    roundUnits_mono (Nat.mul_le_mul_right _ within)
  rw [signedUnits_ofInt, signedUnits_ofInt]
  split <;> split
  · have := @rounds m n (by omega)
    omega
  · omega
  · omega
  · have := @rounds n m (by omega)
    omega

theorem signedUnits_ofInt_of_small (small : n.natAbs ≤ 2 ^ 53) :
    (ofInt n).signedUnits = n * one := by
  have kept : roundUnits (n.natAbs * one) 1 = n.natAbs * one := by
    obtain ⟨e, power⟩ := isPowerOfTwo_one
    rw [power]
    exact roundUnits_mul_two_pow small e
  rw [signedUnits_ofInt, kept, Int.natCast_mul]
  split
  · rw [Int.ofNat_natAbs_of_nonpos (by omega), Int.neg_mul, Int.neg_neg]
  · rw [Int.natAbs_of_nonneg (by omega)]

theorem signedUnits_ofInt_lt (lt : n < m) (small : n.natAbs < 2 ^ 53 ∨ m.natAbs < 2 ^ 53) :
    (ofInt n).signedUnits < (ofInt m).signedUnits := by
  have unit : (0 : Int) < one := Int.natCast_pos.2 one_pos
  -- The small number and its neighbour on the way to the other one are both exact.
  rcases small with small | small
  · have next := signedUnits_ofInt_mono (show n + 1 ≤ m from lt)
    rw [signedUnits_ofInt_of_small (by omega), Int.add_mul, Int.one_mul] at next
    rw [signedUnits_ofInt_of_small (by omega)]
    omega
  · have next := signedUnits_ofInt_mono (show n ≤ m - 1 by omega)
    rw [@signedUnits_ofInt_of_small (m - 1) (by omega), Int.sub_mul, Int.one_mul] at next
    rw [@signedUnits_ofInt_of_small m (by omega)]
    omega

theorem signedUnits_ofInt_neg_iff : (ofInt n).signedUnits < 0 ↔ n < 0 := by
  have zero : (ofInt 0).signedUnits = 0 := by
    rw [signedUnits_ofInt_of_small (by decide), Int.zero_mul]
  constructor
  · intro below
    apply Int.lt_of_not_ge
    intro nonneg
    have kept := signedUnits_ofInt_mono nonneg
    omega
  · intro negative
    have below := signedUnits_ofInt_lt negative (.inr (by decide))
    rwa [zero] at below

theorem ofInt_eq_iff : ofInt n = ofInt m ↔ (ofInt n).signedUnits = (ofInt m).signedUnits := by
  constructor
  · intro same
    rw [same]
  · intro same
    have signs : n < 0 ↔ m < 0 := by
      rw [← signedUnits_ofInt_neg_iff, same, signedUnits_ofInt_neg_iff]
    rw [signedUnits_ofInt, signedUnits_ofInt] at same
    simp only [ofInt, signs, mk.injEq, true_and]
    split at same <;> split at same <;> omega

/-- The numbers nearest to two whole numbers compare as these do, unless they are one number. -/
theorem compare_ofInt (n m : Int) : (ofInt n).compare (ofInt m) =
    if ofInt n = ofInt m then .eq else Ord.compare n m := by
  unfold compare
  split
  · rename_i same
    rw [same]
    exact Int.compare_eq_eq.2 rfl
  · rename_i other
    rw [ofInt_eq_iff] at other
    rcases Int.lt_trichotomy n m with below | rfl | above
    · have kept := signedUnits_ofInt_mono (Int.le_of_lt below)
      rw [Int.compare_eq_lt.2 below, Int.compare_eq_lt]
      omega
    · exact absurd rfl other
    · have kept := signedUnits_ofInt_mono (Int.le_of_lt above)
      rw [Int.compare_eq_gt.2 above, Int.compare_eq_gt]
      omega

end WholeNumbers

end TableQuery.Double
