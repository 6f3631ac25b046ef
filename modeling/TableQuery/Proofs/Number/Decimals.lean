import TableQuery.Number.Literal
import TableQuery.Proofs.Number.Nearest

/-! Decimal numbers that round to a magnitude.

The points of a decimal grid that the search accepts lie in the basin of the magnitude, so they are
rounded to it. With seventeen digits the grid is so fine that one of the two points next to the
magnitude always does.
-/

set_option autoImplicit false

namespace TableQuery.Double

def decimalUnits (coefficient : Nat) (exponent : Int) : Nat :=
  roundUnits (coefficient * 10 ^ exponent.toNat * one) (10 ^ (-exponent).toNat)

theorem isPowerOfTwo_limit : limit.isPowerOfTwo :=
  ⟨2098, by decide +kernel⟩

theorem ten_pow_pos (e : Nat) : 0 < 10 ^ e :=
  Nat.pow_pos (by decide)

theorem decimalUnits_mul_ten_pow (coefficient k : Nat) (exponent : Int) :
    decimalUnits (coefficient * 10 ^ k) exponent = decimalUnits coefficient (exponent + k) := by
  apply roundUnits_congr (ten_pow_pos _) (ten_pow_pos _)
  have powers : k + exponent.toNat + (-(exponent + k)).toNat =
      (exponent + k).toNat + (-exponent).toNat := by omega
  have moved := congrArg (fun e => coefficient * 10 ^ e * one) powers
  simp only [Nat.pow_add] at moved
  calc coefficient * 10 ^ k * 10 ^ exponent.toNat * one * 10 ^ (-(exponent + k)).toNat
      = coefficient * (10 ^ k * 10 ^ exponent.toNat * 10 ^ (-(exponent + k)).toNat) * one := by
        simp only [Nat.mul_assoc, Nat.mul_comm one]
    _ = coefficient * (10 ^ (exponent + k).toNat * 10 ^ (-exponent).toNat) * one := moved
    _ = coefficient * 10 ^ (exponent + k).toNat * one * 10 ^ (-exponent).toNat := by
        simp only [Nat.mul_assoc, Nat.mul_comm one]

theorem decimalUnits_zero (exponent : Int) : decimalUnits 0 exponent = 0 := by
  simp [decimalUnits, roundUnits, divideEven]

theorem roundUnits_eq_zero {a b : Nat} (small : 2 * a < b) : roundUnits a b = 0 := by
  have quotient : a / b = 0 := Nat.div_eq_of_lt (by omega)
  have rest : a % b = a := Nat.mod_eq_of_lt (by omega)
  simp [roundUnits, divideEven, quotient, rest, small]

theorem limit_le_roundUnits {a : Nat} (great : limit ≤ a) : limit ≤ roundUnits a 1 := by
  have kept : roundUnits limit 1 = limit := by
    obtain ⟨e, power⟩ := isPowerOfTwo_limit
    rw [power, ← Nat.one_mul (2 ^ e)]
    exact roundUnits_mul_two_pow (by decide) e
  exact kept ▸ roundUnits_mono great

theorem limit_le_decimalUnits {coefficient : Nat} {exponent : Int} (nonzero : coefficient ≠ 0)
    (great : 400 < exponent) : limit ≤ decimalUnits coefficient exponent := by
  have whole : (-exponent).toNat = 0 := by omega
  rw [decimalUnits, whole, Nat.pow_zero]
  apply limit_le_roundUnits
  calc limit ≤ 10 ^ 401 * one := by decide +kernel
    _ ≤ 10 ^ exponent.toNat * one :=
      Nat.mul_le_mul_right _ (Nat.pow_le_pow_right (by decide) (by omega))
    _ ≤ coefficient * 10 ^ exponent.toNat * one :=
      Nat.mul_le_mul_right _ (Nat.le_mul_of_pos_left _ (Nat.pos_of_ne_zero nonzero))

theorem decimalUnits_of_small {coefficient : Nat} {exponent : Int}
    (small : exponent + coefficient.log2 < -400) : decimalUnits coefficient exponent = 0 := by
  have fraction : exponent.toNat = 0 := by omega
  have size : 401 + coefficient.log2 ≤ (-exponent).toNat := by omega
  rw [decimalUnits, fraction, Nat.pow_zero, Nat.mul_one]
  apply roundUnits_eq_zero
  have unit : 4 * one < 10 ^ 401 := by decide +kernel
  calc 2 * (coefficient * one) ≤ 2 * (2 ^ (coefficient.log2 + 1) * one) :=
        Nat.mul_le_mul_left _ (Nat.mul_le_mul_right _ (Nat.le_of_lt Nat.lt_log2_self))
    _ = 2 ^ coefficient.log2 * (4 * one) := by
        rw [Nat.pow_succ, Nat.mul_assoc, Nat.mul_left_comm, ← Nat.mul_assoc 2]
    _ < 2 ^ coefficient.log2 * 10 ^ 401 :=
        Nat.mul_lt_mul_of_pos_left unit (Nat.two_pow_pos _)
    _ ≤ 10 ^ coefficient.log2 * 10 ^ 401 :=
        Nat.mul_le_mul_right _ (Nat.pow_le_pow_left (by decide) _)
    _ = 10 ^ (401 + coefficient.log2) := by rw [← Nat.pow_add, Nat.add_comm]
    _ ≤ 10 ^ (-exponent).toNat := Nat.pow_le_pow_right (by decide) size

/-- The exponents that are answered first lead out of the range or to zero. -/
theorem ofDecimal?_eq (negative : Bool) (coefficient : Nat) (exponent : Int) :
    ofDecimal? negative coefficient exponent =
      if decimalUnits coefficient exponent < limit
      then some ⟨negative, decimalUnits coefficient exponent⟩ else none := by
  have limit_pos : 0 < limit := Nat.pos_of_isPowerOfTwo isPowerOfTwo_limit
  unfold ofDecimal?
  split
  · rename_i zero
    rw [zero, decimalUnits_zero, if_pos limit_pos]
    rfl
  · rename_i nonzero
    split
    · rename_i great
      rw [if_neg (Nat.not_lt_of_le (limit_le_decimalUnits nonzero great))]
    · split
      · rename_i small
        rw [decimalUnits_of_small small, if_pos limit_pos]
        rfl
      · rfl

theorem representable_of_ofDecimal? {negative : Bool} {coefficient : Nat} {exponent : Int}
    {number : Double} (read : ofDecimal? negative coefficient exponent = some number) :
    number.Representable := by
  rw [ofDecimal?_eq, Option.ite_none_right_eq_some] at read
  obtain ⟨bounded, same⟩ := read
  cases same
  exact ⟨roundUnits_onGrid _ _, bounded⟩

end TableQuery.Double
