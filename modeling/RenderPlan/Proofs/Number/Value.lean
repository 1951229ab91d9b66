import Mathlib.Algebra.Order.Field.Power
import Mathlib.Algebra.Order.Field.Rat
import Mathlib.Tactic.Positivity
import RenderPlan.Number.Binary32

/-! The rational number that a bit pattern stands for. -/
namespace RenderPlan.Number

def Magnitude.value (x : Magnitude) : ℚ := x.mantissa * 2 ^ x.exponent

lemma Magnitude.value_nonneg (x : Magnitude) : 0 ≤ x.value := by
  unfold value
  positivity

@[simp] lemma Magnitude.value_pos_iff (x : Magnitude) : 0 < x.value ↔ x.mantissa ≠ 0 := by
  have hpower : (0 : ℚ) < 2 ^ x.exponent := by positivity
  rw [value, mul_pos_iff_of_pos_right hpower, Nat.cast_pos, Nat.pos_iff_ne_zero]

namespace Binary32

/-- The value of a finite number, with its sign. -/
def value (x : Binary32) : ℚ := if x.isNegative then -x.magnitude.value else x.magnitude.value

/-- Only the zeros have no mantissa: the numbers with an exponent field have the hidden bit. -/
@[simp]
lemma mantissa_magnitude_eq_zero_iff (x : Binary32) : x.magnitude.mantissa = 0 ↔ x.unsigned = 0 := by
  unfold magnitude hiddenBit
  simp only
  split
  · simp only
    omega
  · simp only
    omega

lemma mantissa_magnitude_lt (x : Binary32) : x.magnitude.mantissa < 2 ^ 24 := by
  change _ < 16777216
  unfold magnitude hiddenBit
  simp only
  split
  · simp only
    omega
  · simp only
    omega

/-- Above zero by the bits is above zero by the value. -/
@[simp]
lemma isPositive_iff (x : Binary32) : x.isPositive = true ↔ x.isFinite = true ∧ 0 < x.value := by
  have hzero : x.isZero = false ↔ 0 < x.magnitude.value := by
    rw [x.magnitude.value_pos_iff, ne_eq, mantissa_magnitude_eq_zero_iff]
    simp [isZero]
  have hnonneg := x.magnitude.value_nonneg
  simp only [isPositive, Bool.and_eq_true, Bool.not_eq_true', hzero, and_assoc]
  refine and_congr_right fun _ => ?_
  rw [value]
  cases x.isNegative with
  | false => simp
  | true => simpa using hnonneg

end Binary32
end RenderPlan.Number
