import Mathlib.Data.Int.ConditionallyCompleteOrder
import Mathlib.Algebra.Order.Round
import Mathlib.Data.Rat.Floor
import Mathlib.Data.Sign.Basic
import Mathlib.Tactic.FieldSimp
import Mathlib.Tactic.Linarith
import Mathlib.Tactic.Positivity
import Mathlib.Tactic.Ring

/-!
# `numeric`

Exact decimal numbers: an integer that counts units of a power of ten. Products are exact,
`round` goes to the nearest multiple of a unit and away from zero in the middle, and a
column of a given scale rounds what it is given in the same way.
-/

namespace UmojaFlowOS.Relational

/-- `x` to `digits` places after the point, half away from zero. -/
def roundHalfAway (digits : Nat) (x : ℚ) : ℚ :=
  SignType.sign x * round (|x| * 10 ^ digits) / 10 ^ digits

/-- `unscaled / 10 ^ scale`. -/
structure Numeric where
  unscaled : Int
  scale : Nat
  deriving DecidableEq

namespace Numeric

def toRat (n : Numeric) : ℚ := n.unscaled / 10 ^ n.scale

def mul (a b : Numeric) : Numeric := ⟨a.unscaled * b.unscaled, a.scale + b.scale⟩

def roundTo (n : Numeric) (digits : Nat) : Numeric :=
  if n.scale ≤ digits then ⟨n.unscaled * 10 ^ (digits - n.scale), digits⟩
  else
    let unit := 10 ^ (n.scale - digits)
    ⟨n.unscaled.sign * ((2 * n.unscaled.natAbs + unit) / (2 * unit) : Nat), digits⟩

/-- A column `numeric(precision, scale)` has room for the number. -/
def fits (precision scale : Nat) (n : Numeric) : Bool :=
  decide ((n.roundTo scale).unscaled.natAbs < 10 ^ precision)

theorem toRat_mul (a b : Numeric) : (a.mul b).toRat = a.toRat * b.toRat := by
  unfold toRat mul
  push_cast
  rw [pow_add, mul_div_mul_comm]

theorem toRat_pos {n : Numeric} : 0 < n.toRat ↔ 0 < n.unscaled := by
  unfold toRat
  rw [div_pos_iff_of_pos_right (by positivity)]
  exact Int.cast_pos

@[simp] theorem scale_roundTo (n : Numeric) (digits : Nat) : (n.roundTo digits).scale = digits := by
  unfold roundTo
  split <;> rfl

theorem toRat_roundTo_of_le {n : Numeric} (room : n.scale ≤ digits) :
    (n.roundTo digits).toRat = n.toRat := by
  unfold roundTo toRat
  rw [if_pos room]
  have split : (10 : ℚ) ^ digits = 10 ^ n.scale * 10 ^ (digits - n.scale) := by
    rw [← pow_add, Nat.add_sub_cancel' room]
  push_cast
  rw [split]
  field_simp

theorem round_natCast_div (n unit : Nat) (positive : 0 < unit) :
    round ((n : ℚ) / unit) = ((2 * n + unit) / (2 * unit) : Nat) := by
  have cast : ((n : ℚ) / unit + 1 / 2) = ((2 * n + unit : Nat) : ℚ) / ((2 * unit : Nat) : ℚ) := by
    have nonzero : (unit : ℚ) ≠ 0 := by positivity
    push_cast
    field_simp
  rw [round_eq, cast]
  exact Rat.floor_natCast_div_natCast _ _

theorem sign_toRat (n : Numeric) : SignType.sign n.toRat = SignType.sign n.unscaled := by
  rcases lt_trichotomy n.unscaled 0 with negative | zero | positive
  · rw [sign_neg negative, sign_neg]
    exact div_neg_of_neg_of_pos (Int.cast_lt_zero.mpr negative) (by positivity)
  · rw [toRat, zero, Int.cast_zero, zero_div, sign_zero, sign_zero]
  · rw [sign_pos positive, sign_pos (toRat_pos.mpr positive)]

theorem abs_toRat (n : Numeric) : |n.toRat| = n.unscaled.natAbs / 10 ^ n.scale := by
  rw [toRat, abs_div, abs_of_pos (show (0 : ℚ) < 10 ^ n.scale by positivity), Nat.cast_natAbs,
    Int.cast_abs]

/-- `round` is the arithmetic rounding of the value. -/
theorem toRat_roundTo (n : Numeric) (digits : Nat) :
    (n.roundTo digits).toRat = roundHalfAway digits n.toRat := by
  have signed : (SignType.sign n.unscaled : ℚ) * |(n.unscaled : ℚ)| = n.unscaled := by
    have product := congrArg (Int.cast : Int → ℚ) (sign_mul_abs n.unscaled)
    push_cast at product
    exact product
  unfold roundHalfAway
  rw [sign_toRat, abs_toRat]
  by_cases room : n.scale ≤ digits
  · have whole : (n.unscaled.natAbs : ℚ) / 10 ^ n.scale * 10 ^ digits =
        ((n.unscaled.natAbs * 10 ^ (digits - n.scale) : Nat) : ℚ) := by
      rw [show (10 : ℚ) ^ digits = 10 ^ n.scale * 10 ^ (digits - n.scale) by
        rw [← pow_add, Nat.add_sub_cancel' room]]
      push_cast
      field_simp
    rw [whole, round_natCast, roundTo, if_pos room, toRat]
    push_cast
    rw [← mul_assoc, signed]
  have unit : (n.unscaled.natAbs : ℚ) / 10 ^ n.scale * 10 ^ digits =
      (n.unscaled.natAbs : ℚ) / ((10 ^ (n.scale - digits) : Nat) : ℚ) := by
    rw [show (10 : ℚ) ^ n.scale = 10 ^ digits * 10 ^ (n.scale - digits) by
      rw [← pow_add, Nat.add_sub_cancel' (by omega)]]
    push_cast
    field_simp
  rw [unit, round_natCast_div _ _ (by positivity), roundTo, if_neg room, toRat]
  push_cast
  rw [Int.sign_eq_sign]
  push_cast
  rfl

theorem roundTo_nonneg {n : Numeric} (positive : 0 ≤ n.unscaled) (digits : Nat) :
    0 ≤ (n.roundTo digits).unscaled := by
  unfold roundTo
  split
  · exact mul_nonneg positive (by positivity)
  · exact mul_nonneg (Int.sign_nonneg_iff.mpr positive) (Int.natCast_nonneg _)

end Numeric

end UmojaFlowOS.Relational
