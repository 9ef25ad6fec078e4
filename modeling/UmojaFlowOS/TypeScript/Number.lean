import Mathlib.Algebra.Group.Nat.Defs
import Mathlib.Algebra.Order.Group.Int
import Mathlib.Data.Nat.Log

/-!
# Integers as JavaScript numbers

A JavaScript number is a binary64 float: it has 53 significant bits. `JSON.parse` reads an
integer as the number nearest to it, ties to even, and the arithmetic rounds its exact
results in the same way. Overflow to `Infinity`, from about `2 ^ 1024` on, is left out.
-/

namespace UmojaFlowOS.TypeScript

/-- The number nearest to a natural number: a multiple of the unit in which its first 53 bits
count. -/
def roundNat (n : Nat) : Nat :=
  let unit := 2 ^ (Nat.log2 n - 52)
  let quotient := n / unit
  let rest := n % unit
  if 2 * rest < unit ∨ (2 * rest = unit ∧ quotient % 2 = 0) then quotient * unit
  else (quotient + 1) * unit

/-- The number nearest to an integer. -/
def toNumber (n : Int) : Int := n.sign * roundNat n.natAbs

def maxSafeInteger : Nat := 2 ^ 53 - 1

def isSafeInteger (n : Int) : Bool := n.natAbs ≤ maxSafeInteger

/-- The operators on integers that are numbers. -/
def add (a b : Int) : Int := toNumber (a + b)

def sub (a b : Int) : Int := toNumber (a - b)

theorem isSafeInteger_iff : isSafeInteger n = true ↔ n.natAbs < 2 ^ 53 := by
  have pred : maxSafeInteger + 1 = 2 ^ 53 := by decide
  rw [isSafeInteger, decide_eq_true_iff]
  omega

theorem roundNat_of_lt (small : n < 2 ^ 53) : roundNat n = n := by
  have unit : 2 ^ (Nat.log2 n - 52) = 1 := by
    by_cases zero : n = 0
    · subst zero
      rfl
    · have bound : Nat.log2 n < 53 := (Nat.log2_lt zero).mpr small
      rw [show Nat.log2 n - 52 = 0 by omega, Nat.pow_zero]
  unfold roundNat
  rw [unit]
  simp [Nat.mod_one]

/-- What has more than 53 bits stays outside of the safe range. -/
theorem le_roundNat (large : 2 ^ 53 ≤ n) : 2 ^ 53 ≤ roundNat n := by
  have positive : n ≠ 0 := by
    rintro rfl
    exact absurd large (by decide)
  have exponent : 53 ≤ Nat.log2 n := (Nat.le_log2 positive).mpr large
  have power : 2 ^ Nat.log2 n = 2 ^ 52 * 2 ^ (Nat.log2 n - 52) := by
    rw [← Nat.pow_add]
    congr 1
    omega
  have below : 2 ^ Nat.log2 n ≤ n := Nat.log2_self_le positive
  have quotient : 2 ^ 52 ≤ n / 2 ^ (Nat.log2 n - 52) := by
    rw [Nat.le_div_iff_mul_le (Nat.two_pow_pos _), ← power]
    exact below
  have rounded : n / 2 ^ (Nat.log2 n - 52) * 2 ^ (Nat.log2 n - 52) ≤ roundNat n := by
    unfold roundNat
    dsimp only
    split
    · exact Nat.le_refl _
    · exact Nat.mul_le_mul_right _ (Nat.le_succ _)
  calc 2 ^ 53 ≤ 2 ^ Nat.log2 n := Nat.pow_le_pow_right (by decide) exponent
    _ = 2 ^ 52 * 2 ^ (Nat.log2 n - 52) := power
    _ ≤ n / 2 ^ (Nat.log2 n - 52) * 2 ^ (Nat.log2 n - 52) := Nat.mul_le_mul_right _ quotient
    _ ≤ roundNat n := rounded

@[simp] theorem toNumber_of_safe (safe : isSafeInteger n = true) : toNumber n = n := by
  rw [toNumber, roundNat_of_lt (isSafeInteger_iff.mp safe)]
  exact Int.sign_mul_natAbs n

@[simp] theorem isSafeInteger_toNumber (n : Int) :
    isSafeInteger (toNumber n) = isSafeInteger n := by
  by_cases safe : isSafeInteger n = true
  · rw [toNumber_of_safe safe]
  have large : 2 ^ 53 ≤ n.natAbs := Nat.not_lt.mp (mt isSafeInteger_iff.mpr safe)
  have nonzero : n ≠ 0 := by
    rintro rfl
    exact absurd large (by decide)
  have magnitude : (toNumber n).natAbs = roundNat n.natAbs := by
    rw [toNumber, Int.natAbs_mul, Int.natAbs_sign_of_ne_zero nonzero, Nat.one_mul, Int.natAbs_natCast]
  rw [Bool.eq_false_of_not_eq_true safe, Bool.eq_false_iff, Ne, isSafeInteger_iff, magnitude]
  exact Nat.not_lt.mpr (le_roundNat large)

end UmojaFlowOS.TypeScript
