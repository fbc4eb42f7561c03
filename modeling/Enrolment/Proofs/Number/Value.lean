/-
What a number of the binary64 format is worth.

A finite number has a rational value, and nothing else has one.  To lie between two integers
is a fact about that value; it is found out without fractions, by multiplying with the power
of two that the value is divided by.
-/
import Mathlib.Algebra.Order.Field.Rat
import Mathlib.Algebra.Order.GroupWithZero.Basic
import Mathlib.Data.Rat.Cast.Defs
import Mathlib.Tactic.Positivity
import Enrolment.Proofs.Number.Range

namespace Enrolment.Binary64

/-- The value of a finite number. -/
def value? : Binary64 → Option ℚ
  | finite negative mantissa exponent =>
    some ((if negative then -(mantissa : ℚ) else mantissa) * 2 ^ exponent)
  | nan | infinite _ => none

/-- Whether a number has a value, and one within bounds. -/
def LiesBetween (x : Binary64) (low high : ℚ) : Prop :=
  ∃ value, x.value? = some value ∧ low ≤ value ∧ value ≤ high

theorem power_two_pos (e : Int) : 0 < power 2 e :=
  Nat.pow_pos (by decide)

/-- A power of two is a quotient of whole powers, one of which is one. -/
theorem zpow_mul_power (e : Int) : (2 : ℚ) ^ e * power 2 (-e) = power 2 e := by
  cases e with
  | ofNat n =>
      have hone : power 2 (-(n : Int)) = 1 := power_of_nonpos (by omega)
      show (2 : ℚ) ^ (n : Int) * (power 2 (-(n : Int)) : ℕ) = (power 2 (n : Int) : ℕ)
      rw [hone, power_of_nonneg, zpow_natCast, Nat.cast_one, mul_one, Nat.cast_pow, Nat.cast_ofNat]
  | negSucc n =>
      have hone : power 2 (Int.negSucc n) = 1 := power_of_nonpos (by omega)
      have hwhole : power 2 (-Int.negSucc n) = 2 ^ (n + 1) := rfl
      rw [hone, hwhole, zpow_negSucc, Nat.cast_pow, Nat.cast_ofNat, Nat.cast_one,
        inv_mul_cancel₀ (by positivity)]

theorem isBetween_iff (x : Binary64) (low high : Int) :
    x.isBetween low high = true ↔ x.LiesBetween low high := by
  cases x with
  | nan | infinite _ => simp [isBetween, LiesBetween, value?]
  | finite negative m e =>
      have hpos : (0 : ℚ) < power 2 (-e) := Nat.cast_pos.2 (power_two_pos (-e))
      have hscaled : ∀ n : Int, (n : ℚ) * 2 ^ e * power 2 (-e) = n * power 2 e := fun n => by
        rw [mul_assoc, zpow_mul_power]
      have hvalue : (if negative then -(m : ℚ) else m) =
          ((if negative then -(m : Int) else m : Int) : ℚ) := by
        cases negative <;> simp
      simp only [isBetween, LiesBetween, value?, hvalue, Option.some.injEq, exists_eq_left',
        Bool.and_eq_true, decide_eq_true_eq]
      generalize (if negative then -(m : Int) else m : Int) = n
      have hlow : (low : ℚ) ≤ n * 2 ^ e ↔ (low : ℚ) * power 2 (-e) ≤ n * power 2 e := by
        rw [← hscaled, mul_le_mul_iff_left₀ hpos]
      have hhigh : (n : ℚ) * 2 ^ e ≤ high ↔ (n : ℚ) * power 2 e ≤ high * power 2 (-e) := by
        rw [← hscaled, mul_le_mul_iff_left₀ hpos]
      rw [hlow, hhigh]
      norm_cast

end Enrolment.Binary64
