import Mathlib.Tactic.Common

/-!
Division of natural numbers that rounds to the nearest.
-/
namespace RoundedDivision

/-- The quotient rounded to the nearest, a half upwards if the divisor is even. -/
def nearest (a b : Nat) : Nat := (a + b / 2) / b

variable {a b q : Nat}

theorem nearest_le (a : Nat) : 2 * (nearest a b * b) ≤ 2 * a + b := by
  have below := Nat.div_mul_le_self (a + b / 2) b
  unfold nearest
  omega

theorem lt_nearest (positive : 0 < b) : 2 * a < 2 * (nearest a b * b) + b := by
  have above := Nat.lt_mul_div_succ (a + b / 2) positive
  rw [Nat.mul_comm, Nat.succ_mul] at above
  unfold nearest
  omega

theorem nearest_eq (low : 2 * (q * b) < 2 * a + b) (high : 2 * a < 2 * (q * b) + b) :
    nearest a b = q := by
  apply Nat.div_eq_of_lt_le
  · omega
  · rw [Nat.succ_mul]
    omega

theorem le_nearest (positive : 0 < b) (low : q * b ≤ a + b / 2) : q ≤ nearest a b :=
  (Nat.le_div_iff_mul_le positive).mpr low

theorem nearest_mul_left {k : Nat} (positive : 0 < k) (a b : Nat) :
    nearest (k * a) (k * b) = nearest a b := by
  have half : k * b / 2 / k = b / 2 := by
    rw [Nat.div_div_eq_div_mul, Nat.mul_comm 2 k, Nat.mul_div_mul_left _ _ positive]
  unfold nearest
  rw [← Nat.div_div_eq_div_mul, Nat.mul_add_div positive, half]

theorem nearest_mul (positive : 0 < b) (q : Nat) : nearest (q * b) b = q := by
  apply nearest_eq
  · omega
  · omega

end RoundedDivision
