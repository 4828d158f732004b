import Mathlib.Data.Nat.Dist
import Mathlib.Tactic.Ring

/-!
Products `b * t` of bounded factors, by which a number is divided to come near to a value. For
each `t` only the quotient that would be exact, rounded down or up, has to be tried: a factor out
of range is never needed, for a longer `t` is at least as near.
-/
namespace NearestDivisor
variable {n value b b' t t' tMax bMax : Nat}

def error (n value b t : Nat) : Nat := Nat.dist value (n / (b * t))

def Rounded (n value b t : Nat) : Prop := b = n / (t * value) ∨ b = n / (t * value) + 1

theorem value_le_of_le_quotient (positive : 0 < value) (first : 1 ≤ b) (second : 1 ≤ t)
    (small : b ≤ n / (t * value)) : value ≤ n / (b * t) := by
  rw [Nat.le_div_iff_mul_le (Nat.mul_pos second positive)] at small
  rw [Nat.le_div_iff_mul_le (Nat.mul_pos first second)]
  calc value * (b * t) = b * (t * value) := by ring
    _ ≤ n := small

theorem le_value_of_quotient_lt (positive : 0 < value) (first : 1 ≤ b) (second : 1 ≤ t)
    (large : n / (t * value) < b) : n / (b * t) ≤ value := by
  rw [Nat.div_lt_iff_lt_mul (Nat.mul_pos second positive)] at large
  refine Nat.le_of_lt ?_
  rw [Nat.div_lt_iff_lt_mul (Nat.mul_pos first second)]
  calc n < b * (t * value) := large
    _ = value * (b * t) := by ring

theorem error_le_of_above (first : 1 ≤ b) (second : 1 ≤ t) (greater : b * t ≤ b' * t')
    (above : value ≤ n / (b' * t')) : error n value b' t' ≤ error n value b t := by
  have less : n / (b' * t') ≤ n / (b * t) :=
    Nat.div_le_div_left greater (Nat.mul_pos first second)
  unfold error Nat.dist
  omega

theorem error_le_of_below (first : 1 ≤ b) (second : 1 ≤ t) (greater : b * t ≤ b' * t')
    (below : n / (b * t) ≤ value) : error n value b t ≤ error n value b' t' := by
  have less : n / (b' * t') ≤ n / (b * t) :=
    Nat.div_le_div_left greater (Nat.mul_pos first second)
  unfold error Nat.dist
  omega

theorem rounded_same (positive : 0 < value) (second : 1 ≤ t) (short : n / (t * value) ≤ bMax)
    (first : 1 ≤ b) (range : b ≤ bMax) :
    ∃ b', 1 ≤ b' ∧ b' ≤ bMax ∧ Rounded n value b' t ∧ error n value b' t ≤ error n value b t := by
  rcases Nat.lt_or_ge (n / (t * value)) b with large | small
  · have below : n / ((n / (t * value) + 1) * t) ≤ value :=
      le_value_of_quotient_lt positive (Nat.succ_pos _) second (Nat.lt_succ_self _)
    exact ⟨n / (t * value) + 1, Nat.succ_pos _, Nat.le_trans large range, .inr rfl,
      error_le_of_below (Nat.succ_pos _) second (Nat.mul_le_mul_right t large) below⟩
  · have above := value_le_of_le_quotient positive (Nat.le_trans first small) second Nat.le.refl
    exact ⟨n / (t * value), Nat.le_trans first small, short, .inl rfl,
      error_le_of_above first second (Nat.mul_le_mul_right t small) above⟩

theorem longer_as_near (positive : 0 < value) (second : 1 ≤ t) (long : bMax < n / (t * value))
    (first : 1 ≤ b) (range : b ≤ bMax) :
    ∃ b', 1 ≤ b' ∧ b' ≤ bMax ∧ error n value b' (t + 1) ≤ error n value b t := by
  rcases Nat.lt_or_ge (n / ((t + 1) * value)) bMax with less | more
  · -- the quotient for `t + 1`, which is in range, makes a product at least as great
    generalize quotient : n / ((t + 1) * value) = q at less
    have upper : n < (q + 1) * (t + 1) * value := by
      have next : n / ((t + 1) * value) < q + 1 := quotient ▸ Nat.lt_succ_self _
      rw [Nat.div_lt_iff_lt_mul (Nat.mul_pos (Nat.succ_pos t) positive)] at next
      rwa [Nat.mul_assoc]
    have lower : (bMax + 1) * t * value ≤ n := by
      have least : bMax + 1 ≤ n / (t * value) := long
      rw [Nat.le_div_iff_mul_le (Nat.mul_pos second positive)] at least
      rwa [Nat.mul_assoc]
    have products := Nat.lt_of_mul_lt_mul_right (Nat.lt_of_le_of_lt lower upper)
    have greater : bMax * t ≤ q * (t + 1) := by
      rw [Nat.add_mul, Nat.add_mul, Nat.one_mul, Nat.one_mul] at products
      omega
    have nonzero : 1 ≤ q := by
      rcases Nat.eq_zero_or_pos q with rfl | positive
      · have some := Nat.mul_pos (Nat.le_trans first range) second
        omega
      · exact positive
    have above := value_le_of_le_quotient positive nonzero (Nat.succ_pos t)
      (Nat.le_of_eq quotient.symm)
    have product := Nat.le_trans (Nat.mul_le_mul_right t range) greater
    exact ⟨q, nonzero, Nat.le_of_lt less, error_le_of_above first second product above⟩
  · have above := value_le_of_le_quotient positive (Nat.le_trans first range) (Nat.succ_pos t) more
    have greater : b * t ≤ bMax * (t + 1) := Nat.mul_le_mul range (Nat.le_succ t)
    exact ⟨bMax, Nat.le_trans first range, Nat.le.refl,
      error_le_of_above first second greater above⟩

/-- If the quotient for the greatest `t` is in range, no pair is nearer than some rounded one. -/
theorem rounded_nearest (positive : 0 < value) (short : n / (tMax * value) ≤ bMax)
    (second : 1 ≤ t) (last : t ≤ tMax) (first : 1 ≤ b) (range : b ≤ bMax) :
    ∃ b' t', (1 ≤ b' ∧ b' ≤ bMax) ∧ (t ≤ t' ∧ t' ≤ tMax) ∧ Rounded n value b' t' ∧
      error n value b' t' ≤ error n value b t := by
  induction rest : tMax - t generalizing t b with
  | zero =>
    obtain rfl : t = tMax := by omega
    obtain ⟨b', low, high, rounded, near⟩ := rounded_same positive second short first range
    exact ⟨b', t, ⟨low, high⟩, ⟨Nat.le.refl, Nat.le.refl⟩, rounded, near⟩
  | succ k ih =>
    rcases Nat.lt_or_ge bMax (n / (t * value)) with long | reached
    · obtain ⟨b₁, low, high, nearer⟩ := longer_as_near positive second long first range
      obtain ⟨b', t', bounds, ⟨later, limit⟩, rounded, near⟩ :=
        ih (Nat.succ_pos t) (by omega) low high (by omega)
      exact ⟨b', t', bounds, ⟨by omega, limit⟩, rounded, Nat.le_trans near nearer⟩
    · obtain ⟨b', low, high, rounded, near⟩ := rounded_same positive second reached first range
      exact ⟨b', t, ⟨low, high⟩, ⟨Nat.le.refl, last⟩, rounded, near⟩

end NearestDivisor
