import Mathlib.Algebra.Order.Ring.Nat
import Mathlib.Tactic.Common

/-!
Setting and clearing the bits of one mask does not disturb the bits of a
disjoint one, and words put together from separate fields are sums of these.
-/
namespace Masks
variable {n : Nat}

theorem or_and_of_disjoint {a b : BitVec n} (x : BitVec n) (disjoint : a &&& b = 0) :
    (x ||| a) &&& b = x &&& b := by
  rw [BitVec.and_or_distrib_right, disjoint]
  simp

theorem andNot_and_of_disjoint {a b : BitVec n} (x : BitVec n) (disjoint : a &&& b = 0) :
    (x &&& ~~~a) &&& b = x &&& b := by
  ext i hi
  have bit : (a &&& b)[i] = false := by simp [disjoint]
  simp only [BitVec.getElem_and, BitVec.getElem_not] at bit ⊢
  cases ha : a[i] <;> cases hb : b[i] <;> simp_all

theorem or_and_self (x a : BitVec n) : (x ||| a) &&& a = a := by
  ext i hi
  simp only [BitVec.getElem_and, BitVec.getElem_or]
  cases a[i] <;> simp

theorem andNot_and_self (x a : BitVec n) : (x &&& ~~~a) &&& a = 0 := by
  ext i hi
  simp only [BitVec.getElem_and, BitVec.getElem_not]
  cases a[i] <;> simp

theorem andNot_andNot (x a : BitVec n) : x &&& ~~~a &&& ~~~a = x &&& ~~~a := by
  rw [BitVec.and_assoc, BitVec.and_self]

theorem andNot_swap (x a b : BitVec n) : x &&& ~~~a &&& ~~~b = x &&& ~~~b &&& ~~~a := by
  rw [BitVec.and_assoc, BitVec.and_comm (~~~a), ← BitVec.and_assoc]

theorem or_andNot_of_clear {x a : BitVec n} (clear : x &&& a = 0) : (x ||| a) &&& ~~~a = x := by
  ext i hi
  have bit : (x &&& a)[i] = false := by simp [clear]
  simp only [BitVec.getElem_and, BitVec.getElem_or, BitVec.getElem_not] at bit ⊢
  cases hx : x[i] <;> cases ha : a[i] <;> simp_all

theorem andNot_or_and_left (x a b : BitVec n) : (x &&& ~~~(a ||| b)) &&& a = 0 := by
  ext i hi
  simp only [BitVec.getElem_and, BitVec.getElem_not, BitVec.getElem_or]
  cases a[i] <;> simp

/-- A word whose bits in `a` come from another one. -/
theorem merged_and {a b : BitVec n} (x y : BitVec n) (inside : b &&& a = b) :
    (x &&& ~~~a ||| y &&& a) &&& b = y &&& b := by
  ext i hi
  have bit : (b &&& a)[i] = b[i] := by simp only [inside]
  simp only [BitVec.getElem_and, BitVec.getElem_or, BitVec.getElem_not] at bit ⊢
  cases ha : a[i] <;> cases hb : b[i] <;> simp_all

theorem or_eq_add {a b k : Nat} (high : 2 ^ k ∣ a) (low : b < 2 ^ k) : a ||| b = a + b := by
  obtain ⟨c, rfl⟩ := high
  exact (Nat.two_pow_add_eq_or_of_lt low c).symm

theorem flag_cases {bit : BitVec n} {i : Nat} (one : bit = BitVec.twoPow n i) (flags : BitVec n) :
    flags &&& bit = 0 ∨ flags &&& bit = bit := by
  rw [one, BitVec.and_twoPow]
  split
  · exact .inr rfl
  · exact .inl rfl

theorem toNat_append {m : Nat} (x : BitVec m) (y : BitVec n) :
    (x ++ y).toNat = x.toNat * 2 ^ n + y.toNat := by
  rw [BitVec.toNat_append, Nat.shiftLeft_eq]
  exact or_eq_add (Nat.dvd_mul_left _ _) y.isLt

theorem toNat_shiftLeft_of_lt {x : BitVec n} {k : Nat} (fits : x.toNat * 2 ^ k < 2 ^ n) :
    (x <<< k).toNat = x.toNat * 2 ^ k := by
  rw [BitVec.toNat_shiftLeft, Nat.shiftLeft_eq, Nat.mod_eq_of_lt fits]

/-- A field that is stored less one, under a mask of `k` ones. -/
theorem toNat_sub_one_and {x mask : BitVec n} {k : Nat} (ones : mask.toNat = 2 ^ k - 1)
    (low : 1 ≤ x.toNat) (high : x.toNat ≤ 2 ^ k) : ((x - 1) &&& mask).toNat = x.toNat - 1 := by
  have size := x.isLt
  have one : (1 : BitVec n).toNat = 1 := by
    rw [BitVec.ofNat_eq_ofNat, BitVec.toNat_ofNat]
    exact Nat.mod_eq_of_lt (Nat.lt_of_le_of_lt low size)
  have less : (x - 1).toNat = x.toNat - 1 := by
    rw [BitVec.toNat_sub_of_le (BitVec.le_def.mpr (by omega)), one]
  rw [BitVec.toNat_and, ones, Nat.and_two_pow_sub_one_eq_mod, less]
  exact Nat.mod_eq_of_lt (by omega)

/-- A field of `j` bits that is taken from bit `k` on. -/
theorem toNat_masked_shift {x mask : BitVec n} {k j : Nat} (field : mask.toNat >>> k = 2 ^ j - 1) :
    ((x &&& mask) >>> k).toNat = x.toNat / 2 ^ k % 2 ^ j := by
  rw [BitVec.toNat_ushiftRight, BitVec.toNat_and, Nat.shiftRight_and_distrib, field,
    Nat.and_two_pow_sub_one_eq_mod, Nat.shiftRight_eq_div_pow]

end Masks
