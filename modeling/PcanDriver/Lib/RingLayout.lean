import Mathlib.Tactic.Common
import Mathlib.Data.Nat.ModEq

/-!
Circular layout of a bounded sequence. `contents load cap head n` reads n slots
in order, starting at slot `head` and wrapping at `cap`. Slots are numbers here;
their addresses and the meaning of a store belong to the memory below.
-/
namespace RingLayout
variable {A : Type}

def next (cap i : Nat) : Nat := if i + 1 < cap then i + 1 else 0

def prev (cap i : Nat) : Nat := if i = 0 then cap - 1 else i - 1

def contents (load : Nat → A) (cap head n : Nat) : List A :=
  (List.range n).map fun k => load ((head + k) % cap)

def put (load : Nat → A) (i : Nat) (x : A) : Nat → A := fun j => if j = i then x else load j

theorem next_eq_mod {cap i : Nat} (bound : i < cap) : next cap i = (i + 1) % cap := by
  unfold next
  split
  · rename_i inside
    exact (Nat.mod_eq_of_lt inside).symm
  · have last : i + 1 = cap := by omega
    simp [last]

theorem next_lt {cap i : Nat} (bound : i < cap) : next cap i < cap := by
  unfold next
  split <;> omega

theorem prev_add {cap i k : Nat} (positive : 0 < cap) :
    prev cap ((i + (k + 1)) % cap) = (i + k) % cap := by
  have low := Nat.mod_lt (i + k) positive
  have shift : (i + (k + 1)) % cap = ((i + k) % cap + 1) % cap := by
    rw [Nat.mod_add_mod]
    rfl
  rw [shift, ← next_eq_mod low]
  unfold next prev
  split
  · rw [if_neg (by omega)]
    omega
  · rw [if_pos rfl]
    omega

theorem offset_injective {cap head j k : Nat} (hj : j < cap) (hk : k < cap)
    (same : (head + j) % cap = (head + k) % cap) : j = k := by
  have cancel : j ≡ k [MOD cap] := Nat.ModEq.add_left_cancel' head same
  exact cancel.eq_of_lt_of_lt hj hk

theorem contents_congr {load load' : Nat → A} {cap head n : Nat}
    (same : ∀ k, k < n → load' ((head + k) % cap) = load ((head + k) % cap)) :
    contents load' cap head n = contents load cap head n := by
  apply List.map_congr_left
  intro k mem
  exact same k (List.mem_range.mp mem)

theorem contents_append (load : Nat → A) (cap head n : Nat) :
    contents load cap head (n + 1) = contents load cap head n ++ [load ((head + n) % cap)] := by
  simp [contents, List.range_succ]

theorem contents_cons (load : Nat → A) {cap head : Nat} (n : Nat) (bound : head < cap) :
    contents load cap head (n + 1) = load head :: contents load cap (next cap head) n := by
  simp only [contents, List.range_succ_eq_map, List.map_cons, List.map_map, Nat.add_zero,
    Nat.mod_eq_of_lt bound, List.cons.injEq, true_and]
  apply List.map_congr_left
  intro k _
  simp only [Function.comp_apply]
  rw [next_eq_mod bound, Nat.mod_add_mod]
  congr 2
  omega

theorem contents_put_free (load : Nat → A) {cap head n : Nat} (x : A) (room : n < cap) :
    contents (put load ((head + n) % cap) x) cap head n = contents load cap head n := by
  apply contents_congr
  intro k hk
  unfold put
  rw [if_neg]
  intro same
  have := offset_injective (by omega) room same
  omega

theorem contents_push (load : Nat → A) {cap head n : Nat} (x : A) (room : n < cap) :
    contents (put load ((head + n) % cap) x) cap head (n + 1) =
      contents load cap head n ++ [x] := by
  rw [contents_append, contents_put_free load x room]
  simp [put]

end RingLayout
