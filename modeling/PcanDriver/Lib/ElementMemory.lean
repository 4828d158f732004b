import Mathlib.Tactic.Common

/-!
Memory that is read and written one element at a time. An element occupies
`size` consecutive addresses; a store changes nothing that lies entirely outside
of them. Byte memory with `memcpy` of fixed blocks is the intended instance.
-/

structure ElementMemory (A : Type) (size : Nat) where
  Carrier : Type
  load : Carrier → Nat → A
  store : Carrier → Nat → A → Carrier
  load_store : ∀ m p x, load (store m p x) p = x
  load_store_apart : ∀ m p q x, q + size ≤ p ∨ p + size ≤ q → load (store m p x) q = load m q

namespace ElementMemory
variable {A : Type} {size : Nat}

/-- Address of a slot in a table of elements `stride` apart. -/
def slotAddress (base stride i : Nat) : Nat := base + i * stride

theorem slots_apart {base stride i j : Nat} (wide : size ≤ stride) (distinct : i ≠ j) :
    slotAddress base stride j + size ≤ slotAddress base stride i ∨
      slotAddress base stride i + size ≤ slotAddress base stride j := by
  unfold slotAddress
  rcases Nat.lt_or_gt_of_ne distinct with less | more
  · right
    have := Nat.mul_le_mul_right stride (Nat.succ_le_of_lt less)
    rw [Nat.succ_mul] at this
    omega
  · left
    have := Nat.mul_le_mul_right stride (Nat.succ_le_of_lt more)
    rw [Nat.succ_mul] at this
    omega

theorem load_store_slot (M : ElementMemory A size) (m : M.Carrier) {base stride : Nat}
    (wide : size ≤ stride) (i j : Nat) (x : A) :
    M.load (M.store m (slotAddress base stride i) x) (slotAddress base stride j) =
      if j = i then x else M.load m (slotAddress base stride j) := by
  by_cases same : j = i
  · subst same
    simp [M.load_store]
  · rw [if_neg same]
    exact M.load_store_apart m _ _ x (slots_apart wide (Ne.symm same))

/-- Bytes at every address; an element is a block of `size` bytes. -/
def bytes (size : Nat) : ElementMemory (Vector (BitVec 8) size) size where
  Carrier := Nat → BitVec 8
  load m p := Vector.ofFn fun i => m (p + i.val)
  store m p x := fun a => if h : p ≤ a ∧ a < p + size then x.get ⟨a - p, by omega⟩ else m a
  load_store m p x := by
    apply Vector.ext
    intro i hi
    simp only [Vector.getElem_ofFn]
    rw [dif_pos (by omega)]
    simp [Vector.get]
  load_store_apart m p q x apart := by
    apply Vector.ext
    intro i hi
    simp only [Vector.getElem_ofFn]
    rw [dif_neg (by omega)]

end ElementMemory
