import Mathlib.Data.List.Nodup

/-!
A table with room for a number of distinct items. An item that it holds is not added
again, and one that finds no room is refused: what the table holds are the first
distinct items that it was asked for.
-/
namespace FirstAdditions
variable {A : Type} [DecidableEq A]

def add (room : Nat) (held : List A) (x : A) : List A :=
  if x ∈ held then held else if room ≤ held.length then held else held ++ [x]

/-- The distinct items of a list, in the order in which they first occur. -/
def firsts : List A → List A
  | [] => []
  | x :: xs => x :: (firsts xs).filter (· ≠ x)

theorem mem_firsts (xs : List A) : ∀ y, y ∈ firsts xs ↔ y ∈ xs := by
  intro y
  induction xs with
  | nil => rfl
  | cons x xs ih =>
    simp only [firsts, List.mem_cons, List.mem_filter, ih, decide_eq_true_eq]
    by_cases same : y = x
    · simp [same]
    · simp [same]

theorem firsts_nodup (xs : List A) : (firsts xs).Nodup := by
  induction xs with
  | nil => exact List.nodup_nil
  | cons x xs ih =>
    rw [firsts, List.nodup_cons]
    constructor
    · intro mem
      have other := (List.mem_filter.mp mem).2
      simp at other
    · exact ih.filter _

theorem firsts_concat (xs : List A) (x : A) :
    firsts (xs ++ [x]) = if x ∈ xs then firsts xs else firsts xs ++ [x] := by
  induction xs with
  | nil => rfl
  | cons y ys ih =>
    rw [List.cons_append, firsts, ih, firsts]
    by_cases same : x = y
    · subst same
      by_cases later : x ∈ ys <;> simp [later, List.filter_append]
    · by_cases later : x ∈ ys <;> simp [later, same, List.filter_append]

theorem firsts_filter (p : A → Bool) (xs : List A) : firsts (xs.filter p) = (firsts xs).filter p := by
  induction xs with
  | nil => rfl
  | cons x xs ih =>
    by_cases kept : p x = true
    · rw [List.filter_cons_of_pos kept, firsts, firsts, List.filter_cons_of_pos kept, ih,
        List.filter_comm]
    · have gone : ∀ y ∈ firsts xs, (p y && decide (y ≠ x)) = p y := by
        intro y _
        by_cases same : y = x
        · rw [same, Bool.eq_false_iff.mpr kept, Bool.false_and]
        · rw [decide_eq_true same, Bool.and_true]
      rw [List.filter_cons_of_neg kept, firsts, List.filter_cons_of_neg kept, List.filter_filter, ih]
      exact (List.filter_congr gone).symm

omit [DecidableEq A] in
theorem take_full {room : Nat} {xs : List A} {x : A} (mem : x ∈ xs)
    (absent : x ∉ xs.take room) : room ≤ xs.length := by
  by_contra short
  apply absent
  rw [List.take_of_length_le (by omega)]
  exact mem

theorem add_firsts (room : Nat) (xs : List A) (x : A) :
    add room ((firsts xs).take room) x = (firsts (xs ++ [x])).take room := by
  rw [firsts_concat, add]
  by_cases held : x ∈ (firsts xs).take room
  · have mem : x ∈ xs := (mem_firsts xs x).mp (List.mem_of_mem_take held)
    rw [if_pos held, if_pos mem]
  · rw [if_neg held]
    by_cases mem : x ∈ xs
    · have full := take_full ((mem_firsts xs x).mpr mem) held
      have length : room ≤ ((firsts xs).take room).length := by
        rw [List.length_take]
        omega
      rw [if_pos mem, if_pos length]
    · rw [if_neg mem, List.length_take]
      by_cases full : room ≤ (firsts xs).length
      · rw [if_pos (by omega), List.take_append_of_le_length full]
      · rw [if_neg (by omega), List.take_of_length_le (by omega),
          List.take_of_length_le (by simp only [List.length_append, List.length_singleton]; omega)]

theorem foldl_add (room : Nat) (xs ys : List A) :
    ys.foldl (add room) ((firsts xs).take room) = (firsts (xs ++ ys)).take room := by
  induction ys generalizing xs with
  | nil => rw [List.foldl_nil, List.append_nil]
  | cons y ys ih =>
    rw [List.foldl_cons, add_firsts, ih]
    rw [List.append_assoc, List.singleton_append]

theorem take_firsts_nodup (room : Nat) (xs : List A) : ((firsts xs).take room).Nodup :=
  (firsts_nodup xs).sublist (List.take_sublist _ _)

/-- Nothing is refused as long as the distinct items find room. -/
theorem mem_take_firsts {room : Nat} {xs : List A} (fits : (firsts xs).length ≤ room) (y : A) :
    y ∈ (firsts xs).take room ↔ y ∈ xs := by
  rw [List.take_of_length_le fits]
  exact mem_firsts xs y

end FirstAdditions
