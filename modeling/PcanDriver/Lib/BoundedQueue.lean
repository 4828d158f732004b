import Mathlib.Tactic.Common

/-!
A first-in first-out queue that never holds more than its capacity. The newest
elements can be edited in place by a visitor that walks from the newest element
to the oldest and may stop early; a visitor's nonzero code stops the walk.
-/

structure BoundedQueue (A : Type) where
  capacity : Nat
  items : List A
  fits : items.length ≤ capacity

namespace BoundedQueue
variable {A X : Type}

def empty (capacity : Nat) : BoundedQueue A where
  capacity := capacity
  items := []
  fits := Nat.zero_le _

def push (q : BoundedQueue A) (x : A) : Option (BoundedQueue A) :=
  if room : q.items.length < q.capacity then
    some ⟨q.capacity, q.items ++ [x], by simp only [List.length_append, List.length_singleton]; omega⟩
  else none

def oldest (q : BoundedQueue A) : Option A := q.items.head?

def newest (q : BoundedQueue A) : Option A := q.items.getLast?

def dropOldest (q : BoundedQueue A) : BoundedQueue A where
  capacity := q.capacity
  items := q.items.tail
  fits := by
    have := q.fits
    rw [List.length_tail]
    omega

/-- The queue after its oldest elements have been taken out, up to the last `n`. -/
def keepLast (q : BoundedQueue A) (n : Nat) : BoundedQueue A where
  capacity := q.capacity
  items := q.items.drop (q.items.length - n)
  fits := by
    have := q.fits
    rw [List.length_drop]
    omega

def clear (q : BoundedQueue A) : BoundedQueue A := empty q.capacity

/-- Walks a list from its head; the remaining elements are kept after a stop. -/
def visit (pf : A → X → A × X × Int) : List A → X → List A × X × Int
  | [], arg => ([], arg, 0)
  | x :: rest, arg =>
    if (pf x arg).2.2 = 0 then
      ((pf x arg).1 :: (visit pf rest (pf x arg).2.1).1, (visit pf rest (pf x arg).2.1).2)
    else ((pf x arg).1 :: rest, (pf x arg).2)

theorem visit_length (pf : A → X → A × X × Int) (xs : List A) (arg : X) :
    (visit pf xs arg).1.length = xs.length := by
  induction xs generalizing arg with
  | nil => rfl
  | cons x rest ih =>
    unfold visit
    split
    · simp [ih]
    · simp

def visitBack (q : BoundedQueue A) (pf : A → X → A × X × Int) (arg : X) :
    BoundedQueue A × X × Int :=
  (⟨q.capacity, (visit pf q.items.reverse arg).1.reverse, by
    have := q.fits
    rw [List.length_reverse, visit_length, List.length_reverse]
    exact this⟩, (visit pf q.items.reverse arg).2)

theorem ext_items {p q : BoundedQueue A} (capacity : p.capacity = q.capacity)
    (items : p.items = q.items) : p = q := by
  cases p
  cases q
  simp only at capacity items
  subst capacity items
  rfl

@[simp] theorem empty_items (n : Nat) : (empty n : BoundedQueue A).items = [] := rfl
@[simp] theorem empty_capacity (n : Nat) : (empty n : BoundedQueue A).capacity = n := rfl
@[simp] theorem clear_items (q : BoundedQueue A) : q.clear.items = [] := rfl
@[simp] theorem clear_capacity (q : BoundedQueue A) : q.clear.capacity = q.capacity := rfl
@[simp] theorem dropOldest_items (q : BoundedQueue A) : q.dropOldest.items = q.items.tail := rfl
@[simp] theorem dropOldest_capacity (q : BoundedQueue A) :
    q.dropOldest.capacity = q.capacity := rfl
@[simp] theorem visitBack_capacity (q : BoundedQueue A) (pf : A → X → A × X × Int) (arg : X) :
    (q.visitBack pf arg).1.capacity = q.capacity := rfl

theorem keepLast_items {q : BoundedQueue A} {taken rest : List A} (items : taken ++ rest = q.items) :
    (q.keepLast rest.length).items = rest := by
  simp [keepLast, ← items]

@[simp] theorem keepLast_capacity (q : BoundedQueue A) (n : Nat) :
    (q.keepLast n).capacity = q.capacity := rfl

theorem push_some {q p : BoundedQueue A} {x : A} (pushed : q.push x = some p) :
    p.capacity = q.capacity ∧ p.items = q.items ++ [x] ∧ q.items.length < q.capacity := by
  unfold push at pushed
  split at pushed
  · rename_i room
    cases pushed
    exact ⟨rfl, rfl, room⟩
  · cases pushed

theorem push_none {q : BoundedQueue A} {x : A} :
    q.push x = none ↔ q.items.length = q.capacity := by
  have := q.fits
  unfold push
  split <;> simp <;> omega

theorem push_room {q : BoundedQueue A} (x : A) (room : q.items.length < q.capacity) :
    ∃ p, q.push x = some p ∧ p.capacity = q.capacity ∧ p.items = q.items ++ [x] := by
  unfold push
  rw [dif_pos room]
  exact ⟨_, rfl, rfl, rfl⟩

theorem visitBack_nil {q : BoundedQueue A} (nil : q.items = []) (pf : A → X → A × X × Int)
    (arg : X) : q.visitBack pf arg = (q, arg, 0) := by
  have same : (q.visitBack pf arg).1 = q := by
    refine ext_items (visitBack_capacity q pf arg) ?_
    simp [visitBack, nil, visit]
  have rest : (q.visitBack pf arg).2 = (arg, 0) := by simp [visitBack, nil, visit]
  exact Prod.ext same rest

/-- A visitor that always stops only meets the newest element. -/
theorem visitBack_newest {q : BoundedQueue A} {older : List A} {x : A}
    (items : q.items = older ++ [x]) {pf : A → X → A × X × Int} {arg : X}
    (stops : (pf x arg).2.2 ≠ 0) :
    (q.visitBack pf arg).1.items = older ++ [(pf x arg).1] ∧
      (q.visitBack pf arg).2 = (pf x arg).2 := by
  simp [visitBack, items, visit, stops]

/-- A visitor that only looks, and never stops, sees every element once. -/
theorem visit_log (xs log : List A) :
    visit (fun x seen => (x, seen ++ [x], 0)) xs log = (xs, log ++ xs, 0) := by
  induction xs generalizing log with
  | nil => simp [visit]
  | cons x rest ih => simp [visit, ih]

end BoundedQueue
