import Mathlib.Tactic.Common

/-!
What a program has acquired and released, as a list of the calls in their order. A call
that fails is not an entry; a release is one even where nothing was acquired.
-/
namespace Ledger

inductive Entry (R : Type) where
  | acquire (r : R)
  | release (r : R)
deriving Repr, DecidableEq

variable {R : Type} [DecidableEq R]

def Settled (log : List (Entry R)) : Prop :=
  ∀ r, log.count (.acquire r) ≤ log.count (.release r)

/-- Everything acquired is released exactly once, and nothing else is released. -/
def Balanced (log : List (Entry R)) : Prop :=
  ∀ r, log.count (.acquire r) = log.count (.release r)

/-- Between two successive acquisitions there is exactly one release. -/
def OnceBetween (r : R) (log : List (Entry R)) : Prop :=
  ∀ before between after, log = before ++ .acquire r :: (between ++ .acquire r :: after) →
    .acquire r ∉ between → between.count (.release r) = 1

theorem Balanced.settled {log : List (Entry R)} (balanced : Balanced log) : Settled log :=
  fun r => Nat.le_of_eq (balanced r)

theorem Balanced.append {log more : List (Entry R)} (first : Balanced log)
    (second : Balanced more) : Balanced (log ++ more) := by
  intro r
  rw [List.count_append, List.count_append, first r, second r]

theorem settled_nil : Settled ([] : List (Entry R)) := fun _ => Nat.le_refl 0

theorem Settled.append {log more : List (Entry R)} (first : Settled log) (second : Settled more) :
    Settled (log ++ more) := by
  intro r
  rw [List.count_append, List.count_append]
  exact Nat.add_le_add (first r) (second r)

theorem settled_release (r : R) : Settled [.release r] := by
  intro other
  simp

theorem Settled.wrap {log : List (Entry R)} (settled : Settled log) (r : R) :
    Settled (.acquire r :: (log ++ [.release r])) := by
  intro other
  have inner := settled other
  by_cases same : r = other
  · subst same
    simp [List.count_append]
    omega
  · simp [List.count_append, same, inner]

theorem not_settled {log : List (Entry R)} {r : R} (acquired : .acquire r ∈ log)
    (kept : .release r ∉ log) : ¬Settled log := by
  intro settled
  have pos := List.count_pos_iff.mpr acquired
  have none := List.count_eq_zero.mpr kept
  have some := settled r
  omega

theorem onceBetween_of_count {r : R} {log : List (Entry R)} (few : log.count (.acquire r) ≤ 1) :
    OnceBetween r log := by
  intro before between after same
  subst same
  simp only [List.count_append, List.count_cons_self] at few
  omega

end Ledger
