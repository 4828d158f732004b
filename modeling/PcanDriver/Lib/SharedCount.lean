import Mathlib.Algebra.BigOperators.Group.Finset.Basic
import Mathlib.Data.Fintype.Basic
import Mathlib.Tactic.Common

/-!
A counter that the members of a finite family share: how many of them are marked, how
that number moves with one member, and when a marked member is the only one.
-/
namespace SharedCount
variable {ι A : Type} [Fintype ι]

def marked (mark : A → Bool) (family : ι → A) : Finset ι :=
  Finset.univ.filter fun i => mark (family i) = true

@[simp] theorem mem_marked {mark : A → Bool} {family : ι → A} {i : ι} :
    i ∈ marked mark family ↔ mark (family i) = true := by
  simp [marked]

theorem card_marked_pos {mark : A → Bool} {family : ι → A} {i : ι}
    (member : mark (family i) = true) : 0 < (marked mark family).card :=
  Finset.card_pos.mpr ⟨i, mem_marked.mpr member⟩

theorem card_marked_le_one {mark : A → Bool} {family : ι → A} {i : ι}
    (member : mark (family i) = true) :
    (marked mark family).card ≤ 1 ↔ ∀ j, mark (family j) = true → j = i := by
  rw [Finset.card_le_one]
  constructor
  · intro unique j other
    exact unique j (mem_marked.mpr other) i (mem_marked.mpr member)
  · intro unique j hj k hk
    rw [unique j (mem_marked.mp hj), unique k (mem_marked.mp hk)]

variable [DecidableEq ι]

theorem marked_update (mark : A → Bool) (family : ι → A) (i : ι) (a : A) :
    marked mark (Function.update family i a) =
      if mark a then insert i (marked mark family) else (marked mark family).erase i := by
  ext j
  by_cases same : j = i
  · subst same
    cases kind : mark a <;> simp [kind]
  · cases kind : mark a <;> simp [same]

theorem card_marked_update (mark : A → Bool) (family : ι → A) (i : ι) (a : A) :
    (marked mark (Function.update family i a)).card + (mark (family i)).toNat =
      (marked mark family).card + (mark a).toNat := by
  rw [marked_update]
  cases before : mark (family i) <;> cases after : mark a
  · have absent : i ∉ marked mark family := by simp [before]
    simp [Finset.erase_eq_of_notMem absent]
  · have absent : i ∉ marked mark family := by simp [before]
    simp [Finset.card_insert_of_notMem absent]
  · have present : i ∈ marked mark family := by simp [before]
    simpa using Finset.card_erase_add_one present
  · have present : i ∈ marked mark family := by simp [before]
    simp [Finset.insert_eq_of_mem present]

end SharedCount
