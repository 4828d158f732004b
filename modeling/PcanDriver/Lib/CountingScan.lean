import Mathlib.Data.List.Basic
import Mathlib.Logic.Function.Basic
import Mathlib.Tactic.Common

/-!
A list scanned with counters: the item that makes a counter reach a number, and the
number that a counter has at an item. Items are counted by category, from one on, and the
two scans undo each other.
-/
namespace CountingScan
variable {α C : Type} [DecidableEq C]

/-- The scan stops at the item at which the counter reaches `index`. -/
def nth (counted : α → Bool) (index : Nat) : Nat → List α → Option α
  | _, [] => none
  | count, item :: rest =>
    if counted item then
      if count + 1 = index then some item else nth counted index (count + 1) rest
    else nth counted index count rest

/-- The scan stops at the first item looked for and answers the counter of its category. -/
def ordinal (category : α → C) (wanted : α → Bool) : (C → Nat) → List α → Option (α × Nat)
  | _, [] => none
  | counts, item :: rest =>
    let counts := Function.update counts (category item) (counts (category item) + 1)
    if wanted item then some (item, counts (category item))
    else ordinal category wanted counts rest

variable {category : α → C}

theorem nth_eq (counted : α → Bool) (index count : Nat) (items : List α) :
    nth counted index count items =
      if count < index then (items.filter counted)[index - count - 1]? else none := by
  induction items generalizing count with
  | nil => simp [nth]
  | cons item rest ih =>
    unfold nth
    by_cases here : counted item = true
    · rw [if_pos here, List.filter_cons_of_pos here, ih]
      by_cases reached : count + 1 = index
      · rw [if_pos reached, if_pos (by omega), show index - count - 1 = 0 by omega]
        rfl
      · rw [if_neg reached]
        by_cases below : count < index
        · rw [if_pos (by omega), if_pos below,
            show index - count - 1 = index - (count + 1) - 1 + 1 by omega]
          rfl
        · rw [if_neg (by omega), if_neg below]
    · rw [if_neg here, List.filter_cons_of_neg here, ih]

theorem nth_mem {counted : α → Bool} {index count : Nat} {items : List α} {item : α}
    (found : nth counted index count items = some item) : count < index ∧ item ∈ items := by
  rw [nth_eq] at found
  split at found
  next below => exact ⟨below, (List.mem_filter.mp (List.mem_of_getElem? found)).1⟩
  next => cases found

section Numbers
variable [DecidableEq α]

theorem ordinal_eq {wanted : α → Bool} {found : α} (counts : C → Nat) {items : List α}
    (only : ∀ item ∈ items, wanted item = true ↔ item = found) (member : found ∈ items) :
    ordinal category wanted counts items = some (found, counts (category found) +
      (items.filter (category · = category found)).idxOf found + 1) := by
  induction items generalizing counts with
  | nil => exact absurd member List.not_mem_nil
  | cons item rest ih =>
    unfold ordinal
    by_cases same : item = found
    · subst same
      have here := (only item List.mem_cons_self).mpr rfl
      simp only [if_pos here, Function.update_self]
      rw [List.filter_cons_of_pos (by simp), List.idxOf_cons_self]
    · have there : found ∈ rest := (List.mem_cons.mp member).resolve_left (Ne.symm same)
      have passed : ¬wanted item = true := mt (only item List.mem_cons_self).mp same
      simp only [if_neg passed]
      rw [ih _ (fun other inside => only other (List.mem_cons_of_mem _ inside)) there]
      by_cases kin : category item = category found
      · rw [List.filter_cons_of_pos (by simpa using kin), List.idxOf_cons_ne _ same, kin,
          Function.update_self]
        congr 2
        omega
      · rw [List.filter_cons_of_neg (by simpa using kin),
          Function.update_of_ne (Ne.symm kin)]

/-- Counting up to the number of an item finds the item. -/
theorem nth_ordinal {item : α} {items : List α} (member : item ∈ items) :
    nth (category · = category item)
      ((items.filter (category · = category item)).idxOf item + 1) 0 items = some item := by
  have inside : item ∈ items.filter (category · = category item) :=
    List.mem_filter.mpr ⟨member, by simp⟩
  rw [nth_eq, if_pos (by omega)]
  exact List.getElem?_idxOf inside

theorem ordinal_nth {kind : C} {index : Nat} {items : List α} {item : α}
    (distinct : items.Nodup) (found : nth (category · = kind) index 0 items = some item) :
    item ∈ items ∧ category item = kind ∧
      (items.filter (category · = category item)).idxOf item + 1 = index := by
  rw [nth_eq] at found
  split at found
  next positive =>
    obtain ⟨inside, place⟩ := List.getElem?_eq_some_iff.mp found
    have member : item ∈ items.filter (category · = kind) := place ▸ List.getElem_mem inside
    obtain ⟨listed, kin⟩ := List.mem_filter.mp member
    have same : category item = kind := by simpa using kin
    refine ⟨listed, same, ?_⟩
    have index_eq := List.Nodup.idxOf_getElem (distinct.filter _) _ inside
    rw [place] at index_eq
    rw [same, index_eq]
    omega
  next => cases found

end Numbers

end CountingScan
