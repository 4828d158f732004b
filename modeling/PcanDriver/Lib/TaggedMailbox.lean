import Mathlib.Tactic.Common

/-!
A cell that a writer fills and a reader empties, with no flag beside it. Every item
carries a tag. The reader awaits one tag, and when it takes an item it gives the writer
another one, which the writer uses for one item. An item is new as long as its tag is
the awaited one.
-/
namespace TaggedMailbox
variable {A T : Type}

/-- `given` is the tag that the writer has not used up. -/
structure Mailbox (A T : Type) where
  held : A
  awaited : T
  given : Option T

variable (tagOf : A → T) (next : T → T) (ready : A → Bool)

/-- The reader starts with whatever the cell holds: none of it is new. -/
def opened (a : A) : Mailbox A T := ⟨a, next (tagOf a), some (next (tagOf a))⟩

def Mailbox.fill (m : Mailbox A T) (a : A) : Mailbox A T := { m with held := a, given := none }

/-- The writer has a tag exactly if nothing new is in the cell. -/
def Mailbox.Kept (m : Mailbox A T) : Prop :=
  match m.given with
  | none => tagOf m.held = m.awaited
  | some t => t = m.awaited ∧ tagOf m.held ≠ m.awaited

theorem opened_kept (differs : ∀ t, next t ≠ t) (a : A) : (opened tagOf next a).Kept tagOf :=
  ⟨rfl, (differs _).symm⟩

theorem fill_kept {m : Mailbox A T} {a : A} (kept : m.Kept tagOf)
    (used : m.given = some (tagOf a)) : (m.fill a).Kept tagOf := by
  unfold Mailbox.Kept at kept
  rw [used] at kept
  exact kept.1

variable [DecidableEq T]

/-- An item that is not ready stays where it is. -/
def Mailbox.take (m : Mailbox A T) : Mailbox A T × Option A :=
  if tagOf m.held = m.awaited ∧ ready m.held then (opened tagOf next m.held, some m.held)
  else (m, none)

def Mailbox.unread (m : Mailbox A T) : Option A :=
  if tagOf m.held = m.awaited then some m.held else none

theorem opened_unread (differs : ∀ t, next t ≠ t) (a : A) :
    (opened tagOf next a).unread tagOf = none :=
  if_neg (differs _).symm

/-- The writer only fills an empty cell, and the new item is unread then. -/
theorem fill_unread {m : Mailbox A T} {a : A} (kept : m.Kept tagOf)
    (used : m.given = some (tagOf a)) :
    m.unread tagOf = none ∧ (m.fill a).unread tagOf = some a := by
  unfold Mailbox.Kept at kept
  rw [used] at kept
  exact ⟨if_neg kept.2, if_pos kept.1⟩

theorem take_unread (differs : ∀ t, next t ≠ t) (m : Mailbox A T) :
    (m.take tagOf next ready).2 = (m.unread tagOf).filter ready ∧
      (m.take tagOf next ready).1.unread tagOf =
        (m.unread tagOf).filter (fun a => !ready a) := by
  unfold Mailbox.take
  by_cases new : tagOf m.held = m.awaited
  · by_cases full : ready m.held = true
    · rw [if_pos ⟨new, full⟩, opened_unread tagOf next differs]
      simp [Mailbox.unread, new, full, Option.filter]
    · rw [if_neg fun both => full both.2]
      simp [Mailbox.unread, new, full, Option.filter]
  · rw [if_neg fun both => new both.1]
    simp [Mailbox.unread, new]

end TaggedMailbox
