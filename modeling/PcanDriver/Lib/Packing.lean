import Mathlib.Tactic.Common

/-!
Filling a packet from the front of a queue. Items are taken in order while the
loop condition on the bytes written so far holds; an item may be taken without
leaving a record, and one whose record does not fit ends the loop and stays.
-/

structure Packing (A B : Type) where
  more : Nat → Bool
  skip : A → Bool
  fits : Nat → A → Bool
  record : A → List B

namespace Packing
variable {A B : Type}

inductive Stop where
  | full
  | noSpace
  | drained
deriving Repr, DecidableEq

structure Packed (A B : Type) where
  taken : List A
  packed : List A
  rest : List A
  bytes : List B
  stop : Stop
deriving Repr

def pack (k : Packing A B) : List A → List B → Packed A B
  | [], bytes => ⟨[], [], [], bytes, if k.more bytes.length then .drained else .full⟩
  | x :: rest, bytes =>
    if k.more bytes.length then
      if k.skip x then
        let later := pack k rest bytes
        { later with taken := x :: later.taken }
      else if k.fits bytes.length x then
        let later := pack k rest (bytes ++ k.record x)
        { later with taken := x :: later.taken, packed := x :: later.packed }
      else ⟨[], [], x :: rest, bytes, .noSpace⟩
    else ⟨[], [], x :: rest, bytes, .full⟩

section Passes
variable {k : Packing A B} {x : A} {rest : List A} {bytes : List B}

theorem pack_full (full : k.more bytes.length = false) (items : List A) :
    pack k items bytes = ⟨[], [], items, bytes, .full⟩ := by
  cases items <;> simp [pack, full]

theorem pack_refuses (more : k.more bytes.length = true) (kept : k.skip x = false)
    (large : k.fits bytes.length x = false) :
    pack k (x :: rest) bytes = ⟨[], [], x :: rest, bytes, .noSpace⟩ := by
  simp [pack, more, kept, large]

theorem pack_skips (more : k.more bytes.length = true) (skip : k.skip x = true) :
    pack k (x :: rest) bytes =
      { pack k rest bytes with taken := x :: (pack k rest bytes).taken } := by
  simp [pack, more, skip]

theorem pack_takes (more : k.more bytes.length = true) (kept : k.skip x = false)
    (fits : k.fits bytes.length x = true) :
    pack k (x :: rest) bytes =
      { pack k rest (bytes ++ k.record x) with
        taken := x :: (pack k rest (bytes ++ k.record x)).taken
        packed := x :: (pack k rest (bytes ++ k.record x)).packed } := by
  simp [pack, more, kept, fits]

end Passes

theorem pack_induction (k : Packing A B) {motive : List A → List B → Prop}
    (empty : ∀ bytes, motive [] bytes)
    (skipped : ∀ x rest bytes, k.more bytes.length = true → k.skip x = true →
      motive rest bytes → motive (x :: rest) bytes)
    (taken : ∀ x rest bytes, k.more bytes.length = true → k.skip x = false →
      k.fits bytes.length x = true → motive rest (bytes ++ k.record x) → motive (x :: rest) bytes)
    (refused : ∀ x rest bytes, k.more bytes.length = true → k.skip x = false →
      k.fits bytes.length x = false → motive (x :: rest) bytes)
    (full : ∀ x rest bytes, k.more bytes.length = false → motive (x :: rest) bytes)
    (items : List A) (bytes : List B) : motive items bytes := by
  induction items generalizing bytes with
  | nil => exact empty bytes
  | cons x rest ih =>
    cases more : k.more bytes.length with
    | false => exact full x rest bytes more
    | true =>
      cases skip : k.skip x with
      | true => exact skipped x rest bytes more skip (ih bytes)
      | false =>
        cases fits : k.fits bytes.length x with
        | true => exact taken x rest bytes more skip fits (ih _)
        | false => exact refused x rest bytes more skip fits

theorem pack_account (k : Packing A B) (items : List A) (bytes : List B) :
    (pack k items bytes).taken ++ (pack k items bytes).rest = items := by
  induction items, bytes using pack_induction k with
  | empty bytes => rfl
  | skipped x rest bytes more skip ih =>
    rw [pack_skips more skip]
    exact congrArg (x :: ·) ih
  | taken x rest bytes more kept fits ih =>
    rw [pack_takes more kept fits]
    exact congrArg (x :: ·) ih
  | refused x rest bytes more kept large => rw [pack_refuses more kept large, List.nil_append]
  | full x rest bytes full => rw [pack_full full, List.nil_append]

theorem pack_packed (k : Packing A B) (items : List A) (bytes : List B) :
    (pack k items bytes).packed = (pack k items bytes).taken.filter (!k.skip ·) := by
  induction items, bytes using pack_induction k with
  | empty bytes => rfl
  | skipped x rest bytes more skip ih => simp [pack_skips more skip, ih, skip]
  | taken x rest bytes more kept fits ih => simp [pack_takes more kept fits, ih, kept]
  | refused x rest bytes more kept large => simp [pack_refuses more kept large]
  | full x rest bytes full => simp [pack_full full]

theorem pack_bytes (k : Packing A B) (items : List A) (bytes : List B) :
    (pack k items bytes).bytes = bytes ++ (pack k items bytes).packed.flatMap k.record := by
  induction items, bytes using pack_induction k with
  | empty bytes => simp [pack]
  | skipped x rest bytes more skip ih =>
    rw [pack_skips more skip]
    exact ih
  | taken x rest bytes more kept fits ih => simp [pack_takes more kept fits, ih]
  | refused x rest bytes more kept large => simp [pack_refuses more kept large]
  | full x rest bytes full => simp [pack_full full]

theorem pack_drained (k : Packing A B) (items : List A) (bytes : List B)
    (drained : (pack k items bytes).stop = .drained) : (pack k items bytes).rest = [] := by
  induction items, bytes using pack_induction k with
  | empty bytes => rfl
  | skipped x rest bytes more skip ih =>
    rw [pack_skips more skip] at drained ⊢
    exact ih drained
  | taken x rest bytes more kept fits ih =>
    rw [pack_takes more kept fits] at drained ⊢
    exact ih drained
  | refused x rest bytes more kept large =>
    rw [pack_refuses more kept large] at drained
    cases drained
  | full x rest bytes full =>
    rw [pack_full full] at drained
    cases drained

theorem pack_bound (k : Packing A B) {bound : Nat} (items : List A) (bytes : List B)
    (room : ∀ n, ∀ x ∈ items, k.more n = true → k.fits n x = true →
      n + (k.record x).length ≤ bound)
    (start : bytes.length ≤ bound) : (pack k items bytes).bytes.length ≤ bound := by
  induction items, bytes using pack_induction k with
  | empty bytes => exact start
  | skipped x rest bytes more skip ih =>
    rw [pack_skips more skip]
    exact ih (fun n y mem => room n y (List.mem_cons_of_mem _ mem)) start
  | taken x rest bytes more kept fits ih =>
    rw [pack_takes more kept fits]
    apply ih (fun n y mem => room n y (List.mem_cons_of_mem _ mem))
    rw [List.length_append]
    exact room _ x List.mem_cons_self more fits
  | refused x rest bytes more kept large =>
    rw [pack_refuses more kept large]
    exact start
  | full x rest bytes full =>
    rw [pack_full full]
    exact start

theorem pack_stays (k : Packing A B) (items : List A) (bytes : List B) {x : A} {rest : List A}
    (stays : (pack k items bytes).rest = x :: rest) :
    k.more (pack k items bytes).bytes.length = false ∨
      k.fits (pack k items bytes).bytes.length x = false := by
  induction items, bytes using pack_induction k with
  | empty bytes => cases stays
  | skipped y others bytes more skip ih =>
    rw [pack_skips more skip] at stays ⊢
    exact ih stays
  | taken y others bytes more kept fits ih =>
    rw [pack_takes more kept fits] at stays ⊢
    exact ih stays
  | refused y others bytes more kept large =>
    rw [pack_refuses more kept large] at stays ⊢
    cases stays
    exact .inr large
  | full y others bytes full =>
    rw [pack_full full]
    exact .inl full

/-- Where every item fits, only a full packet ends the loop early. -/
theorem pack_stopped (k : Packing A B) (items : List A) (bytes : List B)
    (fits : ∀ n x, k.fits n x = true) (stopped : (pack k items bytes).stop ≠ .drained) :
    k.more (pack k items bytes).bytes.length = false := by
  induction items, bytes using pack_induction k with
  | empty bytes =>
    dsimp only [pack] at stopped ⊢
    by_contra more
    exact stopped (if_pos (Bool.not_eq_false _ |>.mp more))
  | skipped x rest bytes more skip ih =>
    rw [pack_skips more skip] at stopped ⊢
    exact ih stopped
  | taken x rest bytes more kept _ ih =>
    rw [pack_takes more kept (fits _ x)] at stopped ⊢
    exact ih stopped
  | refused x rest bytes more kept large => exact absurd (fits _ x) (large ▸ Bool.false_ne_true)
  | full x rest bytes full =>
    rw [pack_full full]
    exact full

/-- The loop does not give up on a packet without a record, as long as items of
    the queue fit into it. -/
theorem pack_packed_ne (k : Packing A B) (items : List A) (bytes : List B)
    (more : k.more bytes.length = true) (fits : ∀ x ∈ items, k.fits bytes.length x = true)
    (stopped : (pack k items bytes).stop ≠ .drained) : (pack k items bytes).packed ≠ [] := by
  induction items, bytes using pack_induction k with
  | empty bytes => exact absurd (if_pos more) stopped
  | skipped x rest bytes _ skip ih =>
    rw [pack_skips more skip] at stopped ⊢
    exact ih more (fun y mem => fits y (List.mem_cons_of_mem _ mem)) stopped
  | taken x rest bytes _ kept room ih =>
    rw [pack_takes more kept room]
    exact List.cons_ne_nil _ _
  | refused x rest bytes _ kept large =>
    exact absurd (fits x List.mem_cons_self) (large ▸ Bool.false_ne_true)
  | full x rest bytes full => exact absurd more (full ▸ Bool.false_ne_true)

theorem pack_packed_subset (k : Packing A B) (items : List A) (bytes : List B) :
    ∀ x ∈ (pack k items bytes).packed, x ∈ items := by
  intro x mem
  rw [pack_packed] at mem
  rw [← pack_account k items bytes]
  exact List.mem_append_left _ (List.mem_filter.1 mem).1

theorem pack_progress (k : Packing A B) {items : List A} {bytes : List B}
    (more : k.more bytes.length = true) (fits : ∀ x ∈ items, k.fits bytes.length x = true)
    (nonempty : items ≠ []) : (pack k items bytes).taken ≠ [] := by
  cases items with
  | nil => exact absurd rfl nonempty
  | cons x rest =>
    have first := fits x List.mem_cons_self
    simp only [pack, more, first, if_true]
    split <;> simp

theorem pack_packed_all (k : Packing A B) {items : List A} (bytes : List B)
    (none_skipped : ∀ x ∈ items, k.skip x = false) :
    (pack k items bytes).packed = (pack k items bytes).taken := by
  rw [pack_packed, List.filter_eq_self]
  intro x mem
  have inside : x ∈ items := by
    rw [← pack_account k items bytes]
    exact List.mem_append_left _ mem
  simp [none_skipped x inside]

end Packing
