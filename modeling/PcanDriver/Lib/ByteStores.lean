import Mathlib.Tactic.Common

/-!
Byte strings stored into memory, one after the other, and read back. A store that stays
inside of a block changes nothing else, and is a patch of the list of bytes that the
block holds.
-/

structure Store (B : Type) where
  addr : Nat
  bytes : List B
deriving Repr, DecidableEq

namespace Store
variable {B : Type}

def apply (s : Store B) (mem : Nat → B) : Nat → B := fun a =>
  if s.addr ≤ a then (s.bytes[a - s.addr]?).getD (mem a) else mem a

def run (stores : List (Store B)) (mem : Nat → B) : Nat → B :=
  stores.foldl (fun m s => s.apply m) mem

/-- The block from `lo` up to `hi` contains everything that is stored. -/
def Inside (lo hi : Nat) (s : Store B) : Prop := lo ≤ s.addr ∧ s.addr + s.bytes.length ≤ hi

instance (lo hi : Nat) (s : Store B) : Decidable (s.Inside lo hi) :=
  inferInstanceAs (Decidable (_ ∧ _))

def read (mem : Nat → B) (addr n : Nat) : List B := (List.range n).map fun k => mem (addr + k)

/-- `bs` written over `xs` from position `offset` on. -/
def patch (xs : List B) (offset : Nat) (bs : List B) : List B :=
  xs.take offset ++ bs ++ xs.drop (offset + bs.length)

@[simp] theorem read_length (mem : Nat → B) (addr n : Nat) : (read mem addr n).length = n := by
  simp [read]

theorem read_getElem? (mem : Nat → B) (addr n k : Nat) :
    (read mem addr n)[k]? = if k < n then some (mem (addr + k)) else none := by
  split
  · simp [read, *]
  · rw [List.getElem?_eq_none (by rw [read_length]; omega)]

theorem patch_getElem? {xs bs : List B} {offset : Nat} (fits : offset + bs.length ≤ xs.length)
    (k : Nat) : (patch xs offset bs)[k]? =
      if offset ≤ k ∧ k < offset + bs.length then bs[k - offset]? else xs[k]? := by
  unfold patch
  rw [List.append_assoc, List.getElem?_append, List.length_take, Nat.min_eq_left (by omega)]
  by_cases before : k < offset
  · rw [if_pos before, if_neg (by omega), List.getElem?_take, if_pos before]
  · rw [if_neg before, List.getElem?_append]
    by_cases within : k < offset + bs.length
    · rw [if_pos (by omega), if_pos (by omega)]
    · rw [if_neg (by omega), if_neg (by omega), List.getElem?_drop]
      congr 1
      omega

theorem read_add (mem : Nat → B) (addr m n : Nat) :
    read mem addr (m + n) = read mem addr m ++ read mem (addr + m) n := by
  simp only [read, List.range_add, List.map_append, List.map_map]
  congr 1
  apply List.map_congr_left
  intro k _
  simp only [Function.comp_apply, Nat.add_assoc]

theorem read_congr {mem mem' : Nat → B} {addr n : Nat}
    (same : ∀ k < n, mem (addr + k) = mem' (addr + k)) : read mem addr n = read mem' addr n := by
  apply List.map_congr_left
  intro k mem
  exact same k (List.mem_range.mp mem)

theorem Inside.weaken {lo hi lo' hi' : Nat} {s : Store B} (inside : s.Inside lo hi)
    (below : lo' ≤ lo) (above : hi ≤ hi') : s.Inside lo' hi' :=
  ⟨Nat.le_trans below inside.1, Nat.le_trans inside.2 above⟩

theorem apply_outside {lo hi a : Nat} {s : Store B} (inside : s.Inside lo hi)
    (outside : a < lo ∨ hi ≤ a) (mem : Nat → B) : s.apply mem a = mem a := by
  obtain ⟨low, high⟩ := inside
  unfold apply
  split
  · rw [List.getElem?_eq_none (by omega)]
    rfl
  · rfl

theorem run_outside {lo hi a : Nat} {stores : List (Store B)} (inside : ∀ s ∈ stores, s.Inside lo hi)
    (outside : a < lo ∨ hi ≤ a) (mem : Nat → B) : run stores mem a = mem a := by
  induction stores generalizing mem with
  | nil => rfl
  | cons s rest ih =>
    have later := ih (fun t member => inside t (List.mem_cons_of_mem _ member)) (s.apply mem)
    exact later.trans (apply_outside (inside s List.mem_cons_self) outside mem)

theorem run_append (first second : List (Store B)) (mem : Nat → B) :
    run (first ++ second) mem = run second (run first mem) :=
  List.foldl_append

theorem read_run_before {lo hi n : Nat} {stores : List (Store B)}
    (inside : ∀ s ∈ stores, s.Inside lo hi) (before : n ≤ lo) (mem : Nat → B) :
    read (run stores mem) 0 n = read mem 0 n := by
  apply read_congr
  intro k less
  exact run_outside inside (.inl (by omega)) mem

theorem map_getD_range {n : Nat} {xs : List B} (inside : n ≤ xs.length) (b : B) :
    (List.range n).map (fun i => xs.getD i b) = xs.take n := by
  apply List.ext_getElem
  · rw [List.length_map, List.length_range, List.length_take, Nat.min_eq_left inside]
  · intro i before within
    rw [List.length_map, List.length_range] at before
    rw [List.getElem_map, List.getElem_range, List.getElem_take, List.getD_eq_getElem?_getD,
      List.getElem?_eq_getElem (by omega), Option.getD_some]

theorem flatMap_getElem? {A : Type} {f : A → List B} {width : Nat}
    (fixed : ∀ x, (f x).length = width) (xs : List A) (i : Nat) {j : Nat} (inside : j < width) :
    (xs.flatMap f)[width * i + j]? = xs[i]?.bind fun x => (f x)[j]? := by
  induction xs generalizing i with
  | nil => rfl
  | cons x xs ih =>
    rw [List.flatMap_cons, List.getElem?_append, fixed]
    cases i with
    | zero => rw [if_pos (by omega), Nat.mul_zero, Nat.zero_add, List.getElem?_cons_zero,
        Option.bind_some]
    | succ i =>
      have position : width * (i + 1) + j - width = width * i + j := by
        rw [Nat.mul_succ]
        omega
      rw [if_neg (by rw [Nat.mul_succ]; omega), position, ih, List.getElem?_cons_succ]

/-- Bytes that are stored one by one, from `addr` on. -/
def bytewise : Nat → List B → List (Store B)
  | _, [] => []
  | addr, b :: bs => ⟨addr, [b]⟩ :: bytewise (addr + 1) bs

theorem bytewise_append (addr : Nat) (bs cs : List B) :
    bytewise addr (bs ++ cs) = bytewise addr bs ++ bytewise (addr + bs.length) cs := by
  induction bs generalizing addr with
  | nil => rfl
  | cons b bs ih =>
    have later : addr + 1 + bs.length = addr + (bs.length + 1) := by omega
    simp only [List.cons_append, bytewise, ih, List.length_cons, later]

theorem bytewise_map_range (addr n : Nat) (f : Nat → B) :
    (List.range n).map (fun i => ⟨addr + i, [f i]⟩) = bytewise addr ((List.range n).map f) := by
  induction n with
  | zero => rfl
  | succ n ih =>
    rw [List.range_succ, List.map_append, List.map_append, bytewise_append, ih, List.length_map,
      List.length_range]
    rfl

theorem bytewise_inside (addr : Nat) (bs : List B) :
    ∀ s ∈ bytewise addr bs, s.Inside addr (addr + bs.length) := by
  induction bs generalizing addr with
  | nil => exact fun s member => absurd member List.not_mem_nil
  | cons b bs ih =>
    intro s member
    rcases List.mem_cons.mp member with rfl | later
    · exact ⟨Nat.le_refl _, by simp only [List.length_cons, List.length_nil]; omega⟩
    · apply (ih (addr + 1) s later).weaken
      · exact Nat.le_succ addr
      · rw [List.length_cons]
        omega

theorem run_bytewise (addr : Nat) (bs : List B) (mem : Nat → B) :
    run (bytewise addr bs) mem = apply ⟨addr, bs⟩ mem := by
  induction bs generalizing addr mem with
  | nil =>
    funext a
    simp [run, bytewise, apply]
  | cons b bs ih =>
    have first : run (bytewise addr (b :: bs)) mem =
        run (bytewise (addr + 1) bs) (apply ⟨addr, [b]⟩ mem) := rfl
    rw [first, ih]
    funext a
    unfold apply
    dsimp only
    rcases Nat.lt_trichotomy a addr with before | here | behind
    · rw [if_neg (by omega), if_neg (by omega), if_neg (by omega)]
    · subst here
      rw [if_neg (by omega), if_pos (Nat.le_refl a), if_pos (Nat.le_refl a), Nat.sub_self]
      rfl
    · obtain ⟨k, rfl⟩ : ∃ k, a = addr + 1 + k := ⟨a - (addr + 1), by omega⟩
      have position : addr + 1 + k - addr = k + 1 := by omega
      rw [if_pos (by omega), if_pos (by omega), if_pos (by omega), position,
        Nat.add_sub_cancel_left, List.getElem?_cons_succ, List.getElem?_cons_succ,
        List.getElem?_nil, Option.getD_none]

theorem read_apply {addr n : Nat} {s : Store B} (inside : s.Inside addr (addr + n))
    (mem : Nat → B) :
    read (s.apply mem) addr n = patch (read mem addr n) (s.addr - addr) s.bytes := by
  obtain ⟨low, high⟩ := inside
  apply List.ext_getElem?
  intro k
  rw [patch_getElem? (by rw [read_length]; omega), read_getElem?, read_getElem?]
  by_cases stored : s.addr - addr ≤ k ∧ k < s.addr - addr + s.bytes.length
  · have position : addr + k - s.addr = k - (s.addr - addr) := by omega
    rw [if_pos stored, if_pos (by omega), apply, if_pos (by omega), position,
      List.getElem?_eq_getElem (by omega), Option.getD_some]
  · rw [if_neg stored]
    by_cases inside : k < n
    · rw [if_pos inside, if_pos inside, apply]
      split
      · rw [List.getElem?_eq_none (by omega), Option.getD_none]
      · rfl
    · rw [if_neg inside, if_neg inside]

theorem read_run {addr n : Nat} {stores : List (Store B)}
    (inside : ∀ s ∈ stores, s.Inside addr (addr + n)) (mem : Nat → B) :
    read (run stores mem) addr n =
      stores.foldl (fun xs s => patch xs (s.addr - addr) s.bytes) (read mem addr n) := by
  induction stores generalizing mem with
  | nil => rfl
  | cons s rest ih =>
    have later := ih (fun t member => inside t (List.mem_cons_of_mem _ member)) (s.apply mem)
    rw [read_apply (inside s List.mem_cons_self)] at later
    exact later

theorem patch_left {xs : List B} {offset : Nat} {bs : List B} (ys : List B)
    (fits : offset + bs.length ≤ xs.length) :
    patch (xs ++ ys) offset bs = patch xs offset bs ++ ys := by
  simp only [patch, List.append_assoc]
  rw [List.take_append_of_le_length (by omega), List.drop_append_of_le_length fits]

theorem patch_right (xs ys bs : List B) : patch (xs ++ ys) xs.length bs = xs ++ patch ys 0 bs := by
  simp only [patch, List.take_left', List.take_zero, List.nil_append, Nat.zero_add,
    List.append_assoc]
  rw [List.drop_append, List.drop_eq_nil_of_le (by omega), Nat.add_sub_cancel_left,
    List.nil_append]

theorem patch_all {xs bs : List B} (whole : xs.length ≤ bs.length) : patch xs 0 bs = bs := by
  simp [patch, List.drop_eq_nil_of_le whole]

end Store
