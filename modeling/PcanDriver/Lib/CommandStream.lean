import Mathlib.Data.List.Basic
import Mathlib.Logic.Function.Basic
import Mathlib.Tactic.Common

/-!
A machine that is told what to do by a stream of bytes: records of one size, each of which is
decoded into a command for one of its units. What was encoded at the other end is executed as it
was meant, and commands for one unit leave the others alone.
-/
namespace CommandStream
variable {B C K R S : Type}

section Records
variable {size : Nat} {xs ys : List B} {enc : C → List B} {cmds : List C}

def records (size : Nat) : Nat → List B → List (List B)
  | 0, _ => []
  | count + 1, bytes => bytes.take size :: records size count (bytes.drop size)

/-- The whole records of a stream; an incomplete one at its end is not read. -/
def split (size : Nat) (bytes : List B) : List (List B) :=
  records size (bytes.length / size) bytes

theorem records_append (count : Nat) (enough : size * count = xs.length) (more : Nat) :
    records size (count + more) (xs ++ ys) = records size count xs ++ records size more ys := by
  induction count generalizing xs with
  | zero =>
    obtain rfl := List.eq_nil_of_length_eq_zero (enough.symm.trans (Nat.mul_zero size))
    rw [Nat.zero_add, List.nil_append]
    rfl
  | succ count ih =>
    rw [Nat.mul_succ] at enough
    have inside : size ≤ xs.length := by omega
    have rest : size * count = (xs.drop size).length := by
      rw [List.length_drop]
      omega
    rw [Nat.add_right_comm, records, records, List.take_append_of_le_length inside,
      List.drop_append_of_le_length inside, ih rest, List.cons_append]

theorem split_append (positive : 0 < size) (aligned : size ∣ xs.length) :
    split size (xs ++ ys) = split size xs ++ split size ys := by
  obtain ⟨count, length⟩ := aligned
  have total : (xs ++ ys).length / size = count + ys.length / size := by
    rw [List.length_append, length, Nat.mul_add_div positive]
  unfold split
  rw [total, records_append count length.symm, length, Nat.mul_div_cancel_left count positive]

theorem split_record (positive : 0 < size) (whole : xs.length = size) : split size xs = [xs] := by
  unfold split
  rw [whole, Nat.div_self positive, records, ← whole, List.take_length]
  rfl

theorem split_encoded (positive : 0 < size) (sized : ∀ cmd ∈ cmds, (enc cmd).length = size) :
    split size (cmds.flatMap enc) = cmds.map enc := by
  induction cmds with
  | nil =>
    unfold split
    rw [List.flatMap_nil, List.length_nil, Nat.zero_div]
    rfl
  | cons cmd cmds ih =>
    obtain ⟨first, later⟩ := List.forall_mem_cons.mp sized
    rw [List.flatMap_cons, split_append positive ⟨1, by omega⟩,
      split_record positive first, ih later]
    rfl

theorem encoded_take (sized : ∀ cmd ∈ cmds, (enc cmd).length = size) (count : Nat) :
    (cmds.flatMap enc).take (size * count) = (cmds.take count).flatMap enc := by
  induction count generalizing cmds with
  | zero => simp
  | succ count ih =>
    cases cmds with
    | nil => simp
    | cons cmd cmds =>
      obtain ⟨first, later⟩ := List.forall_mem_cons.mp sized
      have total : size * (count + 1) = (enc cmd).length + size * count := by
        rw [first, Nat.mul_succ, Nat.add_comm]
      rw [List.flatMap_cons, total, List.take_length_add_append, ih later, List.take_succ_cons,
        List.flatMap_cons]

end Records

section Execution
variable {size : Nat} {dec : List B → C} {enc : C → List B} {exec : S → C → S} {xs ys : List B}
  {cmds : List C}

def execute (size : Nat) (dec : List B → C) (exec : S → C → S) (s : S) (bytes : List B) : S :=
  ((split size bytes).map dec).foldl exec s

theorem execute_encoded (positive : 0 < size) (sized : ∀ cmd ∈ cmds, (enc cmd).length = size)
    (decoded : ∀ cmd ∈ cmds, dec (enc cmd) = cmd) (s : S) :
    execute size dec exec s (cmds.flatMap enc) = cmds.foldl exec s := by
  unfold execute
  rw [split_encoded positive sized, List.map_map]
  congr 1
  exact (List.map_congr_left decoded).trans (List.map_id cmds)

end Execution

section Units
variable [DecidableEq K] {exec : R → C → R} {regs : K → R}

/-- A command for a unit changes that unit. -/
def atUnit (exec : R → C → R) (regs : K → R) (cmd : K × C) : K → R :=
  Function.update regs cmd.1 (exec (regs cmd.1) cmd.2)

theorem foldl_atUnit (k : K) (cmds : List C) :
    (cmds.map fun cmd => (k, cmd)).foldl (atUnit exec) regs =
      Function.update regs k (cmds.foldl exec (regs k)) := by
  induction cmds generalizing regs with
  | nil => exact (Function.update_eq_self k regs).symm
  | cons cmd cmds ih =>
    rw [List.map_cons, List.foldl_cons, ih, List.foldl_cons]
    simp only [atUnit, Function.update_self, Function.update_idem]

end Units

end CommandStream
