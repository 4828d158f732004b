import Mathlib.Tactic.Common

/-!
Reading records that lie one behind the other. A reader takes one record from the front of the
bytes, with its meaning, or has no answer. What has been laid out is read back, provided that each
record is read back in front of anything.
-/
namespace RecordReader
variable {A B F : Type}

def readMany (read : List B → Option (F × List B)) : Nat → List B → Option (List F × List B)
  | 0, bytes => some ([], bytes)
  | count + 1, bytes => do
    let (first, rest) ← read bytes
    let (others, rest) ← readMany read count rest
    pure (first :: others, rest)

/-- The record is read as `frame` and nothing behind it is looked at. -/
def Reads (read : List B → Option (F × List B)) (record : List B) (frame : F) : Prop :=
  ∀ rest, read (record ++ rest) = some (frame, rest)

theorem readMany_layout {read : List B → Option (F × List B)} {record : A → List B}
    {frame : A → F} (xs : List A) (reads : ∀ x ∈ xs, Reads read (record x) (frame x))
    (rest : List B) :
    readMany read xs.length (xs.flatMap record ++ rest) = some (xs.map frame, rest) := by
  induction xs with
  | nil => rfl
  | cons x xs ih =>
    have first := reads x List.mem_cons_self (xs.flatMap record ++ rest)
    have others := ih fun y member => reads y (List.mem_cons_of_mem _ member)
    rw [List.flatMap_cons, List.append_assoc, List.length_cons, readMany, first]
    simp only [Option.bind_eq_bind, Option.bind_some, others]
    rfl

/-- The reader of records whose first symbol tells their length. -/
def sized (size : B → Option Nat) (decode : List B → F) : List B → Option (F × List B)
  | [] => none
  | b :: bytes =>
    match size b with
    | none => none
    | some n =>
      if bytes.length + 1 < n then none
      else some (decode ((b :: bytes).take n), (b :: bytes).drop n)

theorem sized_reads {size : B → Option Nat} {decode : List B → F} {b : B} {bytes : List B}
    (known : size b = some (bytes.length + 1)) :
    Reads (sized size decode) (b :: bytes) (decode (b :: bytes)) := by
  intro rest
  have whole : (b :: bytes).length = bytes.length + 1 := List.length_cons
  rw [List.cons_append]
  unfold sized
  simp only [known]
  rw [if_neg (by rw [List.length_append]; omega), ← List.cons_append, ← whole, List.take_left,
    List.drop_left]

end RecordReader
