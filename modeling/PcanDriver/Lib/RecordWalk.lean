import PcanDriver.Lib.ByteStores

/-!
Walking a buffer of records that lie one behind the other. A stepping rule tells from
the bytes at a position how long the record there is; where it has no answer, and at
the end of the buffer, the walk stops. Laying records out and walking over them is
the identity, provided that each record tells its own length.
-/
namespace RecordWalk
variable {B : Type}

/-- Positions and lengths of the records from `ptr` on. -/
def walk (next : (Nat → B) → Option Nat) (mem : Nat → B) (stop : Nat) :
    Nat → Nat → List (Nat × Nat)
  | 0, _ => []
  | fuel + 1, ptr =>
    if ptr < stop then
      match next (fun k => mem (ptr + k)) with
      | none => []
      | some size => (ptr, size) :: walk next mem stop fuel (ptr + size)
    else []

/-- The records of a buffer. Records are not empty, so that there are at most as many
    as bytes. -/
def records (next : (Nat → B) → Option Nat) (mem : Nat → B) (stop : Nat) : List (List B) :=
  (walk next mem stop stop 0).map fun r => Store.read mem r.1 r.2

/-- Memory that starts with the record is stepped over by the record's length. -/
def Tells (next : (Nat → B) → Option Nat) (r : List B) : Prop :=
  0 < r.length ∧ ∀ mem, Store.read mem 0 r.length = r → next mem = some r.length

theorem read_shift (mem : Nat → B) (ptr n : Nat) :
    Store.read (fun k => mem (ptr + k)) 0 n = Store.read mem ptr n := by
  simp [Store.read]

theorem length_le_flatten {rs : List (List B)} (filled : ∀ r ∈ rs, 0 < r.length) :
    rs.length ≤ rs.flatten.length := by
  induction rs with
  | nil => exact Nat.zero_le _
  | cons r rs ih =>
    have first := filled r List.mem_cons_self
    have later := ih fun s mem => filled s (List.mem_cons_of_mem _ mem)
    rw [List.flatten_cons, List.length_append, List.length_cons]
    omega

theorem walk_layout {next : (Nat → B) → Option Nat} {mem : Nat → B} {stop : Nat}
    (rs : List (List B)) (tells : ∀ r ∈ rs, Tells next r) (fuel ptr : Nat)
    (enough : rs.length ≤ fuel) (layout : Store.read mem ptr rs.flatten.length = rs.flatten)
    (inside : ptr + rs.flatten.length ≤ stop)
    (ends : ptr + rs.flatten.length < stop →
      next (fun k => mem (ptr + rs.flatten.length + k)) = none) :
    (walk next mem stop fuel ptr).map (fun r => Store.read mem r.1 r.2) = rs := by
  induction rs generalizing fuel ptr with
  | nil =>
    cases fuel with
    | zero => rfl
    | succ fuel =>
      unfold walk
      split
      next more => rw [show next (fun k => mem (ptr + k)) = none from ends more]; rfl
      next => rfl
  | cons r rs ih =>
    obtain ⟨positive, told⟩ := tells r List.mem_cons_self
    rw [List.flatten_cons, List.length_append] at inside ends layout
    rw [Store.read_add] at layout
    obtain ⟨first, rest⟩ := List.append_inj layout (by rw [Store.read_length])
    cases fuel with
    | zero => exact absurd enough (by simp)
    | succ fuel =>
      have step : next (fun k => mem (ptr + k)) = some r.length :=
        told _ ((read_shift mem ptr r.length).trans first)
      have later := ih (fun s member => tells s (List.mem_cons_of_mem _ member)) fuel
        (ptr + r.length) (Nat.le_of_succ_le_succ enough) rest (by omega)
        (fun more => by rw [Nat.add_assoc]; exact ends (by omega))
      rw [walk, if_pos (by omega), step, List.map_cons, first, later]

theorem records_layout {next : (Nat → B) → Option Nat} {mem : Nat → B} {stop : Nat}
    {rs : List (List B)} (tells : ∀ r ∈ rs, Tells next r)
    (layout : Store.read mem 0 rs.flatten.length = rs.flatten) (inside : rs.flatten.length ≤ stop)
    (ends : rs.flatten.length < stop →
      next (fun k => mem (rs.flatten.length + k)) = none) : records next mem stop = rs := by
  have few := length_le_flatten fun r member => (tells r member).1
  apply walk_layout rs tells stop 0 (Nat.le_trans few inside) layout
  · rw [Nat.zero_add]
    exact inside
  · rw [Nat.zero_add]
    exact ends

theorem walk_told {next : (Nat → B) → Option Nat} {mem : Nat → B} {stop : Nat} (fuel ptr : Nat) :
    ∀ r ∈ (walk next mem stop fuel ptr).map (fun r => Store.read mem r.1 r.2),
      ∃ place, Store.read mem place r.length = r ∧
        next (fun k => mem (place + k)) = some r.length := by
  induction fuel generalizing ptr with
  | zero => exact fun r member => absurd member List.not_mem_nil
  | succ fuel ih =>
    intro r member
    unfold walk at member
    split at member
    case isFalse => exact absurd member List.not_mem_nil
    case isTrue =>
      split at member
      case h_1 => exact absurd member List.not_mem_nil
      case h_2 size told =>
        rcases List.mem_cons.mp member with rfl | later
        · rw [Store.read_length]
          exact ⟨ptr, rfl, told⟩
        · exact ih (ptr + size) r later

theorem tells_typed {size : B → Option Nat} {b : B} {bs : List B} :
    Tells (fun r => size (r 0)) (b :: bs) ↔ size b = some (b :: bs).length := by
  constructor
  · rintro ⟨_, told⟩
    refine told (fun k => (b :: bs).getD k b) ?_
    simp only [Store.read, Nat.zero_add]
    exact (Store.map_getD_range (Nat.le_refl _) b).trans List.take_length
  · intro told
    refine ⟨Nat.succ_pos _, fun mem lies => ?_⟩
    have first := congrArg List.head? lies
    rw [List.length_cons, Nat.add_comm, Store.read_add] at first
    have here : mem 0 = b := Option.some.inj first
    dsimp only
    rw [here]
    exact told

end RecordWalk
