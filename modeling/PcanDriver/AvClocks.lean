import Mathlib.Data.List.TakeWhile
import PcanDriver.IoctlCopy
import PcanDriver.Lib.ByteStores
import PcanDriver.UcanRoundTrip

/-!
The clocks of a device that `PCANFD_GET_AVAILABLE_CLOCKS` gives to the user
(`handle_pcanfd_get_av_clocks`, `pcan_fops.c`), down to the bytes that are copied.
-/
namespace PcanDriver

section Source

structure PcanfdAvailableClock where
  clockHz : U32
  clockSrc : U32
deriving Repr, DecidableEq

def PcanfdAvailableClock.bytes (clock : PcanfdAvailableClock) : List U8 :=
  le32 clock.clockHz ++ le32 clock.clockSrc

/-- A device's list is a constant of the driver: its length in bytes is far within an `int`. -/
structure PcanfdAvailableClocks where
  list : List PcanfdAvailableClock
  small : 4 + list.length * 8 < 2 ^ 31

def PcanfdAvailableClocks.count (clocks : PcanfdAvailableClocks) : U32 :=
  BitVec.ofNat 32 clocks.list.length

def PcanfdAvailableClocks.bytes (clocks : PcanfdAvailableClocks) : List U8 :=
  le32 clocks.count ++ clocks.list.flatMap (·.bytes)

/-- The user's bytes, and which of them the kernel can reach. -/
structure UserSpace where
  mem : Nat → U8
  mapped : Nat → Bool

/-- How many of `n` bytes a copy gets over before it meets one that is not there. -/
def UserSpace.reach (user : UserSpace) (addr n : Nat) : Nat :=
  ((List.range n).takeWhile fun k => user.mapped (addr + k)).length

def UserSpace.reads (user : UserSpace) : UserMemory := fun addr n =>
  Store.read user.mem addr (user.reach addr n)

/-- What `pcan_copy_to_user` is asked for: `l` bytes of the device's list, from `kp` on. -/
structure ClockCopy where
  up : Nat
  kp : Nat
  l : Nat
deriving Repr, DecidableEq

def avClocksCopy (clocks : PcanfdAvailableClocks) (up : Nat) (count : U32) : ClockCopy :=
  if clocks.count ≤ count then ⟨up, 0, 4 + clocks.count.toNat * 8⟩
  else ⟨up + 4, 4, 4 + count.toNat * 8⟩

structure AvClocksResult where
  mem : Nat → U8
  err : Int
  copy : Option ClockCopy

/-- The handler on the user's bytes; `behind` is what lies behind the device's list. -/
def UserSpace.handlePcanfdGetAvClocks (user : UserSpace) (behind : Nat → U8)
    (clocks : PcanfdAvailableClocks) (up : Nat) : AvClocksResult :=
  let avclks := copyFromUser user.reads up 4
  if avclks.fault then ⟨user.mem, -efault, none⟩
  else
    let copy := avClocksCopy clocks up (wordAt avclks.bytes 0)
    let bytes := Store.read (fun k => clocks.bytes.getD k (behind k)) copy.kp copy.l
    let reach := user.reach copy.up copy.l
    ⟨Store.apply ⟨copy.up, bytes.take reach⟩ user.mem, if reach < copy.l then -efault else 0,
      some copy⟩

end Source

section Statement

def userWord (mem : Nat → U8) (addr : Nat) : U32 := u32At (fun k => mem (addr + k)) 0

def userClock (mem : Nat → U8) (addr : Nat) : PcanfdAvailableClock :=
  ⟨userWord mem addr, userWord mem (addr + 4)⟩

/-- The user's structure is there: its header and as many entries as its count says. -/
def UserSpace.HasClocks (user : UserSpace) (up : Nat) : Prop :=
  ∀ k < 4 + 8 * (userWord user.mem up).toNat, user.mapped (up + k) = true

structure ClocksGiven (user : UserSpace) (clocks : PcanfdAvailableClocks) (up : Nat)
    (after : AvClocksResult) : Prop where
  count : (userWord after.mem up).toNat = min (userWord user.mem up).toNat clocks.list.length
  entries : ∀ i < min (userWord user.mem up).toNat clocks.list.length,
    clocks.list[i]? = some (userClock after.mem (up + 4 + 8 * i))
  written : ∀ copy, after.copy = some copy →
    up ≤ copy.up ∧ copy.up + copy.l ≤ up + 4 + 8 * (userWord user.mem up).toNat
  read : ∀ copy, after.copy = some copy → copy.kp + copy.l ≤ clocks.bytes.length

end Statement

section Layout
variable {clocks : PcanfdAvailableClocks} {clock : PcanfdAvailableClock}

theorem clocks_count_toNat (clocks : PcanfdAvailableClocks) :
    clocks.count.toNat = clocks.list.length := by
  have small := clocks.small
  exact BitVec.toNat_ofNat _ _ |>.trans (Nat.mod_eq_of_lt (by omega))

theorem clock_bytes_length (clock : PcanfdAvailableClock) : clock.bytes.length = 8 := rfl

theorem clocks_bytes_length (clocks : PcanfdAvailableClocks) :
    clocks.bytes.length = 4 + 8 * clocks.list.length := by
  unfold PcanfdAvailableClocks.bytes
  rw [List.length_append, List.length_flatMap]
  simp only [clock_bytes_length, List.map_const', List.sum_replicate_nat]
  rw [Nat.mul_comm]
  rfl

theorem clocks_header (clocks : PcanfdAvailableClocks) {j : Nat} (inside : j < 4) :
    clocks.bytes[j]? = (le32 clocks.count)[j]? :=
  List.getElem?_append_left inside

theorem clocks_entry {i j : Nat} (found : clocks.list[i]? = some clock) (inside : j < 8) :
    clocks.bytes[4 + 8 * i + j]? = clock.bytes[j]? := by
  have position : 4 + 8 * i + j - (le32 clocks.count).length = 8 * i + j := by
    rw [show (le32 clocks.count).length = 4 from rfl]
    omega
  unfold PcanfdAvailableClocks.bytes
  rw [List.getElem?_append_right (by rw [show (le32 clocks.count).length = 4 from rfl]; omega),
    position, Store.flatMap_getElem? clock_bytes_length _ _ inside, found, Option.bind_some]

theorem userWord_eq {mem : Nat → U8} {addr : Nat} {x : U32}
    (there : ∀ j < 4, (le32 x)[j]? = some (mem (addr + j))) : userWord mem addr = x := by
  have byte : ∀ {j : Nat} {b : U8}, j < 4 → (le32 x)[j]? = some b → mem (addr + j) = b :=
    fun inside same => Option.some.inj ((there _ inside).symm.trans same)
  exact u32At_le32 (byte (by decide) rfl) (byte (by decide) rfl) (byte (by decide) rfl)
    (byte (by decide) rfl)

end Layout

section Copies
variable {user : UserSpace} {up : Nat} {behind : Nat → U8} {clocks : PcanfdAvailableClocks}

theorem reach_all {addr n : Nat} (mapped : ∀ k < n, user.mapped (addr + k) = true) :
    user.reach addr n = n := by
  have all : ((List.range n).takeWhile fun k => user.mapped (addr + k)) = List.range n := by
    rw [List.takeWhile_eq_self_iff]
    intro k member
    exact mapped k (List.mem_range.mp member)
  unfold UserSpace.reach
  rw [all, List.length_range]

theorem header_copied (there : user.HasClocks up) :
    (copyFromUser user.reads up 4).fault = false ∧
      wordAt (copyFromUser user.reads up 4).bytes 0 = userWord user.mem up := by
  have reach : user.reach up 4 = 4 := reach_all fun k less => there k (by omega)
  have got : (user.reads up 4).take 4 = Store.read user.mem up 4 := by
    unfold UserSpace.reads
    rw [reach, List.take_of_length_le (by rw [Store.read_length])]
  have length : (Store.read user.mem up 4).length = 4 := Store.read_length _ _ _
  simp only [copyFromUser, got, length]
  exact ⟨rfl, rfl⟩

theorem avClocks_copied (there : user.HasClocks up) :
    (user.handlePcanfdGetAvClocks behind clocks up).copy =
      some (avClocksCopy clocks up (userWord user.mem up)) := by
  obtain ⟨whole, count⟩ := header_copied there
  unfold UserSpace.handlePcanfdGetAvClocks
  simp only [whole, count]
  rfl

theorem clocks_copied (there : user.HasClocks up)
    (enough : clocks.list.length ≤ (userWord user.mem up).toNat) :
    (user.handlePcanfdGetAvClocks behind clocks up).mem =
      Store.apply ⟨up, clocks.bytes⟩ user.mem := by
  obtain ⟨whole, count⟩ := header_copied there
  have branch : avClocksCopy clocks up (userWord user.mem up) = ⟨up, 0, clocks.bytes.length⟩ := by
    unfold avClocksCopy
    rw [if_pos (by rw [BitVec.le_def, clocks_count_toNat]; exact enough), clocks_count_toNat,
      clocks_bytes_length, Nat.mul_comm]
  have reach : user.reach up clocks.bytes.length = clocks.bytes.length := by
    apply reach_all
    intro k less
    rw [clocks_bytes_length] at less
    exact there k (by omega)
  have list : Store.read (fun k => clocks.bytes.getD k (behind k)) 0 clocks.bytes.length =
      clocks.bytes := by
    apply List.ext_getElem?
    intro k
    rw [Store.read_getElem?, Nat.zero_add]
    split
    next inside =>
      rw [List.getD_eq_getElem?_getD, List.getElem?_eq_getElem inside, Option.getD_some]
    next outside => rw [List.getElem?_eq_none (by omega)]
  unfold UserSpace.handlePcanfdGetAvClocks
  simp only [whole, count, branch, reach, list, List.take_length]
  rfl

theorem stored_at {mem : Nat → U8} {bytes : List U8} {k : Nat} (inside : k < bytes.length) :
    bytes[k]? = some (Store.apply ⟨up, bytes⟩ mem (up + k)) := by
  have position : up + k - up = k := by omega
  unfold Store.apply
  rw [if_pos (Nat.le_add_right _ _), position, List.getElem?_eq_getElem inside, Option.getD_some]

theorem count_stored (clocks : PcanfdAvailableClocks) (mem : Nat → U8) :
    userWord (Store.apply ⟨up, clocks.bytes⟩ mem) up = clocks.count := by
  apply userWord_eq
  intro j inside
  rw [← clocks_header clocks inside]
  exact stored_at (by rw [clocks_bytes_length]; omega)

theorem clock_stored {i : Nat} {clock : PcanfdAvailableClock} (mem : Nat → U8)
    (found : clocks.list[i]? = some clock) :
    userClock (Store.apply ⟨up, clocks.bytes⟩ mem) (up + 4 + 8 * i) = clock := by
  have few : i < clocks.list.length := (List.getElem?_eq_some_iff.mp found).1
  have byte : ∀ j < 8, clock.bytes[j]? =
      some (Store.apply ⟨up, clocks.bytes⟩ mem (up + (4 + 8 * i + j))) := by
    intro j inside
    rw [← clocks_entry found inside]
    exact stored_at (by rw [clocks_bytes_length]; omega)
  have hz : userWord (Store.apply ⟨up, clocks.bytes⟩ mem) (up + 4 + 8 * i) = clock.clockHz := by
    apply userWord_eq
    intro j inside
    have same := byte j (by omega)
    rw [← Nat.add_assoc, ← Nat.add_assoc] at same
    exact (List.getElem?_append_left inside).symm.trans same
  have src : userWord (Store.apply ⟨up, clocks.bytes⟩ mem) (up + 4 + 8 * i + 4) =
      clock.clockSrc := by
    apply userWord_eq
    intro j inside
    have same := byte (4 + j) (by omega)
    rw [← Nat.add_assoc, ← Nat.add_assoc, ← Nat.add_assoc] at same
    have second : clock.bytes[4 + j]? = (le32 clock.clockSrc)[j]? := by
      have position : 4 + j - (le32 clock.clockHz).length = j := Nat.add_sub_cancel_left 4 j
      unfold PcanfdAvailableClock.bytes
      rw [List.getElem?_append_right (Nat.le_add_right 4 j), position]
    exact second.symm.trans same
  unfold userClock
  rw [hz, src]

theorem avClocks_command {P : Type} (env : IoctlEnv P) (dev : Pcandev P)
    (memory : env.user = user.reads)
    (clocksOf : ∀ head, env.operations.getAvClocks head dev = (dev, 0))
    (writable : ∀ copy, (user.handlePcanfdGetAvClocks behind clocks up).copy = some copy →
      env.writable = decide (user.reach copy.up copy.l ≥ copy.l)) :
    (PcanDriver.handlePcanfdGetAvClocks env up dev).err =
      some (user.handlePcanfdGetAvClocks behind clocks up).err := by
  unfold PcanDriver.handlePcanfdGetAvClocks copyThen
  unfold UserSpace.handlePcanfdGetAvClocks at writable ⊢
  rw [memory]
  cases fault : (copyFromUser user.reads up 4).fault with
  | true => simp only [fault, ↓reduceIte]
  | false =>
    simp only [fault, Bool.false_eq_true, ↓reduceIte] at writable ⊢
    have copied := writable _ rfl
    simp only [copyBack, ended, clocksOf, copied, decide_eq_true_eq]
    split
    next whole => rw [if_neg (Nat.not_lt.mpr whole)]
    next short => rw [if_pos (Nat.lt_of_not_ge short)]

end Copies

/-- The user is given the clocks, and nothing else is touched, where the device has no more of
    them than the user has entries for. -/
theorem av_clocks_iff (user : UserSpace) (behind : Nat → U8) (clocks : PcanfdAvailableClocks)
    (up : Nat) (there : user.HasClocks up) :
    ClocksGiven user clocks up (user.handlePcanfdGetAvClocks behind clocks up) ↔
      clocks.list.length ≤ (userWord user.mem up).toNat := by
  have copied := @avClocks_copied user up behind clocks there
  constructor
  · intro given
    by_contra fewer
    have branch : avClocksCopy clocks up (userWord user.mem up) =
        ⟨up + 4, 4, 4 + (userWord user.mem up).toNat * 8⟩ :=
      if_neg (by rw [BitVec.le_def, clocks_count_toNat]; exact fewer)
    have written := (given.written _ copied).2
    rw [branch] at written
    dsimp only at written
    omega
  · intro enough
    have after := @clocks_copied user up behind clocks there enough
    have least : min (userWord user.mem up).toNat clocks.list.length = clocks.list.length :=
      Nat.min_eq_right enough
    have branch : avClocksCopy clocks up (userWord user.mem up) =
        ⟨up, 0, 4 + clocks.list.length * 8⟩ := by
      unfold avClocksCopy
      rw [if_pos (by rw [BitVec.le_def, clocks_count_toNat]; exact enough), clocks_count_toNat]
    constructor
    case count => rw [after, count_stored, clocks_count_toNat, least]
    case entries =>
      intro i less
      rw [least] at less
      rw [after, clock_stored user.mem (List.getElem?_eq_getElem less)]
      exact List.getElem?_eq_getElem less
    case written =>
      intro copy made
      rw [Option.some.inj (made.symm.trans copied), branch]
      dsimp only
      omega
    case read =>
      intro copy made
      rw [Option.some.inj (made.symm.trans copied), branch, clocks_bytes_length]
      dsimp only
      omega

section Samples

/-- The two clocks of a device, and a user with room for one or for three. -/
def sampleClocks : PcanfdAvailableClocks where
  list := [⟨80000000, 80000000⟩, ⟨20000000, 240000000⟩]
  small := by decide

def sampleUser (count : U8) : UserSpace where
  mem k := if k = 0 then count else 0
  mapped _ := true

theorem room_for_three : (sampleUser 3).HasClocks 0 ∧ ClocksGiven (sampleUser 3) sampleClocks 0
    ((sampleUser 3).handlePcanfdGetAvClocks (fun _ => 0) sampleClocks 0) :=
  ⟨fun _ _ => rfl, (av_clocks_iff (sampleUser 3) (fun _ => 0) sampleClocks 0
    (fun _ _ => rfl)).mpr (by decide)⟩

/-- With room for one clock, four bytes of the next one are copied behind it. -/
theorem room_for_one : ¬∀ (user : UserSpace) (behind : Nat → U8) (clocks : PcanfdAvailableClocks)
    (up : Nat), user.HasClocks up →
    ClocksGiven user clocks up (user.handlePcanfdGetAvClocks behind clocks up) := by
  intro every
  have written := (every (sampleUser 1) (fun _ => 0) sampleClocks 0 fun _ _ => rfl).written
    ⟨4, 4, 12⟩ (by decide)
  exact absurd written.2 (by decide)

end Samples

end PcanDriver
