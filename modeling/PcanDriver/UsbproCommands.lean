import PcanDriver.Lib.RecordWalk
import PcanDriver.UcanBounds
import PcanDriver.UcanRoundTrip
import PcanDriver.UsbproTelegrams

/-!
Commands of the USB-Pro (`pcan_usbpro.c`): how `pcan_usbpro_msg_add_rec` puts records into a
message. It stores field by field and leaves some bytes of a record as they were. Addresses count
from the start of the buffer.
-/
namespace PcanDriver
variable {old : Nat → U8}

section Source

/-- What is stored of a record at a time; dummy bytes are only stepped over. -/
inductive RecField where
  | byte (x : U8)
  | half (x : U16)
  | word (x : U32)
  | copied (bs : List U8)
  | dummy (n : Nat)
deriving Repr, DecidableEq

def RecField.size : RecField → Nat
  | .byte _ => 1
  | .half _ => 2
  | .word _ => 4
  | .copied bs => bs.length
  | .dummy n => n

def RecField.stores (addr : Nat) : RecField → List (Store U8)
  | .byte x => [⟨addr, [x]⟩]
  | .half x => [⟨addr, le16 x⟩]
  | .word x => [⟨addr, le32 x⟩]
  | .copied bs => [⟨addr, bs⟩]
  | .dummy _ => []

def fieldsSize (fields : List RecField) : Nat := (fields.map RecField.size).sum

def fieldsStores (addr : Nat) : List RecField → List (Store U8)
  | [] => []
  | field :: rest => field.stores addr ++ fieldsStores (addr + field.size) rest

/-- The variable arguments: what each `va_arg` of a number finds, whether it has been passed or
    not, and the bytes behind the one that is a pointer. -/
structure VaList where
  arg : Nat → U32
  pointed : Nat → U8

def VaList.byte (ap : VaList) (k : Nat) : RecField := .byte ((ap.arg k).setWidth 8)

def VaList.half (ap : VaList) (k : Nat) : RecField := .half ((ap.arg k).setWidth 16)

def VaList.word (ap : VaList) (k : Nat) : RecField := .word (ap.arg k)

def VaList.copied (ap : VaList) (n : Nat) : RecField :=
  .copied ((List.range n).map ap.pointed)

def canmsgTxFields (ap : VaList) (i : Nat) : List RecField :=
  [ap.byte 0, ap.byte 1, ap.byte 2, ap.word 3, ap.copied i]

/-- The switch over `DATA_TYPE_USB2CAN_STRUCT_xxx`. -/
def pcanUsbproRecFields (id : Nat) (ap : VaList) : Option (List RecField) :=
  match id with
  | 0x41 => some (canmsgTxFields ap 8)
  | 0x42 => some (canmsgTxFields ap 4)
  | 0x43 => some (canmsgTxFields ap 0)
  -- GETBAUDRATE, GETCANBUSACTIVATE, GETCANBUS_ERROR_STATUS
  | 0x01 | 0x03 | 0x0d => some [ap.byte 0]
  -- SETBAUDRATE, SETDEVICENR, GETDEVICENR
  | 0x02 | 0x06 | 0x12 => some [ap.byte 0, .dummy 2, ap.word 1]
  -- SETCANBUSACTIVATE to ERROR_GEN_NOW
  | 0x04 | 0x05 | 0x07 | 0x0a | 0x0b | 0x0c | 0x18 | 0x1a => some [ap.byte 0, ap.half 1]
  -- SETLOOKUP_EXPLICIT, SET_CANLED, SETLOOKUP_GROUP
  | 0x08 | 0x1c => some [ap.byte 0, ap.half 1, ap.word 2]
  | 0x09 => some [ap.byte 0, ap.half 1, ap.word 2, ap.word 3]
  -- SETREGISTER, GETREGISTER
  | 0x0e => some [ap.byte 0, .dummy 2, ap.word 1, ap.word 2, ap.word 3]
  | 0x0f => some [ap.byte 0, .dummy 2, ap.word 1, ap.word 2]
  -- SETGET_CALIBRATION_MSG, USB_IN_PACKET_DELAY, SETGET_BUSLAST_MSG
  | 0x10 | 0x17 => some [.dummy 1, ap.half 0]
  | 0x11 => some [ap.byte 0, .dummy 1, ap.byte 1, .dummy 2, .half 4096]
  -- SETSTRING, GETSTRING, SAVEEEPROM, STRING
  | 0x13 => some [ap.byte 0, ap.byte 1, ap.byte 2, ap.copied 60]
  | 0x14 | 0x16 => some [ap.byte 0, .dummy 2]
  | 0x15 => some [ap.byte 0, .dummy 2, ap.copied 250]
  -- ERROR_GEN_ID, SET_SOFTFILER
  | 0x19 => some [ap.byte 0, ap.half 1, ap.word 2, ap.half 3, ap.half 4]
  | 0x1b => some [ap.byte 0, .dummy 2, ap.word 1, ap.word 2]
  | _ => none

structure PcanUsbproMsg where
  mem : Nat → U8
  recPtr : Nat
  recBufferSize : Nat
  recBufferLen : Nat

/-- `pcan_usbpro_msg_init` and the record counter. The size of the buffer is looked at here only. -/
def pcanUsbproMsgInitEmpty (mem : Nat → U8) (bufferSize : Nat) : Option PcanUsbproMsg :=
  if bufferSize < 4 then none
  else some ⟨(⟨0, le32 0⟩ : Store U8).apply mem, 4, bufferSize, 4⟩

/-- The fields of a record, then the counter and the type. -/
def PcanUsbproMsg.storeRec (pm : PcanUsbproMsg) (id : Nat) (fields : List RecField) : Nat → U8 :=
  let filled := Store.run (fieldsStores (pm.recPtr + 1) fields) pm.mem
  let counted := (⟨0, le32 (u32At filled 0 + 1)⟩ : Store U8).apply filled
  (⟨pm.recPtr, [BitVec.ofNat 8 id]⟩ : Store U8).apply counted

/-- A type that is not known adds nothing. -/
def pcanUsbproMsgAddRec (pm : PcanUsbproMsg) (id : Nat) (ap : VaList) : PcanUsbproMsg × Nat :=
  match pcanUsbproRecFields id ap with
  | none => (pm, 0)
  | some fields =>
    let l := 1 + fieldsSize fields
    ({ pm with
        mem := pm.storeRec id fields
        recPtr := pm.recPtr + l
        recBufferLen := pm.recBufferLen + l }, l)

def addRecs (pm : PcanUsbproMsg) (calls : List (Nat × VaList)) : PcanUsbproMsg :=
  calls.foldl (fun pm call => (pcanUsbproMsgAddRec pm call.1 call.2).1) pm

end Source

section Commands

/-- Arguments that a caller passes; behind them is whatever there was. -/
def VaList.passed (stack : VaList) (args : List U32) : VaList :=
  { stack with arg := fun k => args.getD k (stack.arg k) }

variable (stack : VaList) (nChannel : U32)

def pcanUsbproSetCanOn : List (Nat × VaList) :=
  [(0x11, stack.passed [nChannel, 1]), (0x04, stack.passed [nChannel, 1])]

def pcanUsbproSetCanOff : List (Nat × VaList) :=
  [(0x04, stack.passed [nChannel, 0]), (0x11, stack.passed [nChannel, 0])]

def pcanUsbproSetSilentMode (silentOn : U32) : List (Nat × VaList) :=
  [(0x05, stack.passed [nChannel, silentOn])]

def pcanUsbproSetFilterMode (filterMode : U16) : List (Nat × VaList) :=
  [(0x0a, stack.passed [nChannel, filterMode.setWidth 32])]

def pcanUsbproCalibrationRequest (onoff : U16) : List (Nat × VaList) :=
  [(0x10, stack.passed [onoff.setWidth 32])]

def pcanUsbproSetCanLed (mode : U8) (timeout : U32) : List (Nat × VaList) :=
  [(0x1c, stack.passed [nChannel, mode.setWidth 32, timeout])]

/-- The number is not passed although `pcan_usbpro_msg_add_rec` takes one. -/
def pcanUsbproGetDeviceNrRequest : List (Nat × VaList) := [(0x12, stack.passed [nChannel])]

def pcanUsbproSetDeviceNr (deviceNr : U32) : List (Nat × VaList) :=
  [(0x06, stack.passed [nChannel, deviceNr])]

def pcanUsbproSetBaudrate (baudrate : U32) : List (Nat × VaList) :=
  [(0x02, stack.passed [nChannel, baudrate])]

inductive UsbproCommand where
  | setCanOn
  | setCanOff
  | setSilentMode (silentOn : U32)
  | setFilterMode (filterMode : U16)
  | calibrationRequest (onoff : U16)
  | setCanLed (mode : U8) (timeout : U32)
  | getDeviceNr
  | setDeviceNr (deviceNr : U32)
  | setBaudrate (baudrate : U32)
deriving Repr, DecidableEq

def UsbproCommand.calls : UsbproCommand → List (Nat × VaList)
  | .setCanOn => pcanUsbproSetCanOn stack nChannel
  | .setCanOff => pcanUsbproSetCanOff stack nChannel
  | .setSilentMode silentOn => pcanUsbproSetSilentMode stack nChannel silentOn
  | .setFilterMode filterMode => pcanUsbproSetFilterMode stack nChannel filterMode
  | .calibrationRequest onoff => pcanUsbproCalibrationRequest stack onoff
  | .setCanLed mode timeout => pcanUsbproSetCanLed stack nChannel mode timeout
  | .getDeviceNr => pcanUsbproGetDeviceNrRequest stack nChannel
  | .setDeviceNr deviceNr => pcanUsbproSetDeviceNr stack nChannel deviceNr
  | .setBaudrate baudrate => pcanUsbproSetBaudrate stack nChannel baudrate

end Commands

section Statement

/-- The bytes of a field at `addr`; dummies keep what was in the buffer. -/
def RecField.bytes (old : Nat → U8) (addr : Nat) : RecField → List U8
  | .byte x => [x]
  | .half x => le16 x
  | .word x => le32 x
  | .copied bs => bs
  | .dummy n => Store.read old addr n

def fieldsBytes (old : Nat → U8) (addr : Nat) : List RecField → List U8
  | [] => []
  | field :: rest => field.bytes old addr ++ fieldsBytes old (addr + field.size) rest

/-- The records that calls of `pcan_usbpro_msg_add_rec` make from `ptr` on. -/
def addedRecs (old : Nat → U8) (ptr : Nat) : List (Nat × VaList) → List (List U8)
  | [] => []
  | (id, ap) :: rest =>
    match pcanUsbproRecFields id ap with
    | none => addedRecs old ptr rest
    | some fields =>
      (BitVec.ofNat 8 id :: fieldsBytes old (ptr + 1) fields) ::
        addedRecs old (ptr + (1 + fieldsSize fields)) rest

/-- A record is as long as `pcan_usbpro_sizeof_rec` says. -/
def nextUsbproRec (pr : Nat → U8) : Option Nat := pcanUsbproSizeofRec (pr 0)

/-- The records that are found by the counter of a message and the sizes of their types. -/
def PcanUsbproMsg.walked (pm : PcanUsbproMsg) : List (List U8) :=
  (RecordWalk.walk nextUsbproRec pm.mem pm.recBufferLen (u32At pm.mem 0).toNat 4).map fun r =>
    Store.read pm.mem r.1 r.2

/-- The requests for a bit rate, for the activity of a bus and for its errors are added without
    the bytes behind the channel. -/
def cutShort (id : Nat) : Prop := id = 0x01 ∨ id = 0x03 ∨ id = 0x0d

instance (id : Nat) : Decidable (cutShort id) := inferInstanceAs (Decidable (_ ∨ _ ∨ _))

/-- A message whose counter and length tell of the records in it, in a buffer that held `old`. -/
structure HoldsRecs (old : Nat → U8) (recs : List (List U8)) (pm : PcanUsbproMsg) : Prop where
  ptr : pm.recPtr = 4 + recs.flatten.length
  len : pm.recBufferLen = pm.recPtr
  counter : u32At pm.mem 0 = BitVec.ofNat 32 recs.length
  bytes : Store.read pm.mem 4 recs.flatten.length = recs.flatten
  behind : ∀ a, pm.recPtr ≤ a → pm.mem a = old a

end Statement

section Fields

theorem field_bytes_length (addr : Nat) (field : RecField) :
    (field.bytes old addr).length = field.size := by
  cases field with
  | byte x => rfl
  | half x => rfl
  | word x => rfl
  | copied bs => rfl
  | dummy n => exact Store.read_length old addr n

theorem fieldsSize_cons (field : RecField) (rest : List RecField) :
    fieldsSize (field :: rest) = field.size + fieldsSize rest := rfl

theorem fieldsBytes_length (addr : Nat) (fields : List RecField) :
    (fieldsBytes old addr fields).length = fieldsSize fields := by
  induction fields generalizing addr with
  | nil => rfl
  | cons field rest ih =>
    rw [fieldsBytes, List.length_append, field_bytes_length, ih, fieldsSize_cons]

theorem field_stores_inside (addr : Nat) (field : RecField) :
    ∀ s ∈ field.stores addr, s.Inside addr (addr + field.size) := by
  intro s member
  cases field with
  | dummy n => cases member
  | byte x =>
    obtain rfl := List.mem_singleton.mp member
    exact ⟨Nat.le_refl _, Nat.le_refl _⟩
  | half x =>
    obtain rfl := List.mem_singleton.mp member
    exact ⟨Nat.le_refl _, Nat.le_refl _⟩
  | word x =>
    obtain rfl := List.mem_singleton.mp member
    exact ⟨Nat.le_refl _, Nat.le_refl _⟩
  | copied bs =>
    obtain rfl := List.mem_singleton.mp member
    exact ⟨Nat.le_refl _, Nat.le_refl _⟩

theorem fieldsStores_inside (addr : Nat) (fields : List RecField) :
    ∀ s ∈ fieldsStores addr fields, s.Inside addr (addr + fieldsSize fields) := by
  induction fields generalizing addr with
  | nil => exact fun s member => absurd member List.not_mem_nil
  | cons field rest ih =>
    intro s member
    rw [fieldsSize_cons]
    rcases List.mem_append.mp member with first | later
    · exact (field_stores_inside addr field s first).weaken (Nat.le_refl _) (by omega)
    · exact (ih (addr + field.size) s later).weaken (by omega) (by omega)

theorem read_filled (addr : Nat) (bs : List U8) (mem : Nat → U8) :
    Store.read ((⟨addr, bs⟩ : Store U8).apply mem) addr bs.length = bs := by
  rw [Store.read_apply ⟨Nat.le_refl _, Nat.le_refl _⟩, Nat.sub_self]
  exact Store.patch_all (by rw [Store.read_length])

theorem field_stored (addr : Nat) (field : RecField) (mem : Nat → U8)
    (same : ∀ a, addr ≤ a → mem a = old a) :
    Store.read (Store.run (field.stores addr) mem) addr field.size = field.bytes old addr := by
  cases field with
  | byte x => exact read_filled addr [x] mem
  | half x => exact read_filled addr (le16 x) mem
  | word x => exact read_filled addr (le32 x) mem
  | copied bs => exact read_filled addr bs mem
  | dummy n => exact Store.read_congr fun k _ => same (addr + k) (Nat.le_add_right addr k)

/-- Fields are stored one behind the other, each into memory that is still as it was. -/
theorem fields_stored (addr : Nat) (fields : List RecField) (mem : Nat → U8)
    (same : ∀ a, addr ≤ a → mem a = old a) :
    Store.read (Store.run (fieldsStores addr fields) mem) addr (fieldsSize fields) =
      fieldsBytes old addr fields := by
  induction fields generalizing addr mem with
  | nil => rfl
  | cons field rest ih =>
    rw [fieldsStores, Store.run_append, fieldsSize_cons, Store.read_add, fieldsBytes]
    congr 1
    · rw [← field_stored addr field mem same]
      apply Store.read_congr
      intro k inside
      exact Store.run_outside (fieldsStores_inside _ rest) (.inl (by omega)) _
    · apply ih
      intro a behind
      rw [Store.run_outside (field_stores_inside addr field) (.inr behind)]
      exact same a (by omega)

end Fields

section Sizes

/-- Only the three short requests are not as long as the size of their type. -/
theorem recFields_size {id : Nat} {ap : VaList} {fields : List RecField}
    (known : pcanUsbproRecFields id ap = some fields) :
    pcanUsbproSizeofRec (BitVec.ofNat 8 id) = some (1 + fieldsSize fields) ↔ ¬cutShort id := by
  unfold pcanUsbproRecFields at known
  split at known
  case h_32 => cases known
  all_goals
    obtain rfl := Option.some.inj known
    simp [fieldsSize, canmsgTxFields, VaList.copied, VaList.byte, VaList.half, VaList.word,
      RecField.size, cutShort]
    try decide

end Sizes

section Adding
variable {pm : PcanUsbproMsg} {recs : List (List U8)} {id : Nat} {ap : VaList}
  {fields : List RecField}

theorem u32At_stored (x : U32) (mem : Nat → U8) :
    u32At ((⟨0, le32 x⟩ : Store U8).apply mem) 0 = x :=
  u32At_le32 rfl rfl rfl rfl

theorem type_stored {a : Nat} (other : a ≠ pm.recPtr) (b : U8) (mem : Nat → U8) :
    (⟨pm.recPtr, [b]⟩ : Store U8).apply mem a = mem a := by
  have inside : (⟨pm.recPtr, [b]⟩ : Store U8).Inside pm.recPtr (pm.recPtr + 1) :=
    ⟨Nat.le_refl _, Nat.le_refl _⟩
  exact Store.apply_outside inside (by omega) mem

theorem counter_stored {a : Nat} (behind : 4 ≤ a) (x : U32) (mem : Nat → U8) :
    (⟨0, le32 x⟩ : Store U8).apply mem a = mem a := by
  have inside : (⟨0, le32 x⟩ : Store U8).Inside 0 4 := ⟨Nat.le_refl _, Nat.le_refl _⟩
  exact Store.apply_outside inside (.inr behind) mem

theorem storeRec_outside {a : Nat} (behind : 4 ≤ a)
    (outside : a < pm.recPtr ∨ pm.recPtr + (1 + fieldsSize fields) ≤ a) :
    pm.storeRec id fields a = pm.mem a := by
  unfold PcanUsbproMsg.storeRec
  rw [type_stored (by omega), counter_stored behind]
  exact Store.run_outside (fieldsStores_inside _ fields) (by omega) pm.mem

theorem storeRec_counter (room : 4 ≤ pm.recPtr) :
    u32At (pm.storeRec id fields) 0 = u32At pm.mem 0 + 1 := by
  have before : u32At (Store.run (fieldsStores (pm.recPtr + 1) fields) pm.mem) 0 =
      u32At pm.mem 0 := by
    have same : Agree 4 pm.mem (Store.run (fieldsStores (pm.recPtr + 1) fields) pm.mem) :=
      fun k less => Store.run_outside (fieldsStores_inside _ fields) (.inl (by omega)) pm.mem
    exact u32At_congr same (Nat.le_refl _)
  rw [← before, ← u32At_stored (_ + 1) (Store.run (fieldsStores (pm.recPtr + 1) fields) pm.mem)]
  refine u32At_congr ?_ (Nat.le_refl (0 + 4))
  exact fun k less => type_stored (by omega) _ _

theorem storeRec_read (room : 4 ≤ pm.recPtr) (same : ∀ a, pm.recPtr ≤ a → pm.mem a = old a) :
    Store.read (pm.storeRec id fields) pm.recPtr (1 + fieldsSize fields) =
      BitVec.ofNat 8 id :: fieldsBytes old (pm.recPtr + 1) fields := by
  rw [Store.read_add, ← List.singleton_append]
  congr 1
  · exact read_filled pm.recPtr [BitVec.ofNat 8 id] _
  · rw [← fields_stored (pm.recPtr + 1) fields pm.mem fun a after => same a (by omega)]
    apply Store.read_congr
    intro k _
    rw [PcanUsbproMsg.storeRec, type_stored (by omega), counter_stored (by omega)]

theorem addRec_known (known : pcanUsbproRecFields id ap = some fields) :
    (pcanUsbproMsgAddRec pm id ap).1 =
      { pm with
        mem := pm.storeRec id fields
        recPtr := pm.recPtr + (1 + fieldsSize fields)
        recBufferLen := pm.recBufferLen + (1 + fieldsSize fields) } := by
  unfold pcanUsbproMsgAddRec
  rw [known]

theorem addRec_holds (holds : HoldsRecs old recs pm)
    (known : pcanUsbproRecFields id ap = some fields) :
    HoldsRecs old (recs ++ [BitVec.ofNat 8 id :: fieldsBytes old (pm.recPtr + 1) fields])
      (pcanUsbproMsgAddRec pm id ap).1 := by
  have place := holds.ptr
  have size : (recs ++ [BitVec.ofNat 8 id :: fieldsBytes old (pm.recPtr + 1) fields]).flatten.length
      = recs.flatten.length + (1 + fieldsSize fields) := by
    rw [List.flatten_append, List.length_append, List.flatten_singleton, List.length_cons,
      fieldsBytes_length, Nat.add_comm (fieldsSize fields)]
  rw [addRec_known known]
  constructor
  case ptr =>
    rw [size, ← Nat.add_assoc 4, ← place]
  case len => exact congrArg (· + (1 + fieldsSize fields)) holds.len
  case counter =>
    rw [List.length_append, BitVec.ofNat_add, ← holds.counter]
    exact storeRec_counter (by omega)
  case bytes =>
    have before : Store.read (pm.storeRec id fields) 4 recs.flatten.length = recs.flatten := by
      refine Eq.trans ?_ holds.bytes
      apply Store.read_congr
      intro k inside
      exact storeRec_outside (Nat.le_add_right 4 k) (.inl (by omega))
    rw [size, Store.read_add, before, List.flatten_append, List.flatten_singleton, ← place,
      storeRec_read (by omega) holds.behind]
  case behind =>
    intro a after
    have more : pm.recPtr + (1 + fieldsSize fields) ≤ a := after
    exact (storeRec_outside (by omega) (.inr more)).trans (holds.behind a (by omega))

theorem addRecs_holds (holds : HoldsRecs old recs pm) (calls : List (Nat × VaList)) :
    HoldsRecs old (recs ++ addedRecs old pm.recPtr calls) (addRecs pm calls) := by
  induction calls generalizing pm recs with
  | nil =>
    rw [addedRecs, List.append_nil]
    exact holds
  | cons call rest ih =>
    obtain ⟨id, ap⟩ := call
    have step : addRecs pm ((id, ap) :: rest) = addRecs (pcanUsbproMsgAddRec pm id ap).1 rest := rfl
    rw [step, addedRecs]
    cases known : pcanUsbproRecFields id ap with
    | none =>
      have added : (pcanUsbproMsgAddRec pm id ap).1 = pm := by
        unfold pcanUsbproMsgAddRec
        rw [known]
      rw [added]
      exact ih holds
    | some fields =>
      have ptr : (pcanUsbproMsgAddRec pm id ap).1.recPtr =
          pm.recPtr + (1 + fieldsSize fields) := by
        rw [addRec_known known]
      have later := ih (addRec_holds holds known)
      rw [List.append_assoc, ptr] at later
      exact later

theorem initEmpty_holds {mem : Nat → U8} {bufferSize : Nat}
    (init : pcanUsbproMsgInitEmpty mem bufferSize = some pm) :
    HoldsRecs mem [] pm ∧ pm.recPtr = 4 ∧ pm.recBufferSize = bufferSize := by
  unfold pcanUsbproMsgInitEmpty at init
  split at init
  case isTrue => cases init
  case isFalse =>
    obtain rfl := Option.some.inj init
    exact ⟨⟨rfl, rfl, u32At_stored 0 mem, rfl, fun a after => counter_stored after 0 mem⟩, rfl, rfl⟩

end Adding

section Walking
variable {pm : PcanUsbproMsg}

/-- Whether the records are as long as the sizes of their types. -/
theorem addedRecs_tell (old : Nat → U8) (calls : List (Nat × VaList)) (ptr : Nat) :
    (∀ r ∈ addedRecs old ptr calls, RecordWalk.Tells nextUsbproRec r) ↔
      ∀ call ∈ calls, ¬cutShort call.1 := by
  induction calls generalizing ptr with
  | nil => simp [addedRecs]
  | cons call rest ih =>
    obtain ⟨id, ap⟩ := call
    rw [addedRecs, List.forall_mem_cons]
    cases known : pcanUsbproRecFields id ap with
    | none =>
      have whole : ¬cutShort id := by
        rintro (rfl | rfl | rfl) <;> cases known
      rw [ih ptr]
      exact (and_iff_right whole).symm
    | some fields =>
      rw [List.forall_mem_cons, ih (ptr + (1 + fieldsSize fields)), ← recFields_size known]
      refine and_congr_left fun _ => RecordWalk.tells_typed.trans ?_
      rw [List.length_cons, fieldsBytes_length, Nat.add_comm]

theorem addedRecs_filled (old : Nat → U8) (calls : List (Nat × VaList)) (ptr : Nat) :
    ∀ r ∈ addedRecs old ptr calls, 0 < r.length := by
  induction calls generalizing ptr with
  | nil => exact fun r member => absurd member List.not_mem_nil
  | cons call rest ih =>
    obtain ⟨id, ap⟩ := call
    rw [addedRecs]
    cases known : pcanUsbproRecFields id ap with
    | none => exact ih ptr
    | some fields =>
      rw [List.forall_mem_cons]
      exact ⟨Nat.succ_pos _, ih _⟩

theorem holds_walked {recs : List (List U8)} (holds : HoldsRecs old recs pm)
    (filled : ∀ r ∈ recs, 0 < r.length) (few : recs.length < 2 ^ 32) :
    pm.walked = recs ↔ ∀ r ∈ recs, RecordWalk.Tells nextUsbproRec r := by
  have stop : pm.recBufferLen = 4 + recs.flatten.length := holds.len.trans holds.ptr
  have counter : (u32At pm.mem 0).toNat = recs.length := by
    rw [holds.counter, BitVec.toNat_ofNat, Nat.mod_eq_of_lt few]
  unfold PcanUsbproMsg.walked
  rw [counter]
  constructor
  · intro same r member
    obtain ⟨place, lies, told⟩ := RecordWalk.walk_told recs.length 4 r (same ▸ member)
    cases r with
    | nil => exact absurd (filled [] member) (Nat.lt_irrefl 0)
    | cons b bs =>
      apply RecordWalk.tells_typed.mpr
      have first := congrArg List.head? lies
      rw [List.length_cons, Nat.add_comm, Store.read_add] at first
      have here : pm.mem place = b := Option.some.inj first
      rw [← here]
      exact told
  · intro tells
    apply RecordWalk.walk_layout recs tells _ 4 (Nat.le_refl _) holds.bytes (Nat.le_of_eq stop.symm)
    exact fun more => absurd more (by omega)

/-- Whatever records are put into a message that holds them, the message tells of them and nothing
    behind it has changed; by their types they are found again when none of the requests is cut. -/
theorem usbpro_records_walked_iff {mem : Nat → U8} {bufferSize : Nat}
    (init : pcanUsbproMsgInitEmpty mem bufferSize = some pm) (calls : List (Nat × VaList))
    (fits : (addRecs pm calls).recBufferLen ≤ bufferSize) (int : bufferSize < 2 ^ 31) :
    HoldsRecs mem (addedRecs mem 4 calls) (addRecs pm calls) ∧
      ((addRecs pm calls).walked = addedRecs mem 4 calls ↔ ∀ call ∈ calls, ¬cutShort call.1) := by
  obtain ⟨empty, ptr, _⟩ := initEmpty_holds init
  have holds := addRecs_holds empty calls
  rw [ptr, List.nil_append] at holds
  have filled : ∀ r ∈ addedRecs mem 4 calls, 0 < r.length := addedRecs_filled mem calls 4
  have few : (addedRecs mem 4 calls).length < 2 ^ 32 := by
    have count := RecordWalk.length_le_flatten filled
    have len : (addRecs pm calls).recBufferLen = 4 + (addedRecs mem 4 calls).flatten.length :=
      holds.len.trans holds.ptr
    omega
  exact ⟨holds, (holds_walked holds filled few).trans (addedRecs_tell mem calls 4)⟩

/-- A number for the device, and a request for a bit rate. -/
theorem usbpro_records_walked_iff_requests :
    ∃ pm, pcanUsbproMsgInitEmpty (fun _ => 0xee) 512 = some pm ∧
      ¬(addRecs pm [(0x06, ⟨fun _ => 7, fun _ => 0⟩), (0x01, ⟨fun _ => 1, fun _ => 0⟩)]).walked =
        addedRecs (fun _ => 0xee) 4
          [(0x06, ⟨fun _ => 7, fun _ => 0⟩), (0x01, ⟨fun _ => 1, fun _ => 0⟩)] := by
  have init : pcanUsbproMsgInitEmpty (fun _ => 0xee) 512 =
      some ⟨(⟨0, le32 0⟩ : Store U8).apply fun _ => 0xee, 4, 512, 4⟩ := rfl
  refine ⟨_, init, fun walked => ?_⟩
  have cut := (usbpro_records_walked_iff init
    [(0x06, ⟨fun _ => 7, fun _ => 0⟩), (0x01, ⟨fun _ => 1, fun _ => 0⟩)] (by decide)
    (by decide)).2.mp walked
  exact cut (0x01, ⟨fun _ => 1, fun _ => 0⟩) (by simp) (.inl rfl)

theorem command_whole (command : UsbproCommand) (stack : VaList) (nChannel : U32) :
    ∀ call ∈ command.calls stack nChannel, ¬cutShort call.1 := by
  cases command <;>
    simp [UsbproCommand.calls, pcanUsbproSetCanOn, pcanUsbproSetCanOff, pcanUsbproSetSilentMode,
      pcanUsbproSetFilterMode, pcanUsbproCalibrationRequest, pcanUsbproSetCanLed,
      pcanUsbproGetDeviceNrRequest, pcanUsbproSetDeviceNr, pcanUsbproSetBaudrate, cutShort]

theorem command_walked {mem : Nat → U8} (init : pcanUsbproMsgInitEmpty mem 512 = some pm)
    (command : UsbproCommand) (stack : VaList) (nChannel : U32) :
    (addRecs pm (command.calls stack nChannel)).recBufferLen ≤ 16 ∧
      (addRecs pm (command.calls stack nChannel)).walked =
        addedRecs mem 4 (command.calls stack nChannel) := by
  obtain ⟨empty, ptr, _⟩ := initEmpty_holds init
  have holds := addRecs_holds empty (command.calls stack nChannel)
  rw [ptr, List.nil_append] at holds
  have whole := (addedRecs_tell mem _ 4).mpr (command_whole command stack nChannel)
  have short : (addedRecs mem 4 (command.calls stack nChannel)).flatten.length ≤ 12 := by
    cases command <;> exact Nat.le_of_ble_eq_true rfl
  have count := RecordWalk.length_le_flatten (addedRecs_filled mem
    (command.calls stack nChannel) 4)
  refine ⟨by rw [holds.len, holds.ptr]; omega, ?_⟩
  exact (holds_walked holds (addedRecs_filled mem _ 4) (by omega)).mpr whole

end Walking

end PcanDriver
